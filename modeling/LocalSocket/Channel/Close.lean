import LocalSocket.Socket

/-!
# Closing a channel

Only the first attempt to close a channel has an effect.  It clears the open
flag, wakes the threads that are inside a call, and releases the descriptor as
soon as nobody uses it anymore: if a thread or a registration still does, the
last of them releases it on leaving.
-/

namespace LocalSocket

abbrev Operating (α : Type) := ExceptT ChannelError Program α

namespace Operating

def perform (action : Action) : Operating action.Result :=
  ExceptT.lift (Program.perform action)

/-- Runs `body` while holding a lock, which is given up however the body
ends. -/
def holding {α : Type} (lock : Lock) (body : Operating α) : Operating α :=
  ExceptT.mk (Program.holding lock body.run)

/-- A program on the socket; its failure is one of the channel. -/
def onSocket {α : Type} (program : Program (Except OsError α)) : Operating α :=
  ExceptT.mk do
    match ← program with
    | .ok value => pure (.ok value)
    | .error error => pure (.error (.socket error))

def returning {α : Type} (result : Except ChannelError α) : Operating α :=
  ExceptT.mk (pure result)

def quietly (program : Operating Unit) : Operating Unit :=
  ExceptT.lift do
    let _ ← program.run
    pure ()

end Operating

namespace Channel

open Operating

def ensureOpen : Operating Unit := do
  unless ← perform .isOpen do
    throw .closed

def ensureStillOpen : Operating Unit := do
  unless ← perform .isOpen do
    throw .asynchronousClose

/-- Releases the descriptor, or leaves that to the users it still has.  The
state lock is held. -/
def release : Operating Unit := do
  let fields ← perform .fields
  if fields.state = .killed then
    pure ()
  else if fields.isUsed then
    perform (.put { fields with state := .killPending })
  else
    perform (.put { fields with state := .killed, holder := none })
    match fields.holder with
    | none => pure ()
    | some fd =>
        match ← ExceptT.lift (Socket.close fd) with
        | .ok () => pure ()
        | .error error => throw (.close fd error)

def signalAll : List Thread → Program Bool
  | [] => pure false
  | thread :: rest => do
      match ← Program.call (.signal thread) with
      | .ok () => signalAll rest
      | .error _ => pure true

/-- Signals the threads inside a call, again and again, until all of them have
left or a signal fails.  A signal that comes before its thread has entered the
call is lost. -/
def signalUsers : Program Unit :=
  .loop
    (do
      let isOver ← Program.holding .state do
        let fields ← Program.perform .fields
        if fields.threads.isEmpty then pure true else signalAll fields.threads
      if isOver then pure (some ())
      else do
        Program.perform .pause
        pure none)
    .done

/-- The part of closing that needs the state lock. -/
def shutDown : Operating Unit := do
  let fields ← perform .fields
  perform (.put { fields with inputOpen := false, outputOpen := false })
  if let some fd := fields.holder then
    unless fields.threads.isEmpty do
      let _ ← ExceptT.lift (Program.call (.wake fd))
  release

def close : Operating Unit :=
  ExceptT.mk do
    if ← Program.perform .closeOnce then
      let result ← (holding .state shutDown).run
      signalUsers
      pure result
    else
      pure (.ok ())

/-! ## Users of the descriptor -/

/-- Records the running thread as using the descriptor.  The state lock is
held. -/
def enter (direction : Direction) : Operating Unit := do
  let thread ← perform .thread
  let fields ← perform .fields
  perform (.put (fields.setSlot direction (some thread)))

/-- Undoes `enter`, and releases the descriptor if that was left to this thread.
Unless the operation was completed, a channel that was closed meanwhile is an
error. -/
def leave (direction : Direction) (completed : Bool) : Operating Unit := do
  holding .state do
    let fields ← perform .fields
    perform (.put (fields.setSlot direction none))
    if fields.state = .killPending then
      quietly release
  unless completed do
    ensureStillOpen

def register : Operating Unit :=
  holding .state do
    let fields ← perform .fields
    ensureOpen
    if ← perform .isBlocking then
      throw .illegalBlockingMode
    perform (.put { fields with registrations := fields.registrations + 1 })

def deregister : Operating Unit :=
  holding .state do
    let fields ← perform .fields
    perform (.put { fields with registrations := fields.registrations - 1 })
    if fields.state = .killPending then
      release

end Channel

end LocalSocket
