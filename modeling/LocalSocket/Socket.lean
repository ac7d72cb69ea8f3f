import LocalSocket.Program
import LocalSocket.Window

/-!
# Operations on a socket

What channels rely on from the system.  Interrupted transfers are repeated,
conditions that are expected of a non-blocking socket become ordinary outcomes,
and all else is a failure.

An exhausted window is not passed to the system at all.
-/

namespace LocalSocket

inductive IoStatus where
  /-- How many bytes were moved; zero for exhausted windows. -/
  | transferred (count : Nat)
  | wouldBlock
  | endOfStream
  deriving DecidableEq, Repr

def IoStatus.madeProgress : IoStatus → Bool
  | .transferred count => decide (0 < count)
  | _ => false

inductive ConnectStatus where
  | connected
  | inProgress
  | interrupted
  deriving DecidableEq, Repr

inductive PollStatus where
  | ready (events : Events)
  | timedOut
  | interrupted
  deriving DecidableEq, Repr

def movedSomething {ε : Type} : Except ε IoStatus → Bool
  | .ok status => status.madeProgress
  | .error _ => false

namespace Socket

/-! ## Transfers -/

def idle (error : OsError) : Except OsError IoStatus :=
  if error.isWouldBlock then .ok .wouldBlock else .error error

def read (fd : Fd) (window : Window) :
    Program (Except OsError IoStatus × Window) :=
  if window.isExhausted then pure (.ok (.transferred 0), window)
  else do
    match ← Program.retry (.read fd window.room) with
    | .ok [] => pure (.ok .endOfStream, window)
    | .ok data =>
        pure (.ok (.transferred data.length),
          (window.fill data).advance data.length)
    | .error error => pure (idle error, window)

def write (fd : Fd) (window : Window) :
    Program (Except OsError IoStatus × Window) :=
  if window.isExhausted then pure (.ok (.transferred 0), window)
  else do
    match ← Program.retry (.write fd window.remaining) with
    | .ok count => pure (.ok (.transferred count), window.advance count)
    | .error error => pure (idle error, window)

def readMany (fd : Fd) (windows : List Window) :
    Program (Except OsError IoStatus × List Window) :=
  if windows.all Window.isExhausted then pure (.ok (.transferred 0), windows)
  else do
    match ← Program.retry (.readMany fd (windows.map Window.room)) with
    | .ok [] => pure (.ok .endOfStream, windows)
    | .ok data =>
        pure (.ok (.transferred data.length),
          Window.advanceAll (Window.fillAll windows data) data.length)
    | .error error => pure (idle error, windows)

def writeMany (fd : Fd) (windows : List Window) :
    Program (Except OsError IoStatus × List Window) :=
  if windows.all Window.isExhausted then pure (.ok (.transferred 0), windows)
  else do
    match ← Program.retry (.writeMany fd (windows.map Window.remaining)) with
    | .ok count =>
        pure (.ok (.transferred count), Window.advanceAll windows count)
    | .error error => pure (idle error, windows)

/-! ## Connections -/

def pendingCodes : List Errno := [Errno.inProgress, Errno.already, Errno.again]

def connect (fd : Fd) (record : Record) :
    Program (Except OsError ConnectStatus) := do
  match ← Program.call (.connect fd record) with
  | .ok () => pure (.ok .connected)
  | .error (.code errno) =>
      if errno ∈ pendingCodes then pure (.ok .inProgress)
      else if errno = Errno.interrupted then pure (.ok .interrupted)
      else pure (.error (.code errno))
  | .error error => pure (.error error)

def poll (fd : Fd) (events : Events) (timeout : Int) :
    Program (Except OsError PollStatus) := do
  match ← Program.call (.poll fd events timeout) with
  | .ok revents =>
      pure (.ok (if revents = 0 then .timedOut else .ready revents))
  | .error error =>
      pure (if error.isInterrupted then .ok .interrupted else .error error)

def bind (fd : Fd) (record : Record) : Program (Except OsError Unit) :=
  Program.call (.bind fd record)

/-- Releases a descriptor, however often the call is interrupted. -/
def close (fd : Fd) : Program (Except OsError Unit) :=
  Program.retry (.close fd)

def setBlocking (fd : Fd) (blocking : Bool) : Program (Except OsError Unit) :=
  Program.call (.setNonBlocking fd !blocking)

def shutdown (fd : Fd) (how : Shutdown) : Program (Except OsError Unit) :=
  Program.call (.shutdown fd how)

def localRecord (fd : Fd) : Program (Except OsError Record) :=
  Program.call (.localRecord fd)

def peerRecord (fd : Fd) : Program (Except OsError Record) :=
  Program.call (.peerRecord fd)

/-! ## Options -/

def getOption (fd : Fd) (scope : Scope) (option : OptionName) :
    Program (Except ChannelError OptionValue) :=
  match option.resolve scope with
  | .error error => pure (.error error)
  | .ok descriptor => do
      match ← Program.call
        (.getOption fd descriptor.level descriptor.number descriptor.form) with
      | .ok payload => pure (.ok payload.decode)
      | .error error => pure (.error (.socket error))

/-- Sets an option; the value is checked before the system is asked. -/
def setOption (fd : Fd) (scope : Scope) (option : OptionName)
    (value : OptionValue) :
    Program (Except ChannelError Unit) :=
  match option.resolve scope with
  | .error error => pure (.error error)
  | .ok descriptor =>
      match option.encode descriptor.form value with
      | .error error => pure (.error error)
      | .ok payload => do
          match ← Program.call
            (.setOption fd descriptor.level descriptor.number payload) with
          | .ok () => pure (.ok ())
          | .error error => pure (.error (.socket error))

end Socket

end LocalSocket
