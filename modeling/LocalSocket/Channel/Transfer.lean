import LocalSocket.Channel.Close

/-!
# Reading, writing and waiting

A transfer holds the lock of its direction and records its thread while it is
inside the call.  A direction that has been shut down makes no call: reading
finds the end of the stream, writing finds the channel closed.
-/

namespace LocalSocket.Channel

open Operating

/-! ## Transfers -/

/-- Checks that the channel is open and connected, and records the thread if the
direction is open.  The result tells whether it is. -/
def beginTransfer (direction : Direction) : Operating Bool :=
  holding .state do
    ensureOpen
    let fields ← perform .fields
    if fields.state ≠ .connected then
      throw .notYetConnected
    if fields.isDirectionOpen direction then
      enter direction
      pure true
    else
      pure false

def isDirectionOpen (direction : Direction) : Operating Bool :=
  holding .state do
    let fields ← perform .fields
    pure (fields.isDirectionOpen direction)

def endTransfer (direction : Direction) (result : Except OsError IoStatus) :
    Operating Bool := do
  let completed := movedSomething result
  leave direction completed
  if completed then pure true else isDirectionOpen direction

/-- Moves bytes in a direction with `transfer`, which returns the buffers along
with its outcome.  If the direction has been shut down before the call, or
during a call that has moved nothing, that is the outcome. -/
def transferWith {β : Type} (direction : Direction)
    (shutBefore shutMeanwhile : Except ChannelError IoStatus) (buffers : β)
    (transfer : Program (Except OsError IoStatus × β)) :
    Program (Except ChannelError IoStatus × β) :=
  Program.holding direction.lock do
    match ← (beginTransfer direction).run with
    | .error error => pure (.error error, buffers)
    | .ok false => pure (shutBefore, buffers)
    | .ok true =>
        let (result, buffers) ← transfer
        match ← (endTransfer direction result).run with
        | .error error => pure (.error error, buffers)
        | .ok false => pure (shutMeanwhile, buffers)
        | .ok true => pure (result.mapError .socket, buffers)

def readWith {β : Type} (buffers : β)
    (transfer : Program (Except OsError IoStatus × β)) :
    Program (Except ChannelError IoStatus × β) :=
  transferWith .input (.ok .endOfStream) (.ok .endOfStream) buffers transfer

def writeWith {β : Type} (buffers : β)
    (transfer : Program (Except OsError IoStatus × β)) :
    Program (Except ChannelError IoStatus × β) :=
  transferWith .output (.error .closed)
    (.error .asynchronousClose) buffers transfer

def read (fd : Fd) (window : Window) :
    Program (Except ChannelError IoStatus × Window) :=
  readWith window (Socket.read fd window)

def readMany (fd : Fd) (windows : List Window) :
    Program (Except ChannelError IoStatus × List Window) :=
  readWith windows (Socket.readMany fd windows)

def write (fd : Fd) (window : Window) :
    Program (Except ChannelError IoStatus × Window) :=
  writeWith window (Socket.write fd window)

def writeMany (fd : Fd) (windows : List Window) :
    Program (Except ChannelError IoStatus × List Window) :=
  writeWith windows (Socket.writeMany fd windows)

/-! ## Plain streams -/

def wouldBlock : OsError := .custom .wouldBlock "operation would block"

def streamResult (result : Except ChannelError IoStatus) : Except OsError Nat :=
  match result with
  | .ok (.transferred count) => .ok count
  | .ok .endOfStream => .ok 0
  | .ok .wouldBlock => .error wouldBlock
  | .error error => .error error.toOsError

/-- Reads at most `length` bytes into a buffer of zeros. -/
def receive (fd : Fd) (length : Nat) :
    Program (Except OsError Nat × Bytes) := do
  let (result, window) ← read fd ⟨Bytes.zeros length, 0⟩
  pure (streamResult result, window.buffer)

def send (fd : Fd) (bytes : Bytes) : Program (Except OsError Nat) := do
  let (result, _) ← write fd ⟨bytes, 0⟩
  pure (streamResult result)

/-! ## Shutting down a direction -/

def Direction.how : Direction → Shutdown
  | .input => .read
  | .output => .write

/-- Shuts down one direction; doing so again has no effect. -/
def shutdown (fd : Fd) (direction : Direction) : Operating Unit :=
  holding .state do
    ensureOpen
    let fields ← perform .fields
    if fields.state ≠ .connected then
      throw .notYetConnected
    if fields.isDirectionOpen direction then
      onSocket (Socket.shutdown fd (Direction.how direction))
      perform (.put (fields.shutDirection direction))

/-! ## Waiting -/

def enterOpen : Operating Unit :=
  holding .state do
    ensureOpen
    enter .input

def isReady {ε : Type} : Except ε PollStatus → Bool
  | .ok (.ready _) => true
  | _ => false

/-- Waits until an operation of interest is ready, at most for `timeout` or for
ever. -/
def poll (fd : Fd) (interest : Interest) (timeout : Option Duration) :
    Operating PollStatus := do
  if ← perform .isBlocking then
    throw .illegalBlockingMode
  let millis : Int :=
    match timeout with
    | none => -1
    | some timeout => timeout.timeoutMillis
  holding .read do
    enterOpen
    let result ← ExceptT.lift (Socket.poll fd interest.events millis)
    leave .input (isReady result)
    returning (result.mapError .socket)

end LocalSocket.Channel
