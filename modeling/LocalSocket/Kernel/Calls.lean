import LocalSocket.Kernel.Connection
import LocalSocket.Kernel.Transfer

/-!
# Carrying out calls

Each call is attempted as a whole.  An attempt gives a value, fails, or leaves
the thread waiting; a call that waits is attempted again later, with what it has
moved so far.
-/

namespace LocalSocket.Kernel

def onSocket {α : Type} (kernel : Kernel) (fd : Fd)
    (use : SocketId → Endpoint → Kernel × Attempt α) : Kernel × Attempt α :=
  match kernel.socket? fd with
  | some (id, endpoint) => use id endpoint
  | none => (kernel, .fails Errno.badDescriptor)

def changed (kernel : Kernel) : Except Errno Kernel → Kernel × Attempt Unit
  | .ok kernel => (kernel, .gives ())
  | .error errno => (kernel, .fails errno)

def filed (kernel : Kernel) : Except Errno FileSystem → Kernel × Attempt Unit
  | .ok files => ({ kernel with files }, .gives ())
  | .error errno => (kernel, .fails errno)

def buffersMax : Nat := 1024

/-- Events that are reported whether or not they are asked for. -/
def alwaysReported : Events := Events.error ||| Events.hangUp

/-- A negative descriptor is passed over, and one that is not in use is
invalid. -/
def poll (kernel : Kernel) (fd : Fd) (events : Events) (timeout : Int) :
    Attempt Events :=
  if fd < 0 then if timeout = 0 then .gives 0 else .waits 0
  else
    match kernel.socket? fd with
    | none => .gives Events.invalid
    | some (id, endpoint) =>
        let ready := kernel.events id endpoint &&& (events ||| alwaysReported)
        if ready ≠ 0 ∨ timeout = 0 then .gives ready else .waits 0

def getOption (endpoint : Endpoint) (level number : Int) : Attempt Payload :=
  if level ≠ Level.socket then .fails Errno.notSupported
  else if number = Number.peerCredentials then
    .gives (.credentials (endpoint.peerCredentials.getD nobody))
  else
    match endpoint.options.get? number with
    | some payload => .gives payload
    | none => .fails Errno.noProtocolOption

def setOption (kernel : Kernel) (id : SocketId) (endpoint : Endpoint)
    (level number : Int) (payload : Payload) : Kernel × Attempt Unit :=
  if level ≠ Level.socket then (kernel, .fails Errno.notSupported)
  else
    match endpoint.options.set number payload with
    | .ok options =>
        (kernel.modify id fun endpoint => { endpoint with options }, .gives ())
    | .error errno => (kernel, .fails errno)

/-- The record of the socket that a socket sends to; its name is known even when
it has been closed. -/
def peerRecord (kernel : Kernel) (endpoint : Endpoint) : Attempt Record :=
  match endpoint.peer.bind kernel.endpoint? with
  | some peer => .gives peer.record
  | none => .fails Errno.notConnected

/-- Attempts a call.  `waited` is how many bytes it has moved if it has waited
before. -/
def attempt (kernel : Kernel) (waited : Option Nat) :
    (call : Call) → Kernel × Attempt call.Value
  | .socket type =>
      let (kernel, id) := kernel.add { type }
      let (kernel, fd) := kernel.describe id
      (kernel, .gives fd)
  | .read fd length =>
      kernel.onSocket fd fun id endpoint => kernel.receive id endpoint length
  | .readMany fd lengths =>
      kernel.onSocket fd fun id endpoint =>
        if lengths.length > buffersMax then
            (kernel, .fails Errno.invalidArgument)
        else kernel.receive id endpoint (total lengths)
  | .write fd bytes =>
      kernel.onSocket fd fun id endpoint => kernel.send id endpoint bytes waited
  | .writeMany fd parts =>
      kernel.onSocket fd fun id endpoint =>
        if parts.length > buffersMax then (kernel, .fails Errno.invalidArgument)
        else kernel.send id endpoint parts.flatten waited
  | .close fd =>
      kernel.onSocket fd
        fun id endpoint => (kernel.close fd id endpoint, .gives ())
  | .wake fd =>
      kernel.onSocket fd
        fun id endpoint => (kernel.shutdown id endpoint .both, .gives ())
  | .signal thread =>
      ({ kernel with signalled := thread :: kernel.signalled }, .gives ())
  | .setNonBlocking fd nonBlocking =>
      kernel.onSocket fd fun id _ =>
        (kernel.modify id fun endpoint =>
          { endpoint with isNonBlocking := nonBlocking },
          .gives ())
  | .connect fd record =>
      kernel.onSocket fd fun id endpoint => kernel.connect id endpoint record
  | .bind fd record =>
      kernel.onSocket fd
        fun id endpoint => kernel.changed (kernel.bind id endpoint record)
  | .localRecord fd =>
      kernel.onSocket fd fun _ endpoint => (kernel, .gives endpoint.record)
  | .peerRecord fd =>
      kernel.onSocket fd fun _ endpoint => (kernel, kernel.peerRecord endpoint)
  | .poll fd events timeout => (kernel, kernel.poll fd events timeout)
  | .shutdown fd how =>
      kernel.onSocket fd
        fun id endpoint => (kernel.shutdown id endpoint how, .gives ())
  | .getOption fd level number _ =>
      kernel.onSocket fd
        fun _ endpoint => (kernel, getOption endpoint level number)
  | .setOption fd level number payload =>
      match payload with
      | .credentials _ => (kernel, .fails Errno.noProtocolOption)
      | payload =>
          kernel.onSocket fd fun id endpoint =>
            kernel.setOption id endpoint level number payload
  | .isLocal fd type =>
      kernel.onSocket fd
        fun _ endpoint => (kernel, .gives (endpoint.type == type))
  | .isNonBlocking fd =>
      kernel.onSocket fd
        fun _ endpoint => (kernel, .gives endpoint.isNonBlocking)
  | .listen fd backlog =>
      kernel.onSocket fd
        fun id endpoint => kernel.changed (kernel.listen id endpoint backlog)
  | .accept fd => kernel.onSocket fd
        fun id endpoint => kernel.accept id endpoint
  | .isSocketFile path => (kernel, .ofExcept (kernel.files.isSocketFile path))
  | .unlink path => kernel.filed (kernel.files.unlink path)
  | .makeFolders path => kernel.filed (kernel.files.makeFolders path)

/-! ## Ends of waiting -/

def cutShort (errno : Errno) (moved : Nat) : (call : Call) → call.Answer
  | .write .. | .writeMany .. =>
      if 0 < moved then .ok moved else .error (.code errno)
  | _ => .error (.code errno)

def expired (moved : Nat) : (call : Call) → call.Answer
  | .poll .. => .ok 0
  | call => cutShort Errno.again moved call

/-- How many milliseconds a call waits; `none` is for ever. -/
def limit? (kernel : Kernel) : Call → Option Nat
  | .poll _ _ timeout => if timeout < 0 then none else some timeout.toNat
  | .read fd _ | .readMany fd _ => do
      let (_, endpoint) ← kernel.socket? fd
      let timeout := endpoint.options.receiveTimeout
      if timeout = .zero then none else some timeout.timeoutMillis
  | _ => none

end LocalSocket.Kernel
