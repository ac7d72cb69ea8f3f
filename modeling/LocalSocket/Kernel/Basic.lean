import LocalSocket.Kernel.Endpoint

/-!
# The kernel

A model of the part of an operating system that local sockets belong to: files,
sockets, and the descriptors of one process.

Sockets are numbered in the order in which they are made.  A closed socket stays
in the list, for others may still refer to it.
-/

namespace LocalSocket

structure Kernel where
  files : Kernel.FileSystem := .initial
  endpoints : List Kernel.Endpoint := []
  descriptors : List (Fd × Kernel.SocketId) := []
  /-- The abstract names in use; each type of socket has names of its own. -/
  names : List ((SocketType × Address) × Kernel.SocketId) := []
  chosenNames : Nat := 0
  signalled : List Thread := []
  deriving DecidableEq, Repr

namespace Kernel

def process : Credentials := ⟨4242, 1000, 100⟩

/-- What a socket that never was connected reports in place of credentials. -/
def nobody : Credentials := ⟨0, 0xffffffff, 0xffffffff⟩

def firstFd : Nat := 3

def modify (kernel : Kernel) (id : SocketId) (f : Endpoint → Endpoint) :
    Kernel :=
  { kernel with endpoints := kernel.endpoints.modify id f }

def endpoint? (kernel : Kernel) (id : SocketId) : Option Endpoint :=
  kernel.endpoints[id]?

def socket? (kernel : Kernel) (fd : Fd) : Option (SocketId × Endpoint) := do
  let id ← kernel.descriptors.lookup fd
  let endpoint ← kernel.endpoint? id
  pure (id, endpoint)

def add (kernel : Kernel) (endpoint : Endpoint) : Kernel × SocketId :=
  ({ kernel with endpoints := kernel.endpoints ++ [endpoint] },
    kernel.endpoints.length)

def freeFd (kernel : Kernel) : Fd :=
  let candidates :=
    (List.range (kernel.descriptors.length + 1)).map fun (n : Nat) =>
    ((firstFd + n : Nat) : Fd)
  (candidates.find? fun fd => (kernel.descriptors.lookup fd).isNone).getD
    firstFd

def describe (kernel : Kernel) (id : SocketId) : Kernel × Fd :=
  let fd := kernel.freeFd
  ({ kernel with descriptors := (fd, id) :: kernel.descriptors }, fd)

/-! ## Memory and readiness -/

def charged (kernel : Kernel) (id : SocketId) : Nat :=
  total <| kernel.endpoints.map fun endpoint =>
    total ((endpoint.received.filter (·.sender = id)).map Packet.charge)

def hasRoom (kernel : Kernel) (id : SocketId) (endpoint : Endpoint) : Bool :=
  kernel.charged id < endpoint.options.sendBuffer

def isWritable (kernel : Kernel) (id : SocketId) (endpoint : Endpoint) : Bool :=
  !endpoint.isListening && 4 * (kernel.charged id + 1) ≤
    endpoint.options.sendBuffer

def datagramBacklog : Nat := 10

def isFull (endpoint : Endpoint) : Bool :=
  endpoint.received.length > datagramBacklog

def acceptsFrom (id : SocketId) (other : Endpoint) : Bool :=
  other.peer.isNone || other.peer == some id

/-- Whether a socket can send to its peer, so far as the peer is concerned.  Two
sockets that send to each other wait for memory only. -/
def peerHasRoom (kernel : Kernel) (id : SocketId) (endpoint : Endpoint) :
    Bool :=
  match endpoint.peer.bind kernel.endpoint? with
  | none => true
  | some peer =>
      endpoint.isConnectionBased || peer.peer == some id || !isFull peer

def readableAny : Events := 0x41
def writableAny : Events := 0x304
def peerShut : Events := 0x2000

def events (kernel : Kernel) (id : SocketId) (endpoint : Endpoint) : Events :=
  let part (condition : Bool) (events : Events) : Events :=
    if condition then events else 0
  part endpoint.fault.isSome Events.error |||
  part (endpoint.inputShut && endpoint.outputShut) Events.hangUp |||
  part endpoint.inputShut (readableAny ||| peerShut) |||
  part (!endpoint.received.isEmpty) readableAny |||
  part (endpoint.isConnectionBased && endpoint.phase == .unconnected)
    Events.hangUp |||
  part (kernel.isWritable id endpoint && kernel.peerHasRoom id endpoint)
    writableAny

/-! ## Descriptors and addresses -/

inductive Attempt (α : Type) where
  | gives (value : α)
  | fails (errno : Errno)
  /-- The calling thread has to wait; it has moved some bytes already. -/
  | waits (moved : Nat)
  deriving DecidableEq, Repr

def Attempt.ofExcept {α : Type} : Except Errno α → Attempt α
  | .ok value => .gives value
  | .error errno => .fails errno

def nameOf (record : Record) : Except Errno Address :=
  if record.length ≤ Record.pathOffset ∨ record.length > Record.fullLength then
    .error Errno.invalidArgument
  else .ok record.toAddress

end Kernel

end LocalSocket
