import LocalSocket.Call
import LocalSocket.Kernel.FileSystem

/-!
# Sockets of the kernel

What the kernel knows of a socket: whom it is connected to, what it has
received, which directions are shut down, and its options.

Bytes travel in packets.  Until the last byte of a packet has been read, the
memory it takes is charged to its sender, who may send as long as less than the
size of its send buffer is charged to it.
-/

namespace LocalSocket.Kernel

def roundUp (unit size : Nat) : Nat :=
  (size + unit - 1) / unit * unit

/-! ## Packets -/

structure Packet where
  bytes : Bytes
  sender : SocketId
  charge : Nat
  deriving DecidableEq, Repr

namespace Packet

def page : Nat := 4096

def headMax : Nat := 3776

def pagesMax : Nat := 8 * page

def paged (length : Nat) : Nat :=
  if length ≤ headMax then 0 else min length (roundUp page (length - headMax))

def block (length : Nat) : Nat :=
  if length ≤ 192 then 512
  else if length ≤ 704 then 1024
  else if length ≤ 1728 then 2048
  else page

def memory (length : Nat) : Nat :=
  block (length - paged length) + 256 + roundUp page (paged length)

def capacity (sendBuffer : Nat) : Nat :=
  min (sendBuffer / 2 - 64) (headMax + pagesMax)

def ofBytes (sender : SocketId) (bytes : Bytes) : Packet where
  bytes := bytes
  sender := sender
  charge := memory bytes.length

end Packet

/-! ## Connections -/

inductive Phase where
  | unconnected
  /-- Connections that have not been accepted yet wait in line, by their near
  ends. -/
  | listening (backlog : Nat) (waiting : List SocketId)
  | connected
  deriving DecidableEq, Repr

/-! ## Options -/

/-- The size of a buffer that nobody has set. -/
def bufferDefault : Nat := 212992

def bufferMax : Nat := 4194304

def sendBufferMin : Nat := 4608

def receiveBufferMin : Nat := 2304

/-- Timeouts are kept in steps of this many milliseconds. -/
def tick : Nat := 4

structure Options where
  sendBuffer : Nat := bufferDefault
  receiveBuffer : Nat := bufferDefault
  keepAlive : Bool := false
  reuseAddress : Bool := false
  broadcast : Bool := false
  linger : Option Int := none
  /-- Zero stands for no limit. -/
  receiveTimeout : Duration := .zero
  deriving DecidableEq, Repr

namespace Options

def bufferSize (least : Nat) (size : Int) : Nat :=
  max (2 * min size.toNat bufferMax) least

def set (options : Options) (number : Int) : Payload → Except Errno Options
  | .int value =>
      if number = Number.sendBuffer then
        .ok { options with sendBuffer := bufferSize sendBufferMin value }
      else if number = Number.receiveBuffer then
        .ok { options with receiveBuffer := bufferSize receiveBufferMin value }
      else if number = Number.keepAlive then
        .ok { options with keepAlive := value != 0 }
      else if number = Number.reuseAddress then
        .ok { options with reuseAddress := value != 0 }
      else if number = Number.broadcast then
        .ok { options with broadcast := value != 0 }
      else .error Errno.noProtocolOption
  | .linger seconds =>
      if number = Number.linger then .ok { options with linger := seconds }
      else .error Errno.noProtocolOption
  | .timeval timeout =>
      if number = Number.receiveTimeout then
        .ok
          { options with
            receiveTimeout := .ofMillis (roundUp tick timeout.toMillis) }
      else .error Errno.noProtocolOption
  | .byte _ => .error Errno.invalidArgument
  | .credentials _ => .error Errno.noProtocolOption

def switch (value : Bool) : Payload :=
  .int (if value then 1 else 0)

def get? (options : Options) (number : Int) : Option Payload :=
  if number = Number.sendBuffer then some (.int options.sendBuffer)
  else if number = Number.receiveBuffer then some (.int options.receiveBuffer)
  else if number = Number.keepAlive then some (switch options.keepAlive)
  else if number = Number.reuseAddress then some (switch options.reuseAddress)
  else if number = Number.broadcast then some (switch options.broadcast)
  else if number = Number.linger then some (.linger options.linger)
  else if number = Number.receiveTimeout then
    some (.timeval options.receiveTimeout)
  else none

end Options

/-! ## Sockets -/

structure Endpoint where
  type : SocketType
  isOpen : Bool := true
  isNonBlocking : Bool := false
  name : Option Address := none
  phase : Phase := .unconnected
  peer : Option SocketId := none
  received : List Packet := []
  inputShut : Bool := false
  outputShut : Bool := false
  fault : Option Errno := none
  options : Options := {}
  peerCredentials : Option Credentials := none
  deriving DecidableEq, Repr

namespace Endpoint

def isConnectionBased (endpoint : Endpoint) : Bool :=
  endpoint.type != .dgram

def isConnected (endpoint : Endpoint) : Bool :=
  endpoint.phase == .connected

def isListening (endpoint : Endpoint) : Bool :=
  match endpoint.phase with
  | .listening .. => true
  | _ => false

def shut (endpoint : Endpoint) : Shutdown → Endpoint
  | .read => { endpoint with inputShut := true }
  | .write => { endpoint with outputShut := true }
  | .both => { endpoint with inputShut := true, outputShut := true }

/-- The record of the bound address, as the kernel reports it: a path is counted
with the NUL byte behind it. -/
def record (endpoint : Endpoint) : Record :=
  match endpoint.name with
  | none => .unnamed
  | some name =>
      .holding name.path
        (Record.pathOffset + name.path.length + if name.isFile then 1 else 0)

end Endpoint

end LocalSocket.Kernel
