import LocalSocket.Kernel.Basic

/-!
# Sending and receiving

A stream carries bytes: what is sent is cut into packets, and a read takes as
many bytes as it can without waiting.  A datagram is received as a whole or cut
off.
-/

namespace LocalSocket.Kernel

/-! ## Receiving -/

def takeBytes (length : Nat) : List Packet → Bytes × List Packet
  | [] => ([], [])
  | packet :: rest =>
      if length < packet.bytes.length then
        (packet.bytes.take length,
          { packet with bytes := packet.bytes.drop length } :: rest)
      else
        let (bytes, rest) := takeBytes (length - packet.bytes.length) rest
        (packet.bytes ++ bytes, rest)

def setReceived (kernel : Kernel) (id : SocketId) (packets : List Packet) :
    Kernel :=
  kernel.modify id fun endpoint => { endpoint with received := packets }

def report {α : Type} (kernel : Kernel) (id : SocketId) (errno : Errno) :
    Kernel × Attempt α :=
  (kernel.modify id fun endpoint => { endpoint with fault := none },
    .fails errno)

def awaitPacket (kernel : Kernel) (id : SocketId) (endpoint : Endpoint)
    (seesEnd : Bool) :
    Kernel × Attempt Bytes :=
  match endpoint.fault with
  | some errno => kernel.report id errno
  | none =>
      if endpoint.inputShut && seesEnd then (kernel, .gives [])
      else (kernel, if endpoint.isNonBlocking then .fails Errno.again
                    else .waits 0)

def receiveStream (kernel : Kernel) (id : SocketId) (endpoint : Endpoint)
    (length : Nat) :
    Kernel × Attempt Bytes :=
  if !endpoint.isConnected then (kernel, .fails Errno.invalidArgument)
  else if endpoint.received.isEmpty then kernel.awaitPacket id endpoint true
  else
    let (bytes, packets) := takeBytes length endpoint.received
    (kernel.setReceived id packets, .gives bytes)

/-- A datagram socket in non-blocking mode does not see that its input was shut
down. -/
def receiveDatagram (kernel : Kernel) (id : SocketId) (endpoint : Endpoint)
    (length : Nat) :
    Kernel × Attempt Bytes :=
  match endpoint.fault, endpoint.received with
  | none, packet :: rest =>
      (kernel.setReceived id rest, .gives (packet.bytes.take length))
  | _, _ =>
      kernel.awaitPacket id endpoint
        (endpoint.isConnectionBased || !endpoint.isNonBlocking)

def receive (kernel : Kernel) (id : SocketId) (endpoint : Endpoint)
    (length : Nat) :
    Kernel × Attempt Bytes :=
  if length = 0 then (kernel, .gives [])
  else
    match endpoint.type with
    | .stream => kernel.receiveStream id endpoint length
    | .dgram => kernel.receiveDatagram id endpoint length
    | .seqpacket =>
        if endpoint.isConnected then kernel.receiveDatagram id endpoint length
        else (kernel, .fails Errno.notConnected)

/-! ## Sending -/

inductive Obstacle where
  | fault (errno : Errno)
  | shut
  | full

/-- A thread that has waited for memory goes on when there is room to spare. -/
def obstacle? (kernel : Kernel) (id : SocketId) (endpoint : Endpoint)
    (hasWaited : Bool) :
    Option Obstacle :=
  match endpoint.fault with
  | some errno => some (.fault errno)
  | none =>
      if endpoint.outputShut then some .shut
      else if hasWaited && !kernel.isWritable id endpoint then some .full
      else if kernel.hasRoom id endpoint then none
      else some .full

def deliver (kernel : Kernel) (id peer : SocketId) (bytes : Bytes) : Kernel :=
  kernel.modify peer fun endpoint =>
    { endpoint with received := endpoint.received ++ [.ofBytes id bytes] }

def partly (kernel : Kernel) (moved : Nat) (errno : Errno) :
    Kernel × Attempt Nat :=
  (kernel, if 0 < moved then .gives moved else .fails errno)

def sendPackets (kernel : Kernel) (id peer : SocketId) (hasWaited : Bool)
    (moved : Nat) :
    List Bytes → Kernel × Attempt Nat
  | [] => (kernel, .gives moved)
  | bytes :: rest =>
      match kernel.endpoint? id with
      | none => kernel.partly moved Errno.notConnected
      | some endpoint =>
          match kernel.obstacle? id endpoint hasWaited with
          | some (.fault errno) =>
              let kernel := kernel.modify id
                fun endpoint => { endpoint with fault := none }
              kernel.partly moved errno
          | some .shut => kernel.partly moved Errno.brokenPipe
          | some .full =>
              if endpoint.isNonBlocking then kernel.partly moved Errno.again
              else (kernel, .waits moved)
          | none =>
              let kernel := kernel.deliver id peer bytes
              kernel.sendPackets id peer false (moved + bytes.length) rest

def cut (capacity : Nat) (bytes : Bytes) : List Bytes :=
  if _ : bytes.isEmpty ∨ capacity = 0 then []
  else bytes.take capacity :: cut capacity (bytes.drop capacity)
  termination_by bytes.length
  decreasing_by
    cases bytes with
    | nil => simp_all
    | cons => simp_all; omega

def sendStream (kernel : Kernel) (id : SocketId) (endpoint : Endpoint)
    (bytes : Bytes) (waited : Option Nat) : Kernel × Attempt Nat :=
  match endpoint.peer with
  | none => (kernel, .fails Errno.notConnected)
  | some peer =>
      if endpoint.outputShut && waited.isNone then
          (kernel, .fails Errno.brokenPipe)
      else
        let moved := waited.getD 0
        kernel.sendPackets id peer waited.isSome moved
          (cut (Packet.capacity endpoint.options.sendBuffer) (bytes.drop moved))

def passDatagram (kernel : Kernel) (id : SocketId) (endpoint : Endpoint)
    (bytes : Bytes) (peer : SocketId) (other : Endpoint) :
    Kernel × Attempt Nat :=
  if !other.isOpen then
    (kernel.modify id fun endpoint =>
      { endpoint with peer := none, phase := .unconnected, received := [] },
      .fails Errno.connectionRefused)
  else if !acceptsFrom id other then
    (kernel, .fails Errno.notPermitted)
  else if other.inputShut then (kernel, .fails Errno.brokenPipe)
  else if !kernel.peerHasRoom id endpoint then
    (kernel, if endpoint.isNonBlocking then .fails Errno.again else .waits 0)
  else (kernel.deliver id peer bytes, .gives bytes.length)

def sendDatagram (kernel : Kernel) (id : SocketId) (endpoint : Endpoint)
    (bytes : Bytes) (waited : Option Nat) : Kernel × Attempt Nat :=
  if bytes.length > endpoint.options.sendBuffer -
      32 then (kernel, .fails Errno.messageTooLong)
  else
    match kernel.obstacle? id endpoint waited.isSome with
    | some (.fault errno) => kernel.report id errno
    | some .shut => (kernel, .fails Errno.brokenPipe)
    | some .full =>
        (kernel, if endpoint.isNonBlocking then .fails Errno.again
                 else .waits 0)
    | none =>
        match endpoint.peer with
        | none => (kernel, .fails Errno.notConnected)
        | some peer =>
            match kernel.endpoint? peer with
            | none => (kernel, .fails Errno.connectionRefused)
            | some other => kernel.passDatagram id endpoint bytes peer other

def send (kernel : Kernel) (id : SocketId) (endpoint : Endpoint) (bytes : Bytes)
    (waited : Option Nat) : Kernel × Attempt Nat :=
  match endpoint.type with
  | .stream => kernel.sendStream id endpoint bytes waited
  | .dgram => kernel.sendDatagram id endpoint bytes waited
  | .seqpacket =>
      if endpoint.isConnected then kernel.sendDatagram id endpoint bytes waited
      else (kernel, .fails Errno.notConnected)

end LocalSocket.Kernel
