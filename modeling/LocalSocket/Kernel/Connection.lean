import LocalSocket.Kernel.Basic

/-!
# Names and connections

Binding, listening, connecting and accepting, and their undoing.

A connection is made when `connect` finds the listening socket: the near end of
the connection exists from then on, waits to be accepted, and can already be
sent to.
-/

namespace LocalSocket.Kernel

/-! ## Binding -/

def chosenName (number : Nat) : Address :=
  let digits := (Nat.toDigits 16 (number % 0x100000)).map
      fun c => UInt8.ofNat c.toNat
  .ofAbstractName (List.replicate (5 - digits.length) 0x30 ++ digits)

def chooseName (kernel : Kernel) (type : SocketType) :
    (tries : Nat) → Kernel × Address
  | 0 =>
      ({ kernel with chosenNames := kernel.chosenNames + 1 },
        chosenName kernel.chosenNames)
  | tries + 1 =>
      let name := chosenName kernel.chosenNames
      let kernel := { kernel with chosenNames := kernel.chosenNames + 1 }
      if (kernel.names.lookup (type, name)).isNone then (kernel, name)
      else kernel.chooseName type tries

def takeName (kernel : Kernel) (id : SocketId) (type : SocketType)
    (name : Address) : Kernel :=
  { kernel.modify id fun endpoint => { endpoint with name := some name } with
    names := ((type, name), id) :: kernel.names }

/-- Binds a socket to a name that the kernel chooses, unless it has one. -/
def bindAny (kernel : Kernel) (id : SocketId) (endpoint : Endpoint) : Kernel :=
  if endpoint.name.isSome then kernel
  else
    let (kernel, name) := kernel.chooseName endpoint.type kernel.names.length
    kernel.takeName id endpoint.type name

def bindName (kernel : Kernel) (id : SocketId) (endpoint : Endpoint)
    (name : Address) :
    Except Errno Kernel := do
  if name.isFile then
    let files ←
      match kernel.files.create name.path (.socket id) with
      | .ok files => .ok files
      | .error errno =>
          .error (if errno = Errno.fileExists then Errno.addressInUse
                  else errno)
    if endpoint.name.isSome then throw Errno.invalidArgument
    pure { kernel.modify id fun endpoint =>
      { endpoint with name := some name } with files }
  else
    if endpoint.name.isSome then throw Errno.invalidArgument
    if (kernel.names.lookup (endpoint.type, name)).isSome then
      throw Errno.addressInUse
    pure (kernel.takeName id endpoint.type name)

def bind (kernel : Kernel) (id : SocketId) (endpoint : Endpoint)
    (record : Record) :
    Except Errno Kernel :=
  if record.length = Record.pathOffset then .ok (kernel.bindAny id endpoint)
  else do
    let name ← nameOf record
    kernel.bindName id endpoint name

/-! ## Listening and accepting -/

def backlogMax : Nat := 4096

/-- The backlog in effect; a negative one stands for the longest. -/
def backlogOf (backlog : Int) : Nat :=
  if backlog < 0 then backlogMax else min backlog.toNat backlogMax

def listen (kernel : Kernel) (id : SocketId) (endpoint : Endpoint)
    (backlog : Int) :
    Except Errno Kernel :=
  if !endpoint.isConnectionBased then .error Errno.notSupported
  else if endpoint.name.isNone then .error Errno.invalidArgument
  else
    let listening (waiting : List SocketId) : Except Errno Kernel :=
      .ok (kernel.modify id fun endpoint =>
        { endpoint with
          phase := .listening (backlogOf backlog) waiting
          peerCredentials := some process })
    match endpoint.phase with
    | .unconnected => listening []
    | .listening _ waiting => listening waiting
    | .connected => .error Errno.invalidArgument

def accept (kernel : Kernel) (id : SocketId) (endpoint : Endpoint) :
    Kernel × Attempt Fd :=
  if !endpoint.isConnectionBased then (kernel, .fails Errno.notSupported)
  else
    match endpoint.phase with
    | .listening backlog (first :: rest) =>
        let kernel := kernel.modify id fun endpoint =>
          { endpoint with phase := .listening backlog rest }
        let (kernel, fd) := kernel.describe first
        (kernel, .gives fd)
    | .listening _ [] =>
        (kernel, if endpoint.isNonBlocking then .fails Errno.again
                 else .waits 0)
    | _ => (kernel, .fails Errno.invalidArgument)

/-! ## Connecting -/

def findSocket (kernel : Kernel) (type : SocketType) (name : Address) :
    Except Errno (SocketId × Endpoint) := do
  let id ←
    if name.isFile then
      match ← kernel.files.target name.path with
      | .socket id => .ok id
      | _ => .error Errno.connectionRefused
    else
      match kernel.names.lookup (type, name) with
      | some id => .ok id
      | none => .error Errno.connectionRefused
  match kernel.endpoint? id with
  | none => .error Errno.connectionRefused
  | some endpoint =>
      if !endpoint.isOpen then .error Errno.connectionRefused
      else if endpoint.type ≠ type then .error Errno.wrongProtocolType
      else .ok (id, endpoint)

def join (kernel : Kernel) (id : SocketId) (listener : SocketId)
    (name : Option Address) (type : SocketType) (backlog : Nat)
    (waiting : List SocketId) : Kernel :=
  let (kernel, near) := kernel.add
    { type, name, phase := .connected, peer := some id,
      peerCredentials := some process }
  let kernel := kernel.modify id fun endpoint =>
    { endpoint with
      phase := .connected, peer := some near, peerCredentials := some process }
  kernel.modify listener fun endpoint =>
    { endpoint with phase := .listening backlog (waiting ++ [near]) }

def connectStream (kernel : Kernel) (id : SocketId) (endpoint : Endpoint)
    (name : Address) :
    Kernel × Attempt Unit :=
  match kernel.findSocket endpoint.type name with
  | .error errno => (kernel, .fails errno)
  | .ok (other, listener) =>
      match listener.phase with
      | .listening backlog waiting =>
          if listener.inputShut then (kernel, .fails Errno.connectionRefused)
          else if waiting.length > backlog then
            (kernel, if endpoint.isNonBlocking then .fails Errno.again
                     else .waits 0)
          else
            match endpoint.phase with
            | .unconnected =>
                (kernel.join id other listener.name endpoint.type backlog
                  waiting, .gives ())
            | .connected => (kernel, .fails Errno.isConnected)
            | .listening .. => (kernel, .fails Errno.invalidArgument)
      | _ => (kernel, .fails Errno.connectionRefused)

/-- Takes a datagram socket off its peer: what it has received is lost, and a
peer that sends to it is told so. -/
def detach (kernel : Kernel) (id : SocketId) (endpoint : Endpoint) : Kernel :=
  if endpoint.received.isEmpty then kernel
  else
    let kernel := kernel.modify id
        fun endpoint => { endpoint with received := [] }
    match endpoint.peer with
    | none => kernel
    | some peer =>
        kernel.modify peer fun other =>
          if other.isOpen && other.peer == some id then
            { other with fault := some Errno.connectionReset }
          else other

def connectDatagram (kernel : Kernel) (id : SocketId) (endpoint : Endpoint)
    (name : Address) :
    Except Errno Kernel := do
  let (other, peer) ← kernel.findSocket endpoint.type name
  if !acceptsFrom id peer then throw Errno.notPermitted
  let isMoving := endpoint.peer.isSome && endpoint.peer != some other
  let kernel := if isMoving then kernel.detach id endpoint else kernel
  pure (kernel.modify id fun endpoint =>
    { endpoint with phase := .connected, peer := some other })

def connect (kernel : Kernel) (id : SocketId) (endpoint : Endpoint)
    (record : Record) :
    Kernel × Attempt Unit :=
  match nameOf record with
  | .error errno => (kernel, .fails errno)
  | .ok name =>
      if endpoint.isConnectionBased then kernel.connectStream id endpoint name
      else
        match kernel.connectDatagram id endpoint name with
        | .ok kernel => (kernel, .gives ())
        | .error errno => (kernel, .fails errno)

def pair (kernel : Kernel) (type : SocketType) : Kernel × Fd × Fd :=
  let id := kernel.endpoints.length
  let half (peer : SocketId) : Endpoint :=
    { type, phase := .connected, peer := some peer,
      peerCredentials := some process }
  let (kernel, first) := kernel.add (half (id + 1))
  let (kernel, second) := kernel.add (half id)
  let (kernel, fd) := kernel.describe first
  let (kernel, otherFd) := kernel.describe second
  (kernel, fd, otherFd)

/-! ## Shutting down and closing -/

def opposite : Shutdown → Shutdown
  | .read => .write
  | .write => .read
  | .both => .both

def shutdown (kernel : Kernel) (id : SocketId) (endpoint : Endpoint)
    (how : Shutdown) :
    Kernel :=
  let kernel := kernel.modify id fun endpoint => endpoint.shut how
  match endpoint.peer with
  | some peer =>
      if endpoint.isConnectionBased then
        kernel.modify peer fun endpoint => endpoint.shut (opposite how)
      else kernel
  | none => kernel

/-- Cuts a socket off.  The other end is told that the connection was reset if
something that it sent has not been read, or `reset` says so. -/
def disconnect (kernel : Kernel) (reset : Bool) (id : SocketId) : Kernel :=
  match kernel.endpoint? id with
  | none => kernel
  | some endpoint =>
      let kernel := kernel.modify id fun endpoint =>
        { endpoint.shut .both with
          isOpen := false, phase := .unconnected, peer := none, received := [] }
      match endpoint.peer with
      | some peer =>
          if endpoint.isConnectionBased then
            kernel.modify peer fun other =>
              { other.shut .both with
                fault :=
                  if reset || !endpoint.received.isEmpty then
                    some Errno.connectionReset
                  else other.fault }
          else kernel
      | none => kernel

/-- Closes a socket.  The connections that nobody has accepted are reset. -/
def dispose (kernel : Kernel) (id : SocketId) (endpoint : Endpoint) : Kernel :=
  let kernel :=
    { kernel with names := kernel.names.filter fun (_, other) => other != id }
  let kernel := kernel.disconnect false id
  match endpoint.phase with
  | .listening _ waiting =>
      waiting.foldl (fun kernel near => kernel.disconnect true near) kernel
  | _ => kernel

def close (kernel : Kernel) (fd : Fd) (id : SocketId) (endpoint : Endpoint) :
    Kernel :=
  let kernel :=
    { kernel with
      descriptors := kernel.descriptors.filter fun (other, _) => other != fd }
  kernel.dispose id endpoint

end LocalSocket.Kernel
