import LocalSocket.Channel.Close

/-!
# Binding and connecting

A connection attempt holds the read and the write lock.  It is repeated as long
as it is interrupted and the channel is open.  A failed attempt, like a failed
bind, closes the channel.
-/

namespace LocalSocket.Channel

open Operating

def closeAfter {α : Type} (error : ChannelError) : Operating α := do
  quietly close
  throw error

def encode (address : Address) : Operating Record :=
  match Record.ofAddress address with
  | .ok record => pure record
  | .error fault => throw (.invalidPath address.path fault)

theorem encode_of_ok {address : Address} {record : Record}
    (encoded : Record.ofAddress address = .ok record) :
    encode address = pure record := by
  rw [encode, encoded]

def configureBlocking (fd : Fd) (blocking : Bool) : Operating Unit :=
  holding .read <| holding .write <| holding .state do
    ensureOpen
    if blocking == (← perform .isBlocking) then
      pure ()
    else
      let fields ← perform .fields
      if blocking && fields.registrations != 0 then
        throw .illegalBlockingMode
      onSocket (Socket.setBlocking fd blocking)
      perform (.setBlocking blocking)

/-- The part of binding that needs the state lock.  The failure of a system call
is returned as a value, since the channel cannot be closed while the lock is
held. -/
def bindLocked (fd : Fd) (address : Option Address) :
    Operating (Option OsError) := do
  ensureOpen
  let fields ← perform .fields
  if fields.state = .connecting then
    throw .connectionPending
  if fields.localAddress.isSome then
    throw .alreadyBound
  let record ← encode (address.getD .unnamed)
  match ← ExceptT.lift (Socket.bind fd record) with
  | .error error => pure (some error)
  | .ok () =>
      match ← ExceptT.lift (Socket.localRecord fd) with
      | .error error => pure (some error)
      | .ok bound =>
          perform (.put { fields with localAddress := some bound.toAddress })
          pure none

def bind (fd : Fd) (address : Option Address) : Operating Unit :=
  holding .read <| holding .write do
    match ← holding .state (bindLocked fd address) with
    | none => pure ()
    | some error => closeAfter (.socket error)

/-! ## Connecting -/

def markConnected (fd : Fd) (remote : Option Address) : Operating Unit :=
  holding .state do
    let fields ← perform .fields
    ensureStillOpen
    let fields := { fields with
      state := .connected
      remoteAddress := remote <|> fields.remoteAddress }
    perform (.put fields)
    if fields.localAddress.isNone then
      match ← ExceptT.lift (Socket.localRecord fd) with
      | .ok record =>
          perform (.put { fields with localAddress := some record.toAddress })
      | .error _ => pure ()

def attempt (fd : Fd) (record : Record) :
    Program (Except OsError ConnectStatus) :=
  .loop
    (do
      let result ← Socket.connect fd record
      match result with
      | .ok .interrupted =>
          pure (if ← Program.perform .isOpen then none else some result)
      | _ => pure (some result))
    .done

def beginConnect : Operating Unit :=
  holding .state do
    ensureOpen
    let fields ← perform .fields
    if fields.state = .connected then
      throw .alreadyConnected
    if fields.state = .connecting then
      throw .connectionPending
    enter .input

/-- Connects the channel.  The result tells whether the connection is
established; if not, it is under way. -/
def connect (fd : Fd) (address : Address) : Operating Bool := do
  let record ← encode address
  holding .read <| holding .write do
    beginConnect
    let result ← ExceptT.lift (attempt fd record)
    leave .input false
    match result with
    | .ok .connected =>
        markConnected fd (some address)
        pure true
    | .ok .inProgress =>
        holding .state do
          let fields ← perform .fields
          ensureStillOpen
          perform
            (.put
              { fields with
                state := .connecting, remoteAddress := some address })
        pure false
    | .ok .interrupted => throw .asynchronousClose
    | .error error => closeAfter (.socket error)

def beginFinish : Operating (Option Record) :=
  holding .state do
    ensureOpen
    let fields ← perform .fields
    if fields.state = .connected then
      pure none
    else if fields.state = .connecting then
      match fields.remoteAddress with
      | none => throw .noConnectionPending
      | some address =>
          let record ← encode address
          enter .input
          pure (some record)
    else
      throw .noConnectionPending

/-- Repeats the attempt until it is decided or, in non-blocking mode, until it
is known to be still under way.  A blocking channel waits in between until it is
writable. -/
def awaitConnection (fd : Fd) (record : Record) (blocking : Bool) :
    Program (Except OsError Bool) :=
  .loop
    (do
      match ← Socket.connect fd record with
      | .ok .connected => pure (some (.ok true))
      | .error error =>
          if error.errno? = some Errno.isConnected then pure (some (.ok true))
          else pure (some (.error error))
      | .ok .interrupted =>
          pure (if ← Program.perform .isOpen then none else some (.ok false))
      | .ok .inProgress =>
          if blocking && (← Program.perform .isOpen) then
            match ← Socket.poll fd Events.writable (-1) with
            | .error error => pure (some (.error error))
            | .ok _ =>
                pure (if ← Program.perform .isOpen then none
                      else some (.ok false))
          else
            pure (some (.ok false)))
    .done

def finishConnect (fd : Fd) : Operating Bool :=
  holding .read <| holding .write do
    match ← beginFinish with
    | none => pure true
    | some record =>
        let blocking ← perform .isBlocking
        let result ← ExceptT.lift (awaitConnection fd record blocking)
        leave .input false
        match result with
        | .ok true =>
            markConnected fd none
            pure true
        | .ok false => pure false
        | .error error => closeAfter (.socket error)

end LocalSocket.Channel
