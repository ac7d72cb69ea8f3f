import LocalSocket.Channel.Options

/-!
# Opening channels

A channel is opened on a new socket, or on a socket that is already connected.
If anything fails on the way, the descriptor is released.
-/

namespace LocalSocket.Channel

open Operating

def create (type : SocketType) : Operating Fd := do
  let fd ← onSocket (Program.call (.socket type))
  perform (.own fd .unconnected true)
  pure fd

/-- Closes the channel unless `body` ends well. -/
def orClose {α : Type} (body : Operating α) : Operating α :=
  tryCatch body fun error => do
    quietly close
    throw error

def openConnected (address : Address) (settings : Settings) : Operating Fd := do
  let fd ← create .stream
  orClose do
    apply fd settings
    let _ ← connect fd address
  pure fd

def inspectSocket (fd : Fd) : Operating Bool := do
  unless ← onSocket (Program.call (.isLocal fd .stream)) do
    throw .inappropriateSocket
  match ← ExceptT.lift (Socket.peerRecord fd) with
  | .error _ => throw .inappropriateSocket
  | .ok _ =>
      let nonBlocking ← onSocket (Program.call (.isNonBlocking fd))
      pure !nonBlocking

def wrap (fd : Fd) : Operating Unit := do
  match ← ExceptT.lift (inspectSocket fd).run with
  | .error error =>
      let _ ← ExceptT.lift (Program.call (.close fd))
      throw error
  | .ok blocking =>
      perform (.own fd .connected blocking)
      match ← ExceptT.lift (Socket.localRecord fd) with
      | .error _ => pure ()
      | .ok record =>
          holding .state do
            let fields ← perform .fields
            perform (.put { fields with localAddress := some record.toAddress })

def accept (listener : Fd) (settings : Settings) : Operating Fd := do
  let fd ← onSocket (Program.call (.accept listener))
  wrap fd
  orClose (apply fd settings)
  pure fd

end LocalSocket.Channel
