import LocalSocket.Channel.Connect
import LocalSocket.Settings.Basic

/-!
# Options, addresses and settings of a channel

Options are read and set under the state lock, of the set that channels support.
Addresses are remembered; the peer's is asked for the first time it is needed,
unless the channel connected to it itself.
-/

namespace LocalSocket.Channel

open Operating

def supportedOptions : List OptionName :=
  [.sendBufferSize, .receiveBufferSize, .keepAlive, .linger, .reuseAddress,
    .noDelay, .peerCredentials, .receiveTimeout]

def checkSupported (option : OptionName) : Operating Unit :=
  if option ∈ supportedOptions then pure ()
  else throw (.unsupportedOption option)

def getOption (fd : Fd) (option : TypedOption) : Operating Reading := do
  checkSupported option.name
  holding .state do
    ensureOpen
    let value ← ExceptT.mk (Socket.getOption fd option.scope option.name)
    pure (option.decode value)

def setOption (fd : Fd) (setting : Setting) : Operating Unit := do
  checkSupported setting.option.name
  holding .state do
    ensureOpen
    let value ← returning setting.encode
    ExceptT.mk (Socket.setOption fd setting.option.scope
      setting.option.name value)

def lifecycle : Operating Lifecycle :=
  holding .state do
    let fields ← perform .fields
    pure fields.state

def credentials (fd : Fd) : Operating (Option Credentials) := do
  ensureOpen
  if (← lifecycle) = .connected then
    match ← getOption fd .peerCredentials with
    | .credentials peer => pure peer
    | _ => pure none
  else
    pure none

def localAddress : Operating (Option Address) :=
  holding .state do
    ensureOpen
    let fields ← perform .fields
    pure fields.localAddress

def remoteAddress (fd : Fd) : Operating (Option Address) :=
  holding .state do
    ensureOpen
    let fields ← perform .fields
    if fields.remoteAddress.isNone && fields.state = .connected then
      let record ← onSocket (Socket.peerRecord fd)
      perform (.put { fields with remoteAddress := some record.toAddress })
      pure (some record.toAddress)
    else
      pure fields.remoteAddress

/-! ## Settings -/

inductive Change where
  | set (setting : Setting)
  | nonBlocking
  deriving DecidableEq, Repr

end LocalSocket.Channel

namespace LocalSocket.Settings

open Channel (Change)

def changes (settings : Settings) : List Change :=
  (settings.sendBufferSize.map
    fun size => Change.set (.int .sendBuffer size)).toList ++
  (settings.receiveBufferSize.map
    fun size => Change.set (.int .receiveBuffer size)).toList ++
  (if settings.keepAlive then [Change.set (.switch .keepAlive true)] else []) ++
  (settings.linger.map
    fun seconds => Change.set (.int .linger seconds)).toList ++
  (settings.receiveTimeout.map
    fun millis => Change.set (.int .receiveTimeout millis)).toList ++
  (if settings.nonBlocking then [.nonBlocking] else [])

end LocalSocket.Settings

namespace LocalSocket.Channel

open Operating

def makeChange (fd : Fd) : Change → Operating Unit
  | .set setting => setOption fd setting
  | .nonBlocking => configureBlocking fd false

/-- Makes changes in order, up to the first that fails; those before it stay. -/
def makeChanges (fd : Fd) : List Change → Operating Unit
  | [] => pure ()
  | change :: rest => do
      makeChange fd change
      makeChanges fd rest

def apply (fd : Fd) (settings : Settings) : Operating Unit :=
  makeChanges fd settings.changes

end LocalSocket.Channel
