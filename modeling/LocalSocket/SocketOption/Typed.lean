import LocalSocket.SocketOption.Registry

/-!
# Typed options

The options that a program names by what they mean.  Each holds one type of
value: an integer, a truth value, or the peer's credentials.
-/

namespace LocalSocket

inductive IntOption where
  | sendBuffer | receiveBuffer | linger | ipTos | multicastTtl | receiveTimeout
  deriving DecidableEq, Repr

inductive SwitchOption where
  | keepAlive | reuseAddress | noDelay | broadcast | multicastLoop
  deriving DecidableEq, Repr

/-- An option that can be read.  The peer's credentials cannot be set. -/
inductive TypedOption where
  | int (option : IntOption)
  | switch (option : SwitchOption)
  | peerCredentials
  deriving DecidableEq, Repr

inductive Setting where
  | int (option : IntOption) (value : Int)
  | switch (option : SwitchOption) (value : Bool)
  deriving DecidableEq, Repr

inductive Reading where
  | int (value : Int)
  | switch (value : Bool)
  | credentials (credentials : Option Credentials)
  deriving DecidableEq, Repr

namespace IntOption

def name : IntOption → OptionName
  | sendBuffer => .sendBufferSize
  | receiveBuffer => .receiveBufferSize
  | linger => .linger
  | ipTos => .ipTos
  | multicastTtl => .multicastTtl
  | receiveTimeout => .receiveTimeout

def scope : IntOption → Scope
  | ipTos | multicastTtl => .inet
  | _ => .unspecified

end IntOption

namespace SwitchOption

def name : SwitchOption → OptionName
  | keepAlive => .keepAlive
  | reuseAddress => .reuseAddress
  | noDelay => .noDelay
  | broadcast => .broadcast
  | multicastLoop => .multicastLoop

def scope : SwitchOption → Scope
  | multicastLoop => .inet
  | _ => .unspecified

end SwitchOption

namespace TypedOption

def name : TypedOption → OptionName
  | int option => option.name
  | switch option => option.name
  | peerCredentials => .peerCredentials

def scope : TypedOption → Scope
  | int option => option.scope
  | switch option => option.scope
  | peerCredentials => .unix

/-- The integer in a value; credentials count as zero. -/
def intOf : OptionValue → Int
  | .int value => value
  | .credentials _ => 0

def credentialsOf : OptionValue → Option Credentials
  | .int _ => none
  | .credentials credentials => some credentials

def decode (option : TypedOption) (value : OptionValue) : Reading :=
  match option with
  | int _ => .int (intOf value)
  | switch _ => .switch (intOf value != 0)
  | peerCredentials => .credentials (credentialsOf value)

end TypedOption

namespace Setting

def option : Setting → TypedOption
  | int option _ => .int option
  | switch option _ => .switch option

def encode : Setting → Except ChannelError OptionValue
  | int option value => (option.name.normalise value).map OptionValue.int
  | switch _ value => .ok (.int (if value then 1 else 0))

end Setting

end LocalSocket
