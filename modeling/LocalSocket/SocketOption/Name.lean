/-!
# Names of socket options

A portable option is named independently of the number that the system gives it.
Together with the address family it is registered for, its scope, the name
determines that number.
-/

namespace LocalSocket

inductive OptionName where
  | broadcast | keepAlive | linger | sendBufferSize | receiveBufferSize
  | reuseAddress | noDelay | ipTos | multicastInterface | multicastTtl
  | multicastLoop | peerCredentials | receiveTimeout
  deriving DecidableEq, Repr

namespace OptionName

def text : OptionName → String
  | broadcast => "SO_BROADCAST"
  | keepAlive => "SO_KEEPALIVE"
  | linger => "SO_LINGER"
  | sendBufferSize => "SO_SNDBUF"
  | receiveBufferSize => "SO_RCVBUF"
  | reuseAddress => "SO_REUSEADDR"
  | noDelay => "TCP_NODELAY"
  | ipTos => "IP_TOS"
  | multicastInterface => "IP_MULTICAST_IF"
  | multicastTtl => "IP_MULTICAST_TTL"
  | multicastLoop => "IP_MULTICAST_LOOP"
  | peerCredentials => "SO_PEERCRED"
  | receiveTimeout => "SO_RCVTIMEO"

def all : List OptionName :=
  [broadcast, keepAlive, linger, sendBufferSize, receiveBufferSize,
    reuseAddress, noDelay, ipTos, multicastInterface, multicastTtl,
    multicastLoop, peerCredentials, receiveTimeout]

theorem mem_all (name : OptionName) : name ∈ all := by
  cases name <;> decide

end OptionName

/-- The address family that an option is registered for.  `unspecified` is a
scope of its own, for options of every family; it matches no other scope. -/
inductive Scope where
  | unspecified | inet | inet6 | unix
  deriving DecidableEq, Repr

namespace Scope

def text : Scope → String
  | unspecified => "unspecified"
  | inet => "inet"
  | inet6 => "inet6"
  | unix => "unix"

def all : List Scope := [unspecified, inet, inet6, unix]

end Scope

end LocalSocket
