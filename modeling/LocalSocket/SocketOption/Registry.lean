import LocalSocket.SocketOption.Payload

/-!
# The registry of socket options

Where each option lives on this platform: the protocol level, the number at that
level, and the wire form.  An option is found only under the scope that it is
registered for.
-/

namespace LocalSocket

/-! ## Protocol levels and option numbers -/

namespace Level

def ip : Int := 0
def socket : Int := 1
def tcp : Int := 6
def ipv6 : Int := 41

end Level

namespace Number

def reuseAddress : Int := 2
def broadcast : Int := 6
def sendBuffer : Int := 7
def receiveBuffer : Int := 8
def keepAlive : Int := 9
def linger : Int := 13
def peerCredentials : Int := 17
def receiveTimeout : Int := 20

def tcpNoDelay : Int := 1

def ipTypeOfService : Int := 1
def ipMulticastInterface : Int := 32
def ipMulticastTtl : Int := 33
def ipMulticastLoop : Int := 34

def ipv6MulticastInterface : Int := 17
def ipv6MulticastHops : Int := 18
def ipv6MulticastLoop : Int := 19

end Number

structure Descriptor where
  scope : Scope
  level : Int
  number : Int
  deriving DecidableEq, Repr

namespace Descriptor

def form (descriptor : Descriptor) : PayloadForm :=
  if descriptor.level = Level.socket then
    if descriptor.number = Number.linger then .linger
    else if descriptor.number = Number.receiveTimeout then .timeval
    else if descriptor.number = Number.peerCredentials then .credentials
    else .int
  else if descriptor.level = Level.ip then
    if descriptor.number = Number.ipMulticastTtl ∨
        descriptor.number = Number.ipMulticastLoop then
      .byte
    else .int
  else .int

end Descriptor

namespace OptionName

def descriptor? : OptionName → Scope → Option Descriptor
  | broadcast, .unspecified =>
      some ⟨.unspecified, Level.socket, Number.broadcast⟩
  | keepAlive, .unspecified =>
      some ⟨.unspecified, Level.socket, Number.keepAlive⟩
  | linger, .unspecified => some ⟨.unspecified, Level.socket, Number.linger⟩
  | sendBufferSize, .unspecified =>
      some ⟨.unspecified, Level.socket, Number.sendBuffer⟩
  | receiveBufferSize, .unspecified =>
      some ⟨.unspecified, Level.socket, Number.receiveBuffer⟩
  | reuseAddress, .unspecified =>
      some ⟨.unspecified, Level.socket, Number.reuseAddress⟩
  | receiveTimeout, .unspecified =>
      some ⟨.unspecified, Level.socket, Number.receiveTimeout⟩
  | noDelay, .unspecified => some ⟨.unspecified, Level.tcp, Number.tcpNoDelay⟩
  | ipTos, .inet => some ⟨.inet, Level.ip, Number.ipTypeOfService⟩
  | multicastInterface, .inet =>
      some ⟨.inet, Level.ip, Number.ipMulticastInterface⟩
  | multicastTtl, .inet => some ⟨.inet, Level.ip, Number.ipMulticastTtl⟩
  | multicastLoop, .inet => some ⟨.inet, Level.ip, Number.ipMulticastLoop⟩
  | multicastInterface, .inet6 =>
      some ⟨.inet6, Level.ipv6, Number.ipv6MulticastInterface⟩
  | multicastTtl, .inet6 => some ⟨.inet6, Level.ipv6, Number.ipv6MulticastHops⟩
  | multicastLoop, .inet6 => some ⟨.inet6, Level.ipv6, Number.ipv6MulticastLoop⟩
  | peerCredentials, .unix => some ⟨.unix, Level.socket, Number.peerCredentials⟩
  | _, _ => none

def resolve (option : OptionName) (scope : Scope) :
    Except ChannelError Descriptor :=
  match option.descriptor? scope with
  | some descriptor => .ok descriptor
  | none => .error (.unsupportedOption option)

theorem resolve_scope {option : OptionName} {scope : Scope}
    {descriptor : Descriptor} (h : option.resolve scope = .ok descriptor) :
    descriptor.scope = scope := by
  cases option <;> cases scope <;> simp_all [resolve, descriptor?] <;>
    (subst h; rfl)

end OptionName

end LocalSocket
