import LocalSocket.Credentials
import LocalSocket.Duration
import LocalSocket.Error

/-!
# Values of socket options

An option has one portable value, an integer or credentials, and a wire form in
which it is exchanged with the system.  Values are brought into their permitted
range before they are encoded: out-of-range values are refused, except for the
linger time, which is clamped.
-/

namespace LocalSocket

inductive OptionValue where
  | int (value : Int)
  | credentials (credentials : Credentials)
  deriving DecidableEq, Repr

inductive PayloadForm where
  | int | byte | linger | timeval | credentials
  deriving DecidableEq, Repr

def PayloadForm.name : PayloadForm → String
  | .int => "Int"
  | .byte => "Byte"
  | .linger => "Linger"
  | .timeval => "Timeval"
  | .credentials => "Credentials"

/-- A value in wire form.  A linger time of `none` means that lingering is
disabled. -/
inductive Payload where
  | int (value : Int)
  | byte (value : UInt8)
  | linger (seconds : Option Int)
  | timeval (timeout : Duration)
  | credentials (credentials : Credentials)
  deriving DecidableEq, Repr

namespace Payload

def form : Payload → PayloadForm
  | int _ => .int
  | byte _ => .byte
  | linger _ => .linger
  | timeval _ => .timeval
  | credentials _ => .credentials

/-- The portable value.  A disabled linger is -1; timeouts are whole
milliseconds. -/
def decode : Payload → OptionValue
  | int value => .int value
  | byte value => .int value.toNat
  | linger seconds => .int (seconds.getD (-1))
  | timeval timeout => .int (min timeout.toMillis intMax)
  | credentials peer => .credentials peer

end Payload

def lingerMax : Int := 65535

namespace OptionName

def checkRange (option : OptionName) (high : Int) (fault : ValueFault)
    (value : Int) :
    Except ChannelError Int :=
  if 0 ≤ value ∧ value ≤ high then .ok value
  else .error (.invalidArgument option value fault)

def normalise (option : OptionName) (value : Int) : Except ChannelError Int :=
  match option with
  | .sendBufferSize => checkRange option intMax .negativeSendBuffer value
  | .receiveBufferSize => checkRange option intMax .negativeReceiveBuffer value
  | .receiveTimeout => checkRange option intMax .negativeReceiveTimeout value
  | .ipTos => checkRange option 255 .typeOfServiceRange value
  | .multicastTtl => checkRange option 255 .timeToLiveRange value
  | .linger => .ok (if value < 0 then -1 else min value lingerMax)
  | _ => .ok value

def encode (option : OptionName) (form : PayloadForm) (value : OptionValue) :
    Except ChannelError Payload := do
  match value with
  | .credentials _ => .error (.unsupportedOption option)
  | .int value =>
      let value ← option.normalise value
      match form with
      | .int => .ok (.int value)
      | .byte =>
          if 0 ≤ value ∧ value ≤ 255 then .ok (.byte (UInt8.ofNat value.toNat))
          else .error (.invalidArgument option value .byteRange)
      | .linger => .ok (.linger (if 0 ≤ value then some value else none))
      | .timeval =>
          if 0 ≤ value then .ok (.timeval (.ofMillis value.toNat))
          else .error (.invalidArgument option value .negativeTimeout)
      | .credentials => .error (.unsupportedOption option)

end OptionName

end LocalSocket
