import LocalSocket.Address.Record
import LocalSocket.OsError
import LocalSocket.SocketOption.Name

/-!
# Errors

Every error names its cause.  The wording of an error, and the kind under which
a program that knows only input and output errors sees it, are functions of the
cause.
-/

namespace LocalSocket

abbrev Fd := Int

inductive ValueFault where
  | negativeSendBuffer | negativeReceiveBuffer | negativeReceiveTimeout
  | typeOfServiceRange | timeToLiveRange | byteRange | negativeTimeout
  deriving DecidableEq, Repr

def ValueFault.reason : ValueFault → String
  | .negativeSendBuffer => "send buffer size must not be negative"
  | .negativeReceiveBuffer => "receive buffer size must not be negative"
  | .negativeReceiveTimeout => "receive timeout must not be negative"
  | .typeOfServiceRange => "type-of-service must lie in 0..=255"
  | .timeToLiveRange => "multicast time-to-live must lie in 0..=255"
  | .byteRange => "value must lie in 0..=255"
  | .negativeTimeout => "timeout must not be negative"

/-! ## Errors of operations on a channel -/

inductive ChannelError where
  | closed
  | asynchronousClose
  | alreadyConnected
  | connectionPending
  | noConnectionPending
  | notYetConnected
  | alreadyBound
  | unsupportedOption (option : OptionName)
  | invalidArgument (option : OptionName) (value : Int) (fault : ValueFault)
  | illegalBlockingMode
  | invalidPath (path : Bytes) (fault : PathFault)
  | close (fd : Fd) (error : OsError)
  | inappropriateSocket
  | socket (error : OsError)
  deriving DecidableEq, Repr

namespace ChannelError

def message : ChannelError → String
  | closed => "channel is closed"
  | asynchronousClose =>
      "channel was closed by another thread during the operation"
  | alreadyConnected => "channel is already connected"
  | connectionPending => "a connection attempt is already pending"
  | noConnectionPending => "no connection attempt is pending"
  | notYetConnected => "channel is not yet connected"
  | alreadyBound => "channel is already bound"
  | unsupportedOption option =>
      "the \x60" ++ option.text ++ "\x60 option is not supported"
  | invalidArgument option value fault =>
      "invalid value " ++ toString value ++ " for the \x60" ++ option.text ++
        "\x60 option: " ++
        fault.reason
  | illegalBlockingMode => "operation requires a non-blocking channel"
  | invalidPath path fault =>
      "invalid Unix-domain socket path " ++ Text.quoted path ++ ": " ++
        fault.reason
  | close fd error =>
      "couldn't close file descriptor " ++ toString fd ++ ": " ++ error.message
  | inappropriateSocket => "socket is not a connected Unix-domain stream socket"
  | socket error => error.socketMessage

def kind : ChannelError → ErrorKind
  | closed | asynchronousClose => .brokenPipe
  | alreadyConnected => .alreadyExists
  | connectionPending => .wouldBlock
  | noConnectionPending | notYetConnected => .notConnected
  | alreadyBound => .addrInUse
  | unsupportedOption _ => .unsupported
  | invalidArgument _ _ _ | illegalBlockingMode | invalidPath _ _
  | inappropriateSocket => .invalidInput
  | close _ error | socket error => error.kind

def toOsError (error : ChannelError) : OsError :=
  .custom error.kind error.message

end ChannelError

/-! ## Errors of listening sockets -/

inductive CleanupError where
  | stat (error : OsError)
  | unlink (error : OsError)
  deriving DecidableEq, Repr

namespace CleanupError

def cause : CleanupError → OsError
  | stat error | unlink error => error

def message : CleanupError → String
  | stat error =>
      "couldn't check for a stale Unix-domain socket: " ++ error.message
  | unlink error =>
      "couldn't remove the stale Unix-domain socket: " ++ error.message

end CleanupError

inductive ListenError where
  | invalidPath (error : OsError)
  | createSocket (error : OsError)
  | makeParents (error : OsError)
  | cleanup (error : CleanupError)
  | bind (error : OsError)
  | listen (error : OsError)
  deriving DecidableEq, Repr

namespace ListenError

def cause : ListenError → OsError
  | invalidPath error | createSocket error | makeParents error | bind error
  | listen error => error
  | cleanup error => error.cause

def message : ListenError → String
  | invalidPath error => "invalid Unix-domain socket path: " ++ error.message
  | createSocket error => "couldn't create socket: " ++ error.message
  | makeParents error => "couldn't create parent folders: " ++ error.message
  | cleanup error => error.message
  | bind error => "couldn't bind socket to address: " ++ error.message
  | listen error => "couldn't make the socket listen: " ++ error.message

end ListenError

end LocalSocket
