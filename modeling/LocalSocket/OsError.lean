import LocalSocket.Errno

/-!
# Failed system calls

A failure carries the code that the operating system reported, or a kind and a
message of its own where no code is involved.
-/

namespace LocalSocket

inductive OsError where
  | code (errno : Errno)
  | custom (kind : ErrorKind) (message : String)
  deriving DecidableEq, Repr

inductive SocketFailure where
  | protocol | connectionRefused | timedOut | noRouteToHost | addressInUse
  | other
  deriving DecidableEq, Repr

namespace SocketFailure

def text : SocketFailure → String
  | protocol => "protocol error"
  | connectionRefused => "connection refused"
  | timedOut => "connection timed out"
  | noRouteToHost => "no route to host"
  | addressInUse => "address in use or unavailable"
  | other => "socket error"

/-- Every code falls into exactly one category. -/
def ofErrno (errno : Errno) : SocketFailure :=
  if errno = Errno.protocol then protocol
  else if errno = Errno.connectionRefused ∨ errno = Errno.notConnected then
    connectionRefused
  else if errno = Errno.timedOut then timedOut
  else if errno = Errno.hostUnreachable then noRouteToHost
  else if errno = Errno.addressInUse ∨ errno = Errno.addressNotAvailable then
    addressInUse
  else other

end SocketFailure

namespace OsError

def kind : OsError → ErrorKind
  | code errno => errno.kind
  | custom kind _ => kind

def errno? : OsError → Option Errno
  | code errno => some errno
  | custom _ _ => none

def message : OsError → String
  | code errno => errno.text ++ " (os error " ++ toString errno ++ ")"
  | custom _ message => message

def category : OsError → SocketFailure
  | code errno => .ofErrno errno
  | custom _ _ => .other

def socketMessage (error : OsError) : String :=
  error.category.text ++ ": " ++ error.message

def isInterrupted (error : OsError) : Bool :=
  error.kind == .interrupted

def isWouldBlock (error : OsError) : Bool :=
  error.kind == .wouldBlock

end OsError

end LocalSocket
