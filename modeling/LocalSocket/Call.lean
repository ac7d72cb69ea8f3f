import LocalSocket.Interest
import LocalSocket.SocketOption.Typed

/-!
# System calls

The requests that a program makes of the operating system, each with the type of
value that it is answered with.  Any request may fail instead.
-/

namespace LocalSocket

/-- A thread that may be recorded as using a descriptor, and be signalled. -/
abbrev Thread := Nat

inductive SocketType where
  | stream | dgram | seqpacket
  deriving DecidableEq, Repr

inductive Shutdown where
  | read | write | both
  deriving DecidableEq, Repr

inductive Call where
  | socket (type : SocketType)
  | read (fd : Fd) (length : Nat)
  | readMany (fd : Fd) (lengths : List Nat)
  | write (fd : Fd) (bytes : Bytes)
  | writeMany (fd : Fd) (parts : List Bytes)
  | close (fd : Fd)
  /-- Wakes the threads that are blocked reading or writing, without releasing
  the descriptor. -/
  | wake (fd : Fd)
  /-- Interrupts the call that a thread is blocked in. -/
  | signal (thread : Thread)
  | setNonBlocking (fd : Fd) (nonBlocking : Bool)
  | connect (fd : Fd) (record : Record)
  | bind (fd : Fd) (record : Record)
  | localRecord (fd : Fd)
  | peerRecord (fd : Fd)
  /-- Waits for events; a negative timeout waits for ever.  No events means that
  the time is up. -/
  | poll (fd : Fd) (events : Events) (timeout : Int)
  | shutdown (fd : Fd) (how : Shutdown)
  | getOption (fd : Fd) (level number : Int) (form : PayloadForm)
  | setOption (fd : Fd) (level number : Int) (payload : Payload)
  | isLocal (fd : Fd) (type : SocketType)
  | isNonBlocking (fd : Fd)
  | listen (fd : Fd) (backlog : Int)
  | accept (fd : Fd)
  | isSocketFile (path : Bytes)
  | unlink (path : Bytes)
  | makeFolders (path : Bytes)
  deriving DecidableEq

namespace Call

abbrev Value : Call → Type
  | socket _ | accept _ => Fd
  | read .. | readMany .. => Bytes
  | write .. | writeMany .. => Nat
  | localRecord _ | peerRecord _ => Record
  | poll .. => Events
  | getOption .. => Payload
  | isLocal .. | isNonBlocking _ | isSocketFile _ => Bool
  | _ => Unit

abbrev Answer (call : Call) : Type := Except OsError call.Value

/-- Whether a thread may be blocked in the call while other threads use the
channel. -/
def isBlocking : Call → Bool
  | read .. | readMany .. | write .. | writeMany .. | connect .. | poll .. =>
      true
  | _ => false

def fd? : Call → Option Fd
  | read fd _ | readMany fd _ | write fd _ | writeMany fd _ | close fd | wake fd
  | setNonBlocking fd _ | connect fd _ | bind fd _ | localRecord fd
  | peerRecord fd | poll fd _ _ | shutdown fd _ | getOption fd _ _ _
  | setOption fd _ _ _ | isLocal fd _ | isNonBlocking fd | listen fd _
  | accept fd => some fd
  | socket _ | signal _ | isSocketFile _ | unlink _ | makeFolders _ => none

end Call

end LocalSocket
