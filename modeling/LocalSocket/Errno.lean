/-!
# Error codes of the operating system

Each code has a text and falls into one kind.  Codes that the system does not
define have the text "Unknown error" with their number.
-/

namespace LocalSocket

inductive ErrorKind where
  | notFound | permissionDenied | connectionRefused | connectionReset
  | hostUnreachable | networkUnreachable | connectionAborted | notConnected
  | addrInUse | addrNotAvailable | networkDown | brokenPipe | alreadyExists
  | wouldBlock | notADirectory | isADirectory | directoryNotEmpty
  | readOnlyFilesystem | filesystemLoop | staleNetworkFileHandle | invalidInput
  | invalidData | timedOut | storageFull | notSeekable | quotaExceeded
  | fileTooLarge | resourceBusy | executableFileBusy | deadlock | crossesDevices
  | tooManyLinks | invalidFilename | argumentListTooLong | interrupted
  | unsupported | outOfMemory | inProgress | inputOutputError | tooManyOpenFiles
  | other | uncategorized
  deriving DecidableEq, Repr

namespace ErrorKind

def name : ErrorKind → String
  | notFound => "NotFound"
  | permissionDenied => "PermissionDenied"
  | connectionRefused => "ConnectionRefused"
  | connectionReset => "ConnectionReset"
  | hostUnreachable => "HostUnreachable"
  | networkUnreachable => "NetworkUnreachable"
  | connectionAborted => "ConnectionAborted"
  | notConnected => "NotConnected"
  | addrInUse => "AddrInUse"
  | addrNotAvailable => "AddrNotAvailable"
  | networkDown => "NetworkDown"
  | brokenPipe => "BrokenPipe"
  | alreadyExists => "AlreadyExists"
  | wouldBlock => "WouldBlock"
  | notADirectory => "NotADirectory"
  | isADirectory => "IsADirectory"
  | directoryNotEmpty => "DirectoryNotEmpty"
  | readOnlyFilesystem => "ReadOnlyFilesystem"
  | filesystemLoop => "FilesystemLoop"
  | staleNetworkFileHandle => "StaleNetworkFileHandle"
  | invalidInput => "InvalidInput"
  | invalidData => "InvalidData"
  | timedOut => "TimedOut"
  | storageFull => "StorageFull"
  | notSeekable => "NotSeekable"
  | quotaExceeded => "QuotaExceeded"
  | fileTooLarge => "FileTooLarge"
  | resourceBusy => "ResourceBusy"
  | executableFileBusy => "ExecutableFileBusy"
  | deadlock => "Deadlock"
  | crossesDevices => "CrossesDevices"
  | tooManyLinks => "TooManyLinks"
  | invalidFilename => "InvalidFilename"
  | argumentListTooLong => "ArgumentListTooLong"
  | interrupted => "Interrupted"
  | unsupported => "Unsupported"
  | outOfMemory => "OutOfMemory"
  | inProgress => "InProgress"
  | inputOutputError => "InputOutputError"
  | tooManyOpenFiles => "TooManyOpenFiles"
  | other => "Other"
  | uncategorized => "Uncategorized"

end ErrorKind

abbrev Errno := Int

namespace Errno

def table : List (ErrorKind × String) := [
  (.uncategorized, "Success"),
  (.permissionDenied, "Operation not permitted"),
  (.notFound, "No such file or directory"),
  (.uncategorized, "No such process"),
  (.interrupted, "Interrupted system call"),
  (.inputOutputError, "Input/output error"),
  (.uncategorized, "No such device or address"),
  (.argumentListTooLong, "Argument list too long"),
  (.uncategorized, "Exec format error"),
  (.uncategorized, "Bad file descriptor"),
  (.uncategorized, "No child processes"),
  (.wouldBlock, "Resource temporarily unavailable"),
  (.outOfMemory, "Cannot allocate memory"),
  (.permissionDenied, "Permission denied"),
  (.uncategorized, "Bad address"),
  (.uncategorized, "Block device required"),
  (.resourceBusy, "Device or resource busy"),
  (.alreadyExists, "File exists"),
  (.crossesDevices, "Invalid cross-device link"),
  (.uncategorized, "No such device"),
  (.notADirectory, "Not a directory"),
  (.isADirectory, "Is a directory"),
  (.invalidInput, "Invalid argument"),
  (.tooManyOpenFiles, "Too many open files in system"),
  (.tooManyOpenFiles, "Too many open files"),
  (.uncategorized, "Inappropriate ioctl for device"),
  (.executableFileBusy, "Text file busy"),
  (.fileTooLarge, "File too large"),
  (.storageFull, "No space left on device"),
  (.notSeekable, "Illegal seek"),
  (.readOnlyFilesystem, "Read-only file system"),
  (.tooManyLinks, "Too many links"),
  (.brokenPipe, "Broken pipe"),
  (.uncategorized, "Numerical argument out of domain"),
  (.uncategorized, "Numerical result out of range"),
  (.deadlock, "Resource deadlock avoided"),
  (.invalidFilename, "File name too long"),
  (.uncategorized, "No locks available"),
  (.unsupported, "Function not implemented"),
  (.directoryNotEmpty, "Directory not empty"),
  (.filesystemLoop, "Too many levels of symbolic links"),
  (.uncategorized, "Unknown error 41"),
  (.uncategorized, "No message of desired type"),
  (.uncategorized, "Identifier removed"),
  (.uncategorized, "Channel number out of range"),
  (.uncategorized, "Level 2 not synchronized"),
  (.uncategorized, "Level 3 halted"),
  (.uncategorized, "Level 3 reset"),
  (.uncategorized, "Link number out of range"),
  (.uncategorized, "Protocol driver not attached"),
  (.uncategorized, "No CSI structure available"),
  (.uncategorized, "Level 2 halted"),
  (.uncategorized, "Invalid exchange"),
  (.uncategorized, "Invalid request descriptor"),
  (.uncategorized, "Exchange full"),
  (.uncategorized, "No anode"),
  (.uncategorized, "Invalid request code"),
  (.uncategorized, "Invalid slot"),
  (.uncategorized, "Unknown error 58"),
  (.uncategorized, "Bad font file format"),
  (.uncategorized, "Device not a stream"),
  (.uncategorized, "No data available"),
  (.uncategorized, "Timer expired"),
  (.uncategorized, "Out of streams resources"),
  (.uncategorized, "Machine is not on the network"),
  (.uncategorized, "Package not installed"),
  (.uncategorized, "Object is remote"),
  (.uncategorized, "Link has been severed"),
  (.uncategorized, "Advertise error"),
  (.uncategorized, "Srmount error"),
  (.uncategorized, "Communication error on send"),
  (.uncategorized, "Protocol error"),
  (.uncategorized, "Multihop attempted"),
  (.uncategorized, "RFS specific error"),
  (.uncategorized, "Bad message"),
  (.uncategorized, "Value too large for defined data type"),
  (.uncategorized, "Name not unique on network"),
  (.uncategorized, "File descriptor in bad state"),
  (.uncategorized, "Remote address changed"),
  (.uncategorized, "Can not access a needed shared library"),
  (.uncategorized, "Accessing a corrupted shared library"),
  (.uncategorized, ".lib section in a.out corrupted"),
  (.uncategorized, "Attempting to link in too many shared libraries"),
  (.uncategorized, "Cannot exec a shared library directly"),
  (.uncategorized, "Invalid or incomplete multibyte or wide character"),
  (.uncategorized, "Interrupted system call should be restarted"),
  (.uncategorized, "Streams pipe error"),
  (.uncategorized, "Too many users"),
  (.uncategorized, "Socket operation on non-socket"),
  (.uncategorized, "Destination address required"),
  (.uncategorized, "Message too long"),
  (.uncategorized, "Protocol wrong type for socket"),
  (.uncategorized, "Protocol not available"),
  (.uncategorized, "Protocol not supported"),
  (.uncategorized, "Socket type not supported"),
  (.unsupported, "Operation not supported"),
  (.uncategorized, "Protocol family not supported"),
  (.uncategorized, "Address family not supported by protocol"),
  (.addrInUse, "Address already in use"),
  (.addrNotAvailable, "Cannot assign requested address"),
  (.networkDown, "Network is down"),
  (.networkUnreachable, "Network is unreachable"),
  (.uncategorized, "Network dropped connection on reset"),
  (.connectionAborted, "Software caused connection abort"),
  (.connectionReset, "Connection reset by peer"),
  (.uncategorized, "No buffer space available"),
  (.uncategorized, "Transport endpoint is already connected"),
  (.notConnected, "Transport endpoint is not connected"),
  (.uncategorized, "Cannot send after transport endpoint shutdown"),
  (.uncategorized, "Too many references: cannot splice"),
  (.timedOut, "Connection timed out"),
  (.connectionRefused, "Connection refused"),
  (.uncategorized, "Host is down"),
  (.hostUnreachable, "No route to host"),
  (.uncategorized, "Operation already in progress"),
  (.inProgress, "Operation now in progress"),
  (.staleNetworkFileHandle, "Stale file handle"),
  (.uncategorized, "Structure needs cleaning"),
  (.uncategorized, "Not a XENIX named type file"),
  (.uncategorized, "No XENIX semaphores available"),
  (.uncategorized, "Is a named type file"),
  (.uncategorized, "Remote I/O error"),
  (.quotaExceeded, "Disk quota exceeded"),
  (.uncategorized, "No medium found"),
  (.uncategorized, "Wrong medium type"),
  (.uncategorized, "Operation canceled"),
  (.uncategorized, "Required key not available"),
  (.uncategorized, "Key has expired"),
  (.uncategorized, "Key has been revoked"),
  (.uncategorized, "Key was rejected by service"),
  (.uncategorized, "Owner died"),
  (.uncategorized, "State not recoverable"),
  (.uncategorized, "Operation not possible due to RF-kill"),
  (.uncategorized, "Memory page has hardware error")]

def entry? (code : Errno) : Option (ErrorKind × String) :=
  if 0 ≤ code then table[code.toNat]? else none

def kind (code : Errno) : ErrorKind :=
  match entry? code with
  | some (kind, _) => kind
  | none => .uncategorized

def text (code : Errno) : String :=
  match entry? code with
  | some (_, text) => text
  | none => "Unknown error " ++ toString code

/-! ## Codes that the library or its system models name -/

def notPermitted : Errno := 1
def noEntry : Errno := 2
def interrupted : Errno := 4
def noDevice : Errno := 6
def badDescriptor : Errno := 9
def again : Errno := 11
def fileExists : Errno := 17
def notDirectory : Errno := 20
def isDirectory : Errno := 21
def invalidArgument : Errno := 22
def notTerminal : Errno := 25
def brokenPipe : Errno := 32
def nameTooLong : Errno := 36
def notImplemented : Errno := 38
def tooManySymlinks : Errno := 40
def protocol : Errno := 71
def destinationRequired : Errno := 89
def messageTooLong : Errno := 90
def wrongProtocolType : Errno := 91
def noProtocolOption : Errno := 92
def notSupported : Errno := 95
def addressInUse : Errno := 98
def addressNotAvailable : Errno := 99
def connectionReset : Errno := 104
def isConnected : Errno := 106
def notConnected : Errno := 107
def timedOut : Errno := 110
def connectionRefused : Errno := 111
def hostUnreachable : Errno := 113
def already : Errno := 114
def inProgress : Errno := 115

end Errno

end LocalSocket
