/-! # Kinds of input and output errors

The classes of failed system operations, the text of each, and the class and the text of a numbered
system error. -/
set_option autoImplicit false

namespace HttpService

/-- A class of failed operations on files and connections. -/
inductive IoKind where
  | addressInUse | addressNotAvailable | alreadyExists | argumentListTooLong | brokenPipe
  | connectionAborted | connectionRefused | connectionReset | crossesDevices | deadlock
  | directoryNotEmpty | executableFileBusy | fileTooLarge | filesystemLoop | hostUnreachable
  | inProgress | interrupted | invalidData | invalidFilename | invalidInput | isADirectory
  | networkDown | networkUnreachable | notADirectory | notConnected | notFound | notSeekable
  | other | outOfMemory | permissionDenied | quotaExceeded | readOnlyFilesystem | resourceBusy
  | staleNetworkFileHandle | storageFull | timedOut | tooManyLinks | uncategorized
  | unexpectedEnd | unsupported | wouldBlock | writeZero
deriving DecidableEq, Inhabited

namespace IoKind

/-- The text of an error of which only the class is known. -/
def description : IoKind -> String
  | .addressInUse => "address in use"
  | .addressNotAvailable => "address not available"
  | .alreadyExists => "entity already exists"
  | .argumentListTooLong => "argument list too long"
  | .brokenPipe => "broken pipe"
  | .connectionAborted => "connection aborted"
  | .connectionRefused => "connection refused"
  | .connectionReset => "connection reset"
  | .crossesDevices => "cross-device link or rename"
  | .deadlock => "deadlock"
  | .directoryNotEmpty => "directory not empty"
  | .executableFileBusy => "executable file busy"
  | .fileTooLarge => "file too large"
  | .filesystemLoop => "filesystem loop or indirection limit (e.g. symlink loop)"
  | .hostUnreachable => "host unreachable"
  | .inProgress => "in progress"
  | .interrupted => "operation interrupted"
  | .invalidData => "invalid data"
  | .invalidFilename => "invalid filename"
  | .invalidInput => "invalid input parameter"
  | .isADirectory => "is a directory"
  | .networkDown => "network down"
  | .networkUnreachable => "network unreachable"
  | .notADirectory => "not a directory"
  | .notConnected => "not connected"
  | .notFound => "entity not found"
  | .notSeekable => "seek on unseekable file"
  | .other => "other error"
  | .outOfMemory => "out of memory"
  | .permissionDenied => "permission denied"
  | .quotaExceeded => "quota exceeded"
  | .readOnlyFilesystem => "read-only filesystem or storage medium"
  | .resourceBusy => "resource busy"
  | .staleNetworkFileHandle => "stale network file handle"
  | .storageFull => "no storage space"
  | .timedOut => "timed out"
  | .tooManyLinks => "too many links"
  | .uncategorized => "uncategorized error"
  | .unexpectedEnd => "unexpected end of file"
  | .unsupported => "unsupported"
  | .wouldBlock => "operation would block"
  | .writeZero => "write zero"

def named : List (String × IoKind) := [
  ("AddrInUse", .addressInUse), ("AddrNotAvailable", .addressNotAvailable),
  ("AlreadyExists", .alreadyExists), ("ArgumentListTooLong", .argumentListTooLong),
  ("BrokenPipe", .brokenPipe), ("ConnectionAborted", .connectionAborted),
  ("ConnectionRefused", .connectionRefused), ("ConnectionReset", .connectionReset),
  ("CrossesDevices", .crossesDevices), ("Deadlock", .deadlock),
  ("DirectoryNotEmpty", .directoryNotEmpty), ("ExecutableFileBusy", .executableFileBusy),
  ("FileTooLarge", .fileTooLarge), ("FilesystemLoop", .filesystemLoop),
  ("HostUnreachable", .hostUnreachable), ("InProgress", .inProgress),
  ("Interrupted", .interrupted), ("InvalidData", .invalidData),
  ("InvalidFilename", .invalidFilename), ("InvalidInput", .invalidInput),
  ("IsADirectory", .isADirectory), ("NetworkDown", .networkDown),
  ("NetworkUnreachable", .networkUnreachable), ("NotADirectory", .notADirectory),
  ("NotConnected", .notConnected), ("NotFound", .notFound), ("NotSeekable", .notSeekable),
  ("Other", .other), ("OutOfMemory", .outOfMemory), ("PermissionDenied", .permissionDenied),
  ("QuotaExceeded", .quotaExceeded), ("ReadOnlyFilesystem", .readOnlyFilesystem),
  ("ResourceBusy", .resourceBusy), ("StaleNetworkFileHandle", .staleNetworkFileHandle),
  ("StorageFull", .storageFull), ("TimedOut", .timedOut), ("TooManyLinks", .tooManyLinks),
  ("Uncategorized", .uncategorized), ("UnexpectedEof", .unexpectedEnd),
  ("Unsupported", .unsupported), ("WouldBlock", .wouldBlock), ("WriteZero", .writeZero)]

def ofName? (name : String) : Option IoKind :=
  (named.find? fun entry => entry.1 == name).map Prod.snd

def ofSystemCode : Int -> IoKind
  | 1 | 13 => .permissionDenied
  | 2 => .notFound
  | 4 => .interrupted
  | 7 => .argumentListTooLong
  | 11 => .wouldBlock
  | 12 => .outOfMemory
  | 16 => .resourceBusy
  | 17 => .alreadyExists
  | 18 => .crossesDevices
  | 20 => .notADirectory
  | 21 => .isADirectory
  | 22 => .invalidInput
  | 26 => .executableFileBusy
  | 27 => .fileTooLarge
  | 28 => .storageFull
  | 29 => .notSeekable
  | 30 => .readOnlyFilesystem
  | 31 => .tooManyLinks
  | 32 => .brokenPipe
  | 35 => .deadlock
  | 36 => .invalidFilename
  | 38 | 95 => .unsupported
  | 39 => .directoryNotEmpty
  | 40 => .filesystemLoop
  | 98 => .addressInUse
  | 99 => .addressNotAvailable
  | 100 => .networkDown
  | 101 => .networkUnreachable
  | 103 => .connectionAborted
  | 104 => .connectionReset
  | 107 => .notConnected
  | 110 => .timedOut
  | 111 => .connectionRefused
  | 113 => .hostUnreachable
  | 115 => .inProgress
  | 116 => .staleNetworkFileHandle
  | 122 => .quotaExceeded
  | _ => .uncategorized

/-- The texts of the system errors from 0 on, a missing number as the empty text. -/
def systemTexts : List String := [
  "Success", "Operation not permitted", "No such file or directory", "No such process",
  "Interrupted system call", "Input/output error", "No such device or address",
  "Argument list too long", "Exec format error", "Bad file descriptor", "No child processes",
  "Resource temporarily unavailable", "Cannot allocate memory", "Permission denied", "Bad address",
  "Block device required", "Device or resource busy", "File exists", "Invalid cross-device link",
  "No such device", "Not a directory", "Is a directory", "Invalid argument",
  "Too many open files in system", "Too many open files", "Inappropriate ioctl for device",
  "Text file busy", "File too large", "No space left on device", "Illegal seek",
  "Read-only file system", "Too many links", "Broken pipe", "Numerical argument out of domain",
  "Numerical result out of range", "Resource deadlock avoided", "File name too long",
  "No locks available", "Function not implemented", "Directory not empty",
  "Too many levels of symbolic links", "", "No message of desired type", "Identifier removed",
  "Channel number out of range", "Level 2 not synchronized", "Level 3 halted", "Level 3 reset",
  "Link number out of range", "Protocol driver not attached", "No CSI structure available",
  "Level 2 halted", "Invalid exchange", "Invalid request descriptor", "Exchange full", "No anode",
  "Invalid request code", "Invalid slot", "", "Bad font file format", "Device not a stream",
  "No data available", "Timer expired", "Out of streams resources",
  "Machine is not on the network", "Package not installed", "Object is remote",
  "Link has been severed", "Advertise error", "Srmount error", "Communication error on send",
  "Protocol error", "Multihop attempted", "RFS specific error", "Bad message",
  "Value too large for defined data type", "Name not unique on network",
  "File descriptor in bad state", "Remote address changed",
  "Can not access a needed shared library", "Accessing a corrupted shared library",
  ".lib section in a.out corrupted", "Attempting to link in too many shared libraries",
  "Cannot exec a shared library directly", "Invalid or incomplete multibyte or wide character",
  "Interrupted system call should be restarted", "Streams pipe error", "Too many users",
  "Socket operation on non-socket", "Destination address required", "Message too long",
  "Protocol wrong type for socket", "Protocol not available", "Protocol not supported",
  "Socket type not supported", "Operation not supported", "Protocol family not supported",
  "Address family not supported by protocol", "Address already in use",
  "Cannot assign requested address", "Network is down", "Network is unreachable",
  "Network dropped connection on reset", "Software caused connection abort",
  "Connection reset by peer", "No buffer space available",
  "Transport endpoint is already connected", "Transport endpoint is not connected",
  "Cannot send after transport endpoint shutdown", "Too many references: cannot splice",
  "Connection timed out", "Connection refused", "Host is down", "No route to host",
  "Operation already in progress", "Operation now in progress", "Stale file handle",
  "Structure needs cleaning", "Not a XENIX named type file", "No XENIX semaphores available",
  "Is a named type file", "Remote I/O error", "Disk quota exceeded", "No medium found",
  "Wrong medium type", "Operation canceled", "Required key not available", "Key has expired",
  "Key has been revoked", "Key was rejected by service", "Owner died", "State not recoverable",
  "Operation not possible due to RF-kill", "Memory page has hardware error"]

def systemMessage (code : Int) : String :=
  let text := match code with
    | .ofNat number => systemTexts.getD number ""
    | .negSucc _ => ""
  let text := if text.isEmpty then "Unknown error " ++ toString code else text
  text ++ " (os error " ++ toString code ++ ")"

/-- Does an error of this class mean that the peer dropped the connection? -/
def losesConnection : IoKind -> Bool
  | .brokenPipe | .connectionReset => true
  | _ => false

end IoKind

end HttpService
