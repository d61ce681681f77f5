/-!
# Input and output faults

A fault is what a read, a write or an open reports when it fails.  Its kind
decides what the console does next and which exit code it ends with; its
message is what the user reads.
-/

namespace SerialConsole

inductive FaultKind where
  | notFound
  | permissionDenied
  | connectionRefused
  | connectionReset
  | connectionAborted
  | notConnected
  | addrInUse
  | addrNotAvailable
  | brokenPipe
  | alreadyExists
  | wouldBlock
  | invalidInput
  | invalidData
  | timedOut
  | writeZero
  | interrupted
  | unsupported
  | unexpectedEof
  | outOfMemory
  | notADirectory
  | isADirectory
  | invalidFilename
  | inputOutputError
  | other
  | uncategorized
  deriving DecidableEq, Repr

/-- The message of a fault that carries no message of its own. -/
def FaultKind.description : FaultKind → String
  | .notFound => "entity not found"
  | .permissionDenied => "permission denied"
  | .connectionRefused => "connection refused"
  | .connectionReset => "connection reset"
  | .connectionAborted => "connection aborted"
  | .notConnected => "not connected"
  | .addrInUse => "address in use"
  | .addrNotAvailable => "address not available"
  | .brokenPipe => "broken pipe"
  | .alreadyExists => "entity already exists"
  | .wouldBlock => "operation would block"
  | .invalidInput => "invalid input parameter"
  | .invalidData => "invalid data"
  | .timedOut => "timed out"
  | .writeZero => "write zero"
  | .interrupted => "operation interrupted"
  | .unsupported => "unsupported"
  | .unexpectedEof => "unexpected end of file"
  | .outOfMemory => "out of memory"
  | .notADirectory => "not a directory"
  | .isADirectory => "is a directory"
  | .invalidFilename => "invalid filename"
  | .inputOutputError => "input/output error"
  | .other => "other error"
  | .uncategorized => "uncategorized error"

/-- The failures that the operating system reports by number. -/
inductive Errno where
  | noEntry
  | inputOutput
  | noDevice
  | tryAgain
  | notADirectory
  | isADirectory
  | invalidArgument
  | notATerminal
  | brokenPipe
  | nameTooLong
  | reset
  | refused
  deriving DecidableEq, Repr

namespace Errno

def number : Errno → Nat
  | .noEntry => 2
  | .inputOutput => 5
  | .noDevice => 6
  | .tryAgain => 11
  | .notADirectory => 20
  | .isADirectory => 21
  | .invalidArgument => 22
  | .notATerminal => 25
  | .brokenPipe => 32
  | .nameTooLong => 36
  | .reset => 104
  | .refused => 111

def kind : Errno → FaultKind
  | .noEntry => .notFound
  | .inputOutput => .inputOutputError
  | .noDevice => .uncategorized
  | .tryAgain => .wouldBlock
  | .notADirectory => .notADirectory
  | .isADirectory => .isADirectory
  | .invalidArgument => .invalidInput
  | .notATerminal => .uncategorized
  | .brokenPipe => .brokenPipe
  | .nameTooLong => .invalidFilename
  | .reset => .connectionReset
  | .refused => .connectionRefused

def description : Errno → String
  | .noEntry => "No such file or directory"
  | .inputOutput => "Input/output error"
  | .noDevice => "No such device or address"
  | .tryAgain => "Resource temporarily unavailable"
  | .notADirectory => "Not a directory"
  | .isADirectory => "Is a directory"
  | .invalidArgument => "Invalid argument"
  | .notATerminal => "Inappropriate ioctl for device"
  | .brokenPipe => "Broken pipe"
  | .nameTooLong => "File name too long"
  | .reset => "Connection reset by peer"
  | .refused => "Connection refused"

end Errno

/-- A fault is known by its kind alone, comes with a message, or was reported
by the operating system. -/
inductive Fault where
  | plain (kind : FaultKind)
  | described (kind : FaultKind) (message : String)
  | system (errno : Errno)
  deriving DecidableEq, Repr

namespace Fault

def kind : Fault → FaultKind
  | .plain kind => kind
  | .described kind _ => kind
  | .system errno => errno.kind

def message : Fault → String
  | .plain kind => kind.description
  | .described _ message => message
  | .system errno => errno.description ++ " (os error " ++ toString errno.number ++ ")"

/-- The fault of a read that finds the other end gone. -/
def hungUp : Fault :=
  .described .unexpectedEof "link closed by peer"

/-- The fault of text that is not UTF-8. -/
def notUtf8 : Fault :=
  .described .invalidData "stream did not contain valid UTF-8"

def zeroTimeout : Fault :=
  .described .invalidInput "cannot set a 0 duration timeout"

def nulInName : Fault :=
  .described .invalidInput "file name contained an unexpected NUL byte"

/-- The fault of a socket whose path does not fit into an address. -/
def longAddress : Fault :=
  .described .invalidInput "path must be shorter than SUN_LEN"

/-- Faults after which the same write or flush is simply tried again. -/
def isTransient (fault : Fault) : Bool :=
  fault.kind == .interrupted || fault.kind == .wouldBlock

end Fault

end SerialConsole
