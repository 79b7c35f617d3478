/-
  Failures of socket calls: a kind, or an error number of the system with a text of its own.

  * `IoError.kind` is all that decisions look at, except that running out of descriptors or
    buffers is told by the number (`IoError.isExhaustion`);
  * `IoError.text` is what is shown.
-/

namespace SocksProxy

/-- What went wrong, as far as callers can tell. -/
inductive IoKind where
  | addrInUse
  | addrNotAvailable
  | brokenPipe
  | connectionAborted
  | connectionRefused
  | connectionReset
  | hostUnreachable
  | interrupted
  | invalidInput
  | networkDown
  | networkUnreachable
  | notConnected
  | notFound
  | other
  | outOfMemory
  | permissionDenied
  | timedOut
  | unexpectedEof
  | wouldBlock
  | writeZero
  | uncategorized
  deriving DecidableEq, Repr

/-- The text of a kind that comes without an error number. -/
def IoKind.text : IoKind → String
  | addrInUse => "address in use"
  | addrNotAvailable => "address not available"
  | brokenPipe => "broken pipe"
  | connectionAborted => "connection aborted"
  | connectionRefused => "connection refused"
  | connectionReset => "connection reset"
  | hostUnreachable => "host unreachable"
  | interrupted => "operation interrupted"
  | invalidInput => "invalid input parameter"
  | networkDown => "network down"
  | networkUnreachable => "network unreachable"
  | notConnected => "not connected"
  | notFound => "entity not found"
  | other => "other error"
  | outOfMemory => "out of memory"
  | permissionDenied => "permission denied"
  | timedOut => "timed out"
  | unexpectedEof => "unexpected end of file"
  | wouldBlock => "operation would block"
  | writeZero => "write zero"
  | uncategorized => "uncategorized error"

/-- The error numbers of the system that socket calls report. -/
inductive Errno where
  | perm | noent | intr | badf | again | nomem | acces | inval | nfile | mfile | nospc | pipe
  | addrinuse | addrnotavail | netdown | netunreach | connaborted | connreset | nobufs | notconn
  | timedout | connrefused | hostunreach
  deriving DecidableEq, Repr

namespace Errno

/-- The number. -/
def number : Errno → Nat
  | perm => 1
  | noent => 2
  | intr => 4
  | badf => 9
  | again => 11
  | nomem => 12
  | acces => 13
  | inval => 22
  | nfile => 23
  | mfile => 24
  | nospc => 28
  | pipe => 32
  | addrinuse => 98
  | addrnotavail => 99
  | netdown => 100
  | netunreach => 101
  | connaborted => 103
  | connreset => 104
  | nobufs => 105
  | notconn => 107
  | timedout => 110
  | connrefused => 111
  | hostunreach => 113

/-- Every error number. -/
def all : List Errno :=
  [perm, noent, intr, badf, again, nomem, acces, inval, nfile, mfile, nospc, pipe, addrinuse,
   addrnotavail, netdown, netunreach, connaborted, connreset, nobufs, notconn, timedout,
   connrefused, hostunreach]

/-- The error with this number. -/
def ofNumber? (n : Nat) : Option Errno :=
  all.find? (·.number == n)

/-- The kind that an error number counts as. -/
def kind : Errno → IoKind
  | perm | acces => .permissionDenied
  | noent => .notFound
  | intr => .interrupted
  | again => .wouldBlock
  | nomem => .outOfMemory
  | inval => .invalidInput
  | pipe => .brokenPipe
  | addrinuse => .addrInUse
  | addrnotavail => .addrNotAvailable
  | netdown => .networkDown
  | netunreach => .networkUnreachable
  | connaborted => .connectionAborted
  | connreset => .connectionReset
  | notconn => .notConnected
  | timedout => .timedOut
  | connrefused => .connectionRefused
  | hostunreach => .hostUnreachable
  | badf | nfile | mfile | nospc | nobufs => .uncategorized

/-- The system's text for an error number. -/
def text : Errno → String
  | perm => "Operation not permitted"
  | noent => "No such file or directory"
  | intr => "Interrupted system call"
  | badf => "Bad file descriptor"
  | again => "Resource temporarily unavailable"
  | nomem => "Cannot allocate memory"
  | acces => "Permission denied"
  | inval => "Invalid argument"
  | nfile => "Too many open files in system"
  | mfile => "Too many open files"
  | nospc => "No space left on device"
  | pipe => "Broken pipe"
  | addrinuse => "Address already in use"
  | addrnotavail => "Cannot assign requested address"
  | netdown => "Network is down"
  | netunreach => "Network is unreachable"
  | connaborted => "Software caused connection abort"
  | connreset => "Connection reset by peer"
  | nobufs => "No buffer space available"
  | notconn => "Transport endpoint is not connected"
  | timedout => "Connection timed out"
  | connrefused => "Connection refused"
  | hostunreach => "No route to host"

end Errno

/-- A failed socket call. -/
inductive IoError where
  | plain (kind : IoKind)
  | system (errno : Errno)
  deriving DecidableEq, Repr

namespace IoError

/-- What went wrong. -/
def kind : IoError → IoKind
  | plain k => k
  | system e => e.kind

/-- The text of the failure; a system error shows its number too. -/
def text : IoError → String
  | plain k => k.text
  | system e => e.text ++ " (os error " ++ toString e.number ++ ")"

/-- A call that failed because nothing is ready yet. -/
def isWouldBlock (e : IoError) : Bool :=
  e.kind == .wouldBlock

/-- A call that was cut short and is to be made again. -/
def isInterrupted (e : IoError) : Bool :=
  e.kind == .interrupted

/-- A connection that went away before it could be accepted. -/
def isTransientAccept (e : IoError) : Bool :=
  e.kind == .connectionAborted || e.kind == .connectionReset

/-- Descriptors, buffers or memory have run out. -/
def isExhaustion (e : IoError) : Bool :=
  e.kind == .outOfMemory ||
    match e with
    | system .mfile | system .nfile | system .nobufs | system .nomem => true
    | _ => false

/-- The error behind an error event, where `pending` is what the socket says about it. A socket
    that says nothing is taken to be reset. -/
def behindEvent (pending : Except IoError (Option IoError)) : IoError :=
  match pending with
  | .ok (some e) => e
  | .ok none => .plain .connectionReset
  | .error e => e

end IoError

end SocksProxy
