import RespClient.Limits
import RespClient.Text.Hexadecimal
import RespClient.Text.Utf8

/-!
# Errors

An `Error` says why a call was refused or failed, by cause; `Error.message` is its wording.
`Error.concernsConnection` separates the causes that concern the connection itself from those that
concern the command, the pool or the queue. A `Failure` is either such an error, handed to the
caller, or a crash of the thread that made the call.
-/

namespace RespClient

/-! ## Input and output -/

/-- The classes of input and output errors. -/
inductive IoError.Kind where
  | unexpectedEnd
  | writeZero
  | connectionRefused
  | networkUnreachable
  | addressNotAvailable
  | wouldBlock
  | invalidInput
  | brokenPipe
  | uncategorized
  | other
  deriving DecidableEq, Repr

/-- An error of the transport: its class, and what the transport had to tell. -/
structure IoError where
  kind : IoError.Kind
  text : String
  deriving DecidableEq, Repr

namespace IoError

/-- The stream ended inside a piece of known length. -/
def unexpectedEnd : IoError := ⟨.unexpectedEnd, "failed to fill whole buffer"⟩

/-- The writer took fewer bytes than it was given. -/
def writeZero : IoError := ⟨.writeZero, "failed to write whole buffer"⟩

/-- Nobody listens at the address. -/
def connectionRefused : IoError := ⟨.connectionRefused, "Connection refused (os error 111)"⟩

/-- There is no route to the address. -/
def networkUnreachable : IoError :=
  ⟨.networkUnreachable, "Network is unreachable (os error 101)"⟩

/-- The host has no address of its own from which the address could be reached. -/
def addressNotAvailable : IoError :=
  ⟨.addressNotAvailable, "Cannot assign requested address (os error 99)"⟩

/-- Nothing arrived before the read timed out. -/
def timedOut : IoError :=
  ⟨.wouldBlock, "Resource temporarily unavailable (os error 11)"⟩

/-- The address has no colon. -/
def noColon : IoError := ⟨.invalidInput, "invalid socket address"⟩

/-- What follows the last colon of the address is not a number below `2 ^ 16`. -/
def badNumber : IoError := ⟨.invalidInput, "invalid port value"⟩

/-- The name of a host has a NUL character. -/
def nulInName : IoError := ⟨.invalidInput, "file name contained an unexpected NUL byte"⟩

/-- A text that cannot be the name of a host. -/
def nameUnknown : IoError :=
  ⟨.uncategorized, "failed to lookup address information: Name or service not known"⟩

/-- Nobody answers for the name of a host. -/
def nameUnanswered : IoError :=
  ⟨.uncategorized, "failed to lookup address information: Temporary failure in name resolution"⟩

/-- A connection cannot be dialed in no time. -/
def zeroTimeout : IoError := ⟨.invalidInput, "cannot set a 0 duration timeout"⟩

end IoError

/-! ## Violations of the protocol -/

/-- What is wrong with the replies that arrive, or with the order in which they are asked for. -/
inductive Violation where
  | emptyLine
  | unterminatedLine
  | unknownType (byte : UInt8)
  | badInteger (text : Bytes)
  /-- A bulk string declares more bytes than are accepted. -/
  | bulkTooLarge (length : Int64)
  | unterminatedBulk
  /-- An array declares more elements than are accepted. -/
  | arrayTooLong (length : Int64)
  | repliesUnread (count : Nat)
  | repliesUnreadBeforeBatch (count : Nat)
  | nothingPending
  /-- A reply that is asked for as text is not UTF-8. -/
  | notText
  /-- Any other violation, in the words of the connection that found it. -/
  | other (detail : String)
  deriving DecidableEq, Repr

/-- The wording of a violation. -/
def Violation.message : Violation → String
  | emptyLine => "empty reply line"
  | unterminatedLine => "Reply line missing CRLF"
  | unknownType byte => "Unknown reply type: 0x" ++ Hexadecimal.ofByte byte
  | badInteger text => "Invalid integer: '" ++ Utf8.lossy text ++ "'"
  | bulkTooLarge length => s!"Bulk string too large: {length.toInt} bytes (max {maxBulkLength})"
  | unterminatedBulk => "Bulk string missing CRLF terminator"
  | arrayTooLong length => s!"Array too long: {length.toInt} elements (max {maxArrayLength})"
  | repliesUnread count => s!"{count} pipelined replies unread"
  | repliesUnreadBeforeBatch count => s!"{count} pipelined replies unread before batch"
  | nothingPending => "no reply pending"
  | notText => "reply is not valid UTF-8"
  | other detail => detail

/-! ## Configuration faults -/

/-- What is wrong with a configuration. -/
inductive ConfigFault where
  | zeroCapacity
  | noAddress
  | blankAddress (index : Nat)
  | unknownMode (name : String)
  /-- A rotation needs at least one address. -/
  | emptyRotation
  | notOneServer (count : Nat)
  /-- Any other fault, in the words of the part that found it. -/
  | other (detail : String)
  deriving DecidableEq, Repr

/-- The wording of a configuration fault. -/
def ConfigFault.message : ConfigFault → String
  | zeroCapacity => "pool capacity must be greater than zero"
  | noAddress => "pool needs at least one upstream address"
  | blankAddress index => s!"upstream address at index {index} is blank"
  | unknownMode name => "unknown initialization mode '" ++ name ++ "'"
  | emptyRotation => "address list must not be empty"
  | notOneServer count => s!"load needs exactly one --server, got {count}"
  | other detail => detail

/-! ## Errors of the library -/

/-- The shapes that a reply may be expected to have. -/
inductive Expectation where
  | scalar
  | integer
  | integerOrOk
  | array
  | pong
  deriving DecidableEq, Repr

/-- The name of an expected shape. -/
def Expectation.name : Expectation → String
  | scalar => "scalar"
  | integer => "integer"
  | integerOrOk => "integer or OK"
  | array => "array"
  | pong => "PONG"

/-- Why a call was refused or failed. -/
inductive Error where
  | io (cause : IoError)
  | protocol (violation : Violation)
  | connectionClosed
  | server (text : String)
  | unexpectedReply (expected : Expectation) (actual : String)
  | poolExhausted
  | poolClosed
  | poolAlreadyOpen
  | queueAlreadyOpen
  | noLogger
  | noConnection
  | zeroQueueSize
  | zeroWorkers
  | zeroBatchSize
  | queueTooSmall (queueSize workers : Nat)
  | queueClosed
  | emptyCommand (index : Nat)
  | config (fault : ConfigFault)
  deriving DecidableEq, Repr

namespace Error

/-- The wording of an error. -/
def message : Error → String
  | io cause => "IO error: " ++ cause.text
  | protocol violation => "Protocol error: " ++ violation.message
  | connectionClosed => "Connection is closed"
  | server text => "Server error: " ++ text
  | unexpectedReply expected actual =>
    "Unexpected reply: expected " ++ expected.name ++ ", got " ++ actual
  | poolExhausted => "No connections available"
  | poolClosed => "Connection pool is closed"
  | poolAlreadyOpen => "Connection pool is already open"
  | queueAlreadyOpen => "Batch queue is already open"
  | noLogger => "Batch queue has no logger"
  | noConnection => "Batch queue has no connection"
  | zeroQueueSize => "Batch queue size must be greater than zero"
  | zeroWorkers => "Batch queue worker count must be greater than zero"
  | zeroBatchSize => "Batch queue batch size must be greater than zero"
  | queueTooSmall queueSize workers =>
    s!"Batch queue size {queueSize} is smaller than worker count {workers}"
  | queueClosed => "Batch queue is closed"
  | emptyCommand index => s!"Empty command at index {index}"
  | config fault => "Configuration error: " ++ fault.message

/-- Whether an error concerns the connection itself. -/
def concernsConnection : Error → Bool
  | io _ | protocol _ | connectionClosed => true
  | _ => false

end Error

/-! ## Failures -/

/-- Why a thread crashed. -/
inductive Crash where
  | indexOutOfBounds (length index : Nat)
  /-- A stock of this size was given one more value while it was filled. -/
  | overfilled (size : Nat)
  | capacityOverflow
  /-- Any other crash, in the words of the part that caused it. -/
  | other (detail : String)
  deriving DecidableEq, Repr

/-- The last words of a thread that crashes. -/
def Crash.message : Crash → String
  | indexOutOfBounds length index =>
    s!"index out of bounds: the len is {length} but the index is {index}"
  | overfilled size =>
    s!"internal error: entered unreachable code: pool of {size} filled past capacity"
  | capacityOverflow => "capacity overflow"
  | other detail => detail

/-- How a call ends that does not succeed: with an error for its caller, or by crashing the thread
that made it. -/
inductive Failure where
  | reported (error : Error)
  | crashed (crash : Crash)
  deriving DecidableEq, Repr

end RespClient
