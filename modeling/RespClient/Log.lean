import RespClient.Error
import RespClient.SetupMode

/-!
# The log

What the library reports while it works. A `LogEntry` says what happened; `LogEntry.level` and
`LogEntry.message` are how it is reported.
-/

namespace RespClient

/-- How much attention a report asks for. -/
inductive Level where
  | debug
  | info
  | warn
  | error
  deriving DecidableEq, Repr

/-- Something worth reporting. Workers are named by their number. -/
inductive LogEntry where
  | connected (address : String)
  | givenUp (address : String) (error : Error)
  | probeFailed (address : String) (error : Error)
  /-- A pool opened with so many connections over so many addresses. -/
  | poolOpened (connections addresses : Nat) (mode : SetupMode)
  | pooledCloseFailed (error : Error)
  /-- A pool closed while so many of its connections were in it. -/
  | poolClosed (idle capacity : Nat)
  | returnedToClosedPool
  | returnedUnread (count : Nat)
  | returnedToFullPool
  | workerStarted (worker : Nat)
  | reconnected (worker : Nat)
  | reconnectFailed (worker : Nat) (error : Error)
  | commandSucceeded (worker : Nat) (name : String)
  | commandFailed (worker : Nat) (name text : String)
  | commandNotExecuted (worker : Nat) (name : String)
  /-- A batch of so many commands ended early. -/
  | batchAborted (worker size : Nat) (error : Error)
  | workerCloseFailed (worker : Nat) (error : Error)
  | workerStopped (worker batches : Nat)
  | workerNotStarted (worker : Nat) (error : Error)
  | queueOpened (queueSize workers batchSize : Nat)
  | workerCrashed
  | queueClosed (workers : Nat)
  deriving DecidableEq, Repr

namespace LogEntry

/-- How much attention a report asks for. -/
def level : LogEntry → Level
  | connected _ | givenUp .. | returnedToClosedPool | workerStarted _ | workerStopped .. => .debug
  | poolOpened .. | poolClosed .. | reconnected _ | commandSucceeded .. | queueOpened ..
  | queueClosed _ => .info
  | probeFailed .. | pooledCloseFailed _ | returnedUnread _ | returnedToFullPool
  | reconnectFailed .. | workerCloseFailed .. => .warn
  | commandFailed .. | commandNotExecuted .. | batchAborted .. | workerNotStarted ..
  | workerCrashed => .error

/-- The wording of a report. -/
def message : LogEntry → String
  | connected address => "Connected to " ++ address
  | givenUp address error =>
    "Closing connection to " ++ address ++ " after error: " ++ error.message
  | probeFailed address error =>
    "Liveness probe to " ++ address ++ " failed: " ++ error.message
  | poolOpened connections addresses mode =>
    s!"Opened connection pool: {connections} connections over {addresses} address(es), mode=" ++
      mode.name
  | pooledCloseFailed error => "Error closing pooled connection: " ++ error.message
  | poolClosed idle capacity =>
    s!"Closed connection pool ({idle} of {capacity} connections idle)"
  | returnedToClosedPool => "Pool closed; closing returned connection"
  | returnedUnread count => s!"Connection returned with {count} unread replies; replacing it"
  | returnedToFullPool => "Connection pushed to a full pool; closing it"
  | workerStarted worker => s!"Batch worker {worker} started"
  | reconnected worker => s!"Batch worker {worker}: replacing closed connection"
  | reconnectFailed worker error =>
    s!"Batch worker {worker}: reconnect failed: " ++ error.message
  | commandSucceeded worker name => s!"Batch worker {worker}: command {name} succeeded"
  | commandFailed worker name text =>
    s!"Batch worker {worker}: command {name} failed: " ++ text
  | commandNotExecuted worker name => s!"Batch worker {worker}: command {name} not executed"
  | batchAborted worker size error =>
    s!"Batch worker {worker}: batch of {size} aborted: " ++ error.message
  | workerCloseFailed worker error =>
    s!"Batch worker {worker} failed to close connection: " ++ error.message
  | workerStopped worker batches => s!"Batch worker {worker} stopped after {batches} batches"
  | workerNotStarted worker error =>
    s!"Failed to start batch worker {worker}: " ++ error.message
  | queueOpened queueSize workers batchSize =>
    s!"Batch queue opened: queue_size={queueSize}, workers={workers}, batch_size={batchSize}"
  | workerCrashed => "Batch worker panicked before shutdown"
  | queueClosed workers => s!"Batch queue closed ({workers} workers stopped)"

end LogEntry

end RespClient
