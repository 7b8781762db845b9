import RespClient.Pipeline

/-!
# Workers

A worker takes commands from a queue and sends them in batches over a connection of its own. It
waits for the first command of a batch, and then only adds what is there already: it never waits
for a second one.

A worker is driven from outside. `Worker.observe` tells it what it finds when it looks at the queue,
and `Worker.perform` lets it send the batch that it has collected. Each command of a batch is
reported with its outcome. A batch whose connection fails is not sent again, and the connection is
replaced before the next batch.
-/

namespace RespClient.Queue

/-- What a worker is doing. -/
inductive Phase where
  /-- It waits for the first command of a batch. -/
  | waiting
  /-- It looks for more commands to go with these. -/
  | collecting (batch : List Command)
  /-- It is about to send a batch, which is its last if the queue was found closed. -/
  | ready (batch : List Command) (last : Bool)
  /-- It has ended. -/
  | stopped
  /-- It has crashed. -/
  | crashed (cause : Crash)
  deriving DecidableEq, Repr

/-- A worker with its connection. -/
structure Worker (C : Type) where
  number : Nat
  /-- The most commands in one batch. -/
  batchSize : Nat
  connection : C
  phase : Phase := .waiting
  /-- The number of batches so far. -/
  batches : Nat := 0
  deriving Repr

/-- What a worker finds when it looks at the queue. -/
inductive Finding where
  /-- A command, which it takes. -/
  | command (command : Command)
  /-- No command for now. -/
  | nothing
  /-- No command, and there will be none. -/
  | closed
  deriving DecidableEq, Repr

namespace Worker

variable {C Net : Type}

/-- The commands that a worker has taken and not yet sent. -/
def holding (worker : Worker C) : List Command :=
  match worker.phase with
  | .collecting batch | .ready batch _ => batch
  | .waiting | .stopped | .crashed _ => []

/-- Whether the worker may still take commands. -/
def isAlive (worker : Worker C) : Bool :=
  match worker.phase with
  | .stopped | .crashed _ => false
  | .waiting | .collecting _ | .ready .. => true

/-- Why the worker crashed, if it did. -/
def crash? (worker : Worker C) : Option Crash :=
  match worker.phase with
  | .crashed cause => some cause
  | .waiting | .collecting _ | .ready .. | .stopped => none

/-- The phase of a worker with a batch that may have room for more. -/
def gather (batchSize : Nat) (batch : List Command) : Phase :=
  if batch.length < batchSize then .collecting batch else .ready batch false

variable [Connection C Net]

/-- A worker that begins. A batch holds at least one command. -/
def start (number batchSize : Nat) (connection : C) (world : World Net) :
    Worker C × World Net :=
  ({ number, batchSize := max batchSize 1, connection }, world.report (.workerStarted number))

/-- Replaces a closed connection. If that is refused, the closed one stays. -/
def reconnect (worker : Worker C) (world : World Net) : Worker C × World Net :=
  if Connection.isClosed worker.connection then
    match Connection.sibling worker.connection world with
    | (.ok connection, world) =>
      ({ worker with connection }, world.report (.reconnected worker.number))
    | (.error error, world) => (worker, world.report (.reconnectFailed worker.number error))
  else (worker, world)

/-- Closes the connection and ends. -/
def finish (worker : Worker C) (world : World Net) : Worker C × World Net :=
  let (result, connection, world) := Connection.close worker.connection world
  let world :=
    match result with
    | .ok () => world
    | .error error => world.report (.workerCloseFailed worker.number error)
  ({ worker with connection, phase := .stopped },
    world.report (.workerStopped worker.number worker.batches))

omit [Connection C Net] in
/-- The report on a command after its batch. -/
def outcome (number : Nat) (command : Command) : LogEntry :=
  match command.reply with
  | none => .commandNotExecuted number command.name
  | some (.error text) => .commandFailed number command.name text
  | some _ => .commandSucceeded number command.name

omit [Connection C Net] in
/-- Reports on the commands of a batch, and then on the batch if it ended early. -/
def reportBatch (number : Nat) (commands : List Command) (error? : Option Error)
    (world : World Net) : World Net :=
  let world := commands.foldl (fun world command => world.report (outcome number command)) world
  match error? with
  | none => world
  | some error => world.report (.batchAborted number commands.length error)

/-- Ends at once, and drops the connection. -/
def crash (cause : Crash) (worker : Worker C) (world : World Net) : Worker C × World Net :=
  ({ worker with phase := .crashed cause }, Connection.abandon worker.connection world)

/-- Sends a batch. A crash ends the worker. -/
def sendBatch (batch : List Command) (worker : Worker C) (world : World Net) :
    Worker C × World Net :=
  let (worker, world) := worker.reconnect world
  let (result, commands, connection, world) := exchange batch worker.connection world
  match result with
  | .error (.crashed cause) => crash cause { worker with connection } world
  | .error (.reported error) =>
    ({ worker with connection, phase := .waiting, batches := worker.batches + 1 },
      reportBatch worker.number commands (some error) world)
  | .ok () =>
    ({ worker with connection, phase := .waiting, batches := worker.batches + 1 },
      reportBatch worker.number commands none world)

/-- Sends the collected batch, if the worker is ready to, and ends if it is the last. -/
def perform (worker : Worker C) (world : World Net) : Worker C × World Net :=
  match worker.phase with
  | .ready batch last =>
    let (worker, world) := worker.sendBatch batch world
    if last && worker.isAlive then worker.finish world else (worker, world)
  | .waiting | .collecting _ | .stopped | .crashed _ => (worker, world)

/-- Goes on with what the worker finds in the queue. With the first command of a batch it sets aside
room for all that the batch may hold. -/
def observe (finding : Finding) (worker : Worker C) (world : World Net) :
    Worker C × World Net :=
  match worker.phase, finding with
  | .waiting, .command command =>
    if maxRoom < worker.batchSize then worker.crash .capacityOverflow world
    else ({ worker with phase := gather worker.batchSize [command] }, world)
  | .waiting, .nothing => (worker, world)
  | .waiting, .closed => worker.finish world
  | .collecting batch, .command command =>
    ({ worker with phase := gather worker.batchSize (batch ++ [command]) }, world)
  | .collecting batch, .nothing => ({ worker with phase := .ready batch false }, world)
  | .collecting batch, .closed => ({ worker with phase := .ready batch true }, world)
  | .ready .., _ | .stopped, _ | .crashed _, _ => (worker, world)

/-- Goes through findings in order, and sends each batch as soon as it is complete. -/
def run : List Finding → Worker C → World Net → Worker C × World Net
  | [], worker, world => (worker, world)
  | finding :: rest, worker, world =>
    let (worker, world) := worker.observe finding world
    let (worker, world) := worker.perform world
    run rest worker world

end Worker

end RespClient.Queue
