import RespClient.Queue.Config
import RespClient.Queue.Worker

/-!
# Queues

A queue takes commands and has them sent in the background, by a fixed number of workers. Commands
wait in a bounded channel, first in, first out; whoever submits waits while it is full. What becomes
of a command is reported by the worker that sent it, and not to whoever submitted it.

The workers run side by side. `Queue.move` is one step of one of them, and any order of such steps
is a run of the queue; `Queue.settle` is the run in which the first worker that can go on always
does. Submitting and closing are such runs: the workers go on only while the caller has to wait, for
room in the channel or for their end.
-/

namespace RespClient

/-- What happens to the reports of workers. -/
inductive Queue.Logger where
  /-- They are kept. -/
  | keep
  /-- They are thrown away. -/
  | discard
  deriving DecidableEq, Repr

/-- What a queue has while it is open. -/
structure Queue.Running (C : Type) where
  /-- The commands that wait for a worker, the oldest first. -/
  channel : List Command := []
  /-- Whether no more commands will come. -/
  closing : Bool := false
  workers : List (Queue.Worker C) := []
  logger : Queue.Logger
  deriving Repr

/-- A queue. -/
structure Queue (C : Type) where
  config : Queue.Config
  logger : Option Queue.Logger := none
  /-- The connection whose siblings the workers get. -/
  seed : Option C := none
  running : Option (Queue.Running C) := none
  /-- The reports of the workers that were kept. -/
  workerLog : Array LogEntry := #[]
  deriving Repr

namespace Queue

variable {C Net : Type}

/-- Whether the queue is open. -/
def isOpen (queue : Queue C) : Bool := queue.running.isSome

/-- The number of commands that wait for a worker. -/
def length (queue : Queue C) : Nat :=
  (queue.running.map fun running => running.channel.length).getD 0

/-- Whether no command waits. -/
def isEmpty (queue : Queue C) : Bool := queue.length = 0

/-! ## Steps of workers -/

/-- What a worker finds in the channel, and the channel after that. A worker that waits for its
first command finds something only when there is something to find. -/
def Running.find? (running : Running C) (phase : Phase) : Option (Finding × List Command) :=
  match phase, running.channel with
  | .waiting, command :: rest | .collecting _, command :: rest => some (.command command, rest)
  | .waiting, [] => if running.closing then some (.closed, []) else none
  | .collecting _, [] => some (if running.closing then .closed else .nothing, [])
  | .ready .., _ | .stopped, _ | .crashed _, _ => none

/-- The queue after a change of its workers. Commands that no worker is left to take are lost. -/
def Running.withWorkers (running : Running C) (workers : List (Worker C)) : Running C :=
  { running with
    workers
    channel := if workers.any Worker.isAlive then running.channel else [] }

/-- Lets a worker act with a log of its own, which its logger keeps or throws away. -/
def logged (logger : Logger) (action : World Net → Worker C × World Net)
    (workerLog : Array LogEntry) (world : World Net) :
    Worker C × Array LogEntry × World Net :=
  let (worker, after) := action { world with log := workerLog }
  (worker, if logger = .keep then after.log else workerLog, { after with log := world.log })

/-- The queue after an action of one of its workers. -/
def act (index : Nat) (running : Running C) (action : World Net → Worker C × World Net)
    (queue : Queue C) (world : World Net) : Queue C × World Net :=
  let (worker, workerLog, world) := logged running.logger action queue.workerLog world
  let running := running.withWorkers (running.workers.set index worker)
  ({ queue with running := some running, workerLog }, world)

variable [Connection C Net]

/-- One step of the worker with a number, if it can take one: it looks at the channel, or sends what
it has collected. -/
def move (index : Nat) (queue : Queue C) (world : World Net) : Option (Queue C × World Net) := do
  let running ← queue.running
  let worker ← running.workers[index]?
  match worker.phase with
  | .ready .. => return queue.act index running worker.perform world
  | phase =>
    let (finding, channel) ← running.find? phase
    return queue.act index { running with channel } (worker.observe finding) world

/-- A step of the first worker that can take one. -/
def moveAny (queue : Queue C) (world : World Net) : Option (Queue C × World Net) :=
  let workers := (queue.running.map fun running => running.workers.length).getD 0
  (List.range workers).findSome? fun index => queue.move index world

/-- Lets the workers take so many steps at most. -/
def settleWithin : Nat → Queue C → World Net → Queue C × World Net
  | 0, queue, world => (queue, world)
  | steps + 1, queue, world =>
    match queue.moveAny world with
    | none => (queue, world)
    | some (queue, world) => settleWithin steps queue world

omit [Connection C Net] in
/-- The most steps that a worker can take before it needs another command. -/
def Phase.steps : Phase → Nat
  | .collecting _ => 3
  | .ready .. => 2
  | .waiting => 1
  | .stopped | .crashed _ => 0

omit [Connection C Net] in
/-- The most steps that the workers can take with the commands that are there. -/
def Running.steps (running : Running C) : Nat :=
  4 * running.channel.length +
    running.workers.foldr (fun worker steps => worker.phase.steps + steps) 0

/-- Lets the workers go on until none of them can. -/
def settle (queue : Queue C) (world : World Net) : Queue C × World Net :=
  settleWithin ((queue.running.map Running.steps).getD 0) queue world

/-! ## Opening and closing -/

/-- Starts `count` workers, from a number on, each with a sibling of the seed. The workers that were
started are returned even if one cannot be. -/
def startWorkers (logger : Logger) (batchSize : Nat) (seed : C) :
    Nat → Nat → List (Worker C) → Array LogEntry → World Net →
      Option (Nat × Error) × List (Worker C) × Array LogEntry × World Net
  | _, 0, workers, workerLog, world => (none, workers, workerLog, world)
  | number, count + 1, workers, workerLog, world =>
    match Connection.sibling seed world with
    | (.error error, world) => (some (number, error), workers, workerLog, world)
    | (.ok connection, world) =>
      let (worker, workerLog, world) :=
        logged logger (Worker.start number batchSize connection) workerLog world
      startWorkers logger batchSize seed (number + 1) count (workers ++ [worker]) workerLog world

/-- The queue with its channel closed and its workers ended. -/
def windDown (queue : Queue C) (world : World Net) : Queue C × World Net :=
  settle { queue with running := queue.running.map fun running => { running with closing := true } }
    world

/-- Opens the queue with all its workers. If one cannot be started, those before it are ended, and
the queue stays closed. -/
def start (queue : Queue C) (world : World Net) : Except Failure Unit × Queue C × World Net :=
  if queue.isOpen then (.error (.reported .queueAlreadyOpen), queue, world)
  else
    match queue.logger, queue.seed with
    | none, _ => (.error (.reported .noLogger), queue, world)
    | some _, none => (.error (.reported .noConnection), queue, world)
    | some logger, some seed =>
      match queue.config.check with
      | .error error => (.error (.reported error), queue, world)
      | .ok () =>
        let { queueSize, workers := count, batchSize } := queue.config
        if maxRoom < queueSize then (.error (.crashed .capacityOverflow), queue, world)
        else
          let (failure, workers, workerLog, world) :=
            startWorkers logger batchSize seed 0 count [] queue.workerLog world
          let queue := { queue with running := some { workers, logger }, workerLog }
          match failure with
          | none => (.ok (), queue, world.report (.queueOpened queueSize count batchSize))
          | some (number, error) =>
            let (queue, world) := queue.windDown (world.report (.workerNotStarted number error))
            (.error (.reported error), { queue with running := none }, world)

omit [Connection C Net] in
/-- Reports the workers that crashed, and the end of them all. -/
def reportEnd (workers : List (Worker C)) (world : World Net) : World Net :=
  let crashed := workers.filter fun worker => worker.crash?.isSome
  (crashed.foldl (fun world _ => world.report .workerCrashed) world).report
    (.queueClosed workers.length)

/-- Closes the queue once the commands in it are sent and its workers have ended. -/
def stop (queue : Queue C) (world : World Net) : Queue C × World Net :=
  match queue.running with
  | none => (queue, world)
  | some _ =>
    let (queue, world) := queue.windDown world
    let workers := (queue.running.map Running.workers).getD []
    ({ queue with running := none }, reportEnd workers world)

/-! ## Submitting commands -/

/-- Lets workers go on until the channel has room, for so many steps at most. -/
def makeRoom : Nat → Queue C → World Net → Queue C × World Net
  | 0, queue, world => (queue, world)
  | steps + 1, queue, world =>
    if queue.length < queue.config.queueSize then (queue, world)
    else
      match queue.moveAny world with
      | none => (queue, world)
      | some (queue, world) => makeRoom steps queue world

omit [Connection C Net] in
/-- Puts a command into the channel, unless no worker is left to take it. -/
def send (command : Command) (queue : Queue C) : Except Error (Queue C) :=
  match queue.running with
  | none => .error .queueClosed
  | some running =>
    if running.workers.any Worker.isAlive then
      let running := { running with channel := running.channel ++ [command] }
      .ok { queue with running := some running }
    else .error .queueClosed

/-- Puts commands into the channel in order, and waits where there is no room. -/
def sendAll : List Command → Queue C → World Net → Except Error Unit × Queue C × World Net
  | [], queue, world => (.ok (), queue, world)
  | command :: rest, queue, world =>
    let (queue, world) := makeRoom ((queue.running.map Running.steps).getD 0) queue world
    match queue.send command with
    | .error error => (.error error, queue, world)
    | .ok queue => sendAll rest queue world

/-- Submits commands. If one of them has no name, none is taken. -/
def submit (commands : List Command) (queue : Queue C) (world : World Net) :
    Except Error Unit × Queue C × World Net :=
  if queue.isOpen then
    match commands.findIdx? Command.isEmpty with
    | some index => (.error (.emptyCommand index), queue, world)
    | none => sendAll commands queue world
  else (.error .queueClosed, queue, world)

end Queue

end RespClient
