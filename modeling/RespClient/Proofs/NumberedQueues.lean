import RespClient.Proofs.NumberedConnections
import RespClient.Proofs.QueueRun

/-!
# Queues of numbered connections

Numbers change nothing for a queue: what a queue does whose workers have numbered connections is,
without the numbers, what the queue does with the connections themselves. `start_numbered` and
`run_plain` say so of a whole session.
-/

namespace RespClient.Queue

variable {C Net : Type}

/-- The worker without the number of its connection. -/
def Worker.plain (worker : Worker (Numbered C)) : Worker C :=
  { worker with connection := worker.connection.connection }

/-- The workers and the channel without the numbers of connections. -/
def Running.plain (running : Running (Numbered C)) : Running C :=
  { running with workers := running.workers.map Worker.plain }

/-- The queue without the numbers of connections. -/
def plain (queue : Queue (Numbered C)) : Queue C where
  config := queue.config
  logger := queue.logger
  seed := queue.seed.map Numbered.connection
  running := queue.running.map Running.plain
  workerLog := queue.workerLog

/-! ## Workers -/

namespace Worker

variable [Connection C Net]

theorem perform_plain (worker : Worker (Numbered C)) (world : World (Register C Net)) :
    worker.plain.perform world.plain =
      ((worker.perform world).1.plain, (worker.perform world).2.plain) :=
  perform_view Numbered.view worker world

theorem observe_plain (finding : Finding) (worker : Worker (Numbered C))
    (world : World (Register C Net)) :
    worker.plain.observe finding world.plain =
      ((worker.observe finding world).1.plain, (worker.observe finding world).2.plain) :=
  observe_view Numbered.view finding worker world

end Worker

/-! ## Steps of workers -/

theorem Running.withWorkers_plain (running : Running (Numbered C))
    (workers : List (Worker (Numbered C))) :
    (running.withWorkers workers).plain =
      running.plain.withWorkers (workers.map Worker.plain) := by
  have sameLife : (workers.map Worker.plain).any Worker.isAlive = workers.any Worker.isAlive :=
    List.any_map
  simp only [withWorkers, plain, sameLife]

theorem Running.find?_plain (running : Running (Numbered C)) (phase : Phase) :
    running.plain.find? phase = running.find? phase := rfl

theorem workers_plain (queue : Queue (Numbered C)) :
    queue.plain.workers = queue.workers.map Worker.plain := by
  rcases queue with ⟨config, logger, seed, _ | running, workerLog⟩ <;> rfl

theorem takes_plain (index : Nat) (queue : Queue (Numbered C)) :
    queue.plain.takes index = queue.takes index := by
  rcases queue with ⟨config, logger, seed, _ | running, workerLog⟩
  · rfl
  · simp only [takes, plain, Option.map_some, Running.plain, List.getElem?_map]
    rcases running.workers[index]? with _ | worker <;> rfl

theorem sends_plain (index : Nat) (queue : Queue (Numbered C)) :
    queue.plain.sends index = queue.sends index := by
  simp only [sends, workers_plain, List.getElem?_map]
  rcases queue.workers[index]? with _ | worker <;> rfl

theorem send_plain (command : Command) (queue : Queue (Numbered C)) :
    queue.plain.send command = (queue.send command).map plain := by
  rcases queue with ⟨config, logger, seed, _ | running, workerLog⟩
  · rfl
  · have sameLife : (running.workers.map Worker.plain).any Worker.isAlive =
      running.workers.any Worker.isAlive := List.any_map
    simp only [send, plain, Option.map_some, Running.plain, sameLife]
    split <;> rfl

theorem act_plain {action : World (Register C Net) → Worker (Numbered C) × World (Register C Net)}
    {action' : World Net → Worker C × World Net}
    (same : ∀ world, action' world.plain = ((action world).1.plain, (action world).2.plain))
    (index : Nat) (running : Running (Numbered C)) (queue : Queue (Numbered C))
    (world : World (Register C Net)) :
    queue.plain.act index running.plain action' world.plain =
      ((queue.act index running action world).1.plain,
        (queue.act index running action world).2.plain) := by
  have acts : action' { world.plain with log := queue.plain.workerLog } = _ :=
    same { world with log := queue.workerLog }
  have sameWorkers (after : Worker (Numbered C)) :
      running.plain.withWorkers (running.plain.workers.set index after.plain) =
        (running.withWorkers (running.workers.set index after)).plain := by
    rw [Running.withWorkers_plain, List.map_set]
    rfl
  simp only [act, logged, acts, sameWorkers]
  rfl

variable [Connection C Net]

/-- A worker takes the same step with a numbered connection. -/
theorem move_plain (index : Nat) (queue : Queue (Numbered C)) (world : World (Register C Net)) :
    queue.plain.move index world.plain =
      (queue.move index world).map fun next => (next.1.plain, next.2.plain) := by
  rcases running? : queue.running with _ | running
  · have none : queue.plain.running = none := by rw [plain, running?, Option.map_none]
    simp only [move, running?, none]
    rfl
  · have here : queue.plain.running = some running.plain := by rw [plain, running?, Option.map_some]
    have sameWorker : running.plain.workers[index]? =
      running.workers[index]?.map Worker.plain := List.getElem?_map
    simp only [move, running?, here, sameWorker, Option.bind_eq_bind, Option.bind_some]
    rcases running.workers[index]? with _ | worker
    · rfl
    · have performs := act_plain (Worker.perform_plain worker) index running queue world
      have observes (finding : Finding) (channel : List Command) :=
        act_plain (Worker.observe_plain finding worker) index { running with channel } queue world
      have samePhase : worker.plain.phase = worker.phase := rfl
      simp only [Option.map_some, Option.bind_some, samePhase]
      split
      · exact congrArg some performs
      · rw [Running.find?_plain]
        rcases running.find? worker.phase with _ | ⟨finding, channel⟩
        · rfl
        · exact congrArg some (observes finding channel)

/-! ## Starting -/

theorem startWorkers_plain (logger : Logger) (batchSize : Nat) (seed : Numbered C) (count : Nat) :
    ∀ (number : Nat) (workers : List (Worker (Numbered C))) (workerLog : Array LogEntry)
      (world : World (Register C Net)),
      startWorkers logger batchSize seed.connection number count (workers.map Worker.plain)
        workerLog world.plain =
      let (failure, workers, workerLog, world) :=
        startWorkers logger batchSize seed number count workers workerLog world
      (failure, workers.map Worker.plain, workerLog, world.plain) := by
  induction count with
  | zero => exact fun _ _ _ _ => rfl
  | succ count others =>
    intro number workers workerLog world
    rcases copies : Connection.sibling seed.connection world.plain with ⟨error | fresh, world'⟩
    · simp only [startWorkers, copies, Numbered.sibling_of_error copies]
      rfl
    · let entered := Numbered.enter fresh world.net.states world'
      let started := logged logger (Worker.start number batchSize entered.1) workerLog entered.2
      have same := others (number + 1) (workers ++ [started.1]) started.2.1 started.2.2
      rw [List.map_append] at same
      simp only [startWorkers, copies, Numbered.sibling_of_ok copies]
      exact same

/-- The closed queue with its seed as the connection that has the first number. -/
def numbered (queue : Queue C) : Queue (Numbered C) where
  config := queue.config
  logger := queue.logger
  seed := queue.seed.map (⟨0, ·⟩)
  workerLog := queue.workerLog

/-- A queue that can be started can be started with numbered connections. -/
theorem start_numbered {queue opened : Queue C} {world world' : World Net}
    (starts : queue.start world = (.ok (), opened, world')) :
    ∃ numbered register,
      queue.numbered.start (world.registering queue.seed.toList) = (.ok (), numbered, register) ∧
      numbered.plain = opened ∧ register.plain = world' := by
  obtain ⟨closed, valid, room, logger, seed, workers, workerLog, world'', logger?, seed?, all, rfl,
    rfl⟩ := start_ok_iff.1 starts
  have same := startWorkers_plain logger queue.config.batchSize ⟨0, seed⟩ queue.config.workers 0 []
    queue.workerLog (world.registering queue.seed.toList)
  rcases all' : startWorkers logger queue.config.batchSize (⟨0, seed⟩ : Numbered C) 0
    queue.config.workers [] queue.workerLog (world.registering queue.seed.toList) with
    ⟨failure, workers', workerLog', register⟩
  rw [all'] at same
  cases same.symm.trans all
  have starts' : queue.numbered.start (world.registering queue.seed.toList) = _ :=
    start_ok_iff.2 ⟨rfl, valid, room, logger, ⟨0, seed⟩, workers', workerLog, register, logger?,
      congrArg (Option.map _) seed?, all', rfl, rfl⟩
  refine ⟨_, _, starts', ?_, rfl⟩
  simp only [plain, numbered, seed?, Option.map_some, Running.plain]

/-! ## Sessions -/

/-- An event among numbered connections: what happens elsewhere leaves the numbers as they are. -/
def Event.numbered : Event Net → Event (Register C Net)
  | .submit commands => .submit commands
  | .proceed call => .proceed call
  | .close => .close
  | .release => .release
  | .work index => .work index
  | .elsewhere change =>
    .elsewhere fun world => (change world.plain).registering world.net.states

namespace History

/-- The session without the numbers of connections. -/
def plain (history : History (Numbered C) (Register C Net)) : History C Net where
  queue := history.queue.plain
  world := history.world.plain
  gate := history.gate
  submissions := history.submissions
  accepted := history.accepted
  taken := history.taken
  batches := history.batches

omit [Connection C Net] in
theorem sync_plain (history : History (Numbered C) (Register C Net)) :
    history.sync.plain = history.plain.sync := by
  rcases history with ⟨⟨config, logger, seed, _ | running, workerLog⟩, world⟩ <;> rfl

omit [Connection C Net] in
theorem length_plain (queue : Queue (Numbered C)) : queue.plain.length = queue.length := by
  rcases queue with ⟨config, logger, seed, _ | running, workerLog⟩ <;> rfl

theorem step_plain (history : History (Numbered C) (Register C Net)) (event : Event Net) :
    (history.step event.numbered).plain = history.plain.step event := by
  cases event with
  | submit commands => rfl
  | proceed call =>
    have sameSubmissions : history.plain.submissions = history.submissions := rfl
    simp only [Event.numbered, step, sameSubmissions]
    rcases history.submissions[call]? with _ | ⟨commands, _ | ⟨_ | ⟨command, rest⟩⟩ | result⟩
    · rfl
    · dsimp only
      split <;> exact sync_plain _
    · exact sync_plain _
    · have sends : history.plain.queue.send command = _ := send_plain command history.queue
      have sameLength : history.plain.queue.length = history.queue.length :=
        length_plain history.queue
      have sameConfig : history.plain.queue.config = history.queue.config := rfl
      rcases sent : history.queue.send command with error | queue
      · rw [sent] at sends
        simp only [sent, sends, Except.map]
        exact sync_plain _
      · rw [sent] at sends
        simp only [sent, sends, Except.map, sameLength, sameConfig]
        split
        · exact sync_plain _
        · rfl
    · rfl
  | close =>
    rcases history with ⟨queue, world, _ | _ | _, submissions⟩ <;> rfl
  | release =>
    rcases history with ⟨queue, world, _ | _ | _, submissions⟩
    · rfl
    · exact sync_plain _
    · rfl
  | work index =>
    have moves : history.plain.queue.move index history.plain.world = _ :=
      move_plain index history.queue history.world
    rcases moved : history.queue.move index history.world with _ | ⟨queue, world⟩
    · rw [moved] at moves
      simp only [Event.numbered, step, moved, moves, Option.map_none]
    · rw [moved] at moves
      have sameTakes : history.plain.queue.takes index = history.queue.takes index :=
        takes_plain index history.queue
      have sameSends : history.plain.queue.sends index = history.queue.sends index :=
        sends_plain index history.queue
      simp only [Event.numbered, step, moved, moves, Option.map_some, sameTakes, sameSends]
      rfl
  | elsewhere change => rfl

/-- A session with numbered connections is the session itself but for the numbers. -/
theorem run_plain (history : History (Numbered C) (Register C Net)) (events : List (Event Net)) :
    (history.run (events.map Event.numbered)).plain = history.plain.run events := by
  induction events generalizing history with
  | nil => rfl
  | cons event later same =>
    refine (same (history.step event.numbered)).trans ?_
    rw [step_plain]
    rfl

end History

end RespClient.Queue
