import RespClient.Queue.Worker

/-!
# Runs of a worker

A worker goes from batch to batch. `Service` lists what a worker without a crash does with what it
finds: it takes commands until a batch is complete, sends the batch, and ends once it has found the
queue closed. `run_service` says that its runs are such services, with the batches that `dispatches`
lists. What holds of every run is proved by induction on the service.
-/

namespace RespClient.Queue

variable {C Net : Type}

/-- The commands that a worker takes with what it finds, one at most. -/
def Finding.commands : Finding → List Command
  | .command found => [found]
  | .nothing | .closed => []

/-- The commands that are there to be found before the queue is found closed. -/
def received : List Finding → List Command
  | [] | .closed :: _ => []
  | .command found :: later => found :: received later
  | .nothing :: later => received later

theorem received_cons {finding : Finding} (goesOn : finding ≠ .closed) (later : List Finding) :
    received (finding :: later) = finding.commands ++ received later := by
  cases finding with
  | command | nothing => rfl
  | closed => exact absurd rfl goesOn

namespace Worker

/-! ## Batches -/

/-- The reports on the commands of a batch, and on the batch if it ended early. -/
def reports (number : Nat) (commands : List Command) (error? : Option Error) : List LogEntry :=
  commands.map (outcome number) ++
    (error?.map fun error => .batchAborted number commands.length error).toList

/-- The report on a batch adds to the log, and nothing else changes. -/
theorem reportBatch_log (number : Nat) (commands : List Command) (error? : Option Error)
    (world : World Net) :
    reportBatch number commands error? world =
      { world with log := world.log ++ reports number commands error? } := by
  have outcomes (commands : List Command) (world : World Net) :
      commands.foldl (fun world command => world.report (outcome number command)) world =
        { world with log := world.log ++ commands.map (outcome number) } := by
    induction commands generalizing world with
    | nil =>
      rw [List.map_nil, Array.appendList_nil]
      rfl
    | cons command rest others =>
      rw [List.map_cons, Array.appendList_cons]
      exact others (world.report (outcome number command))
  unfold reportBatch reports
  rw [outcomes]
  cases error? with
  | none =>
    rw [Option.map_none, Option.toList_none, List.append_nil]
  | some error =>
    have last (log : Array LogEntry) (first : List LogEntry) (entry : LogEntry) :
        (log ++ first).push entry = log ++ (first ++ [entry]) := Array.ext' (by simp)
    exact congrArg (World.mk world.net) (last world.log _ _)

variable [Connection C Net]

/-- A connection that is not closed stays, and a closed one is replaced unless that is refused. -/
theorem reconnect_cases (worker : Worker C) (world : World Net) :
    (Connection.isClosed worker.connection = false ∧
      worker.reconnect world = (worker, world)) ∨
    (Connection.isClosed worker.connection = true ∧ ∃ connection world',
      Connection.sibling worker.connection world = (.ok connection, world') ∧
      worker.reconnect world =
        ({ worker with connection }, world'.report (.reconnected worker.number))) ∨
    (Connection.isClosed worker.connection = true ∧ ∃ error world',
      Connection.sibling worker.connection world = (.error error, world') ∧
      worker.reconnect world =
        (worker, world'.report (.reconnectFailed worker.number error))) := by
  unfold reconnect
  cases closed : Connection.isClosed worker.connection with
  | false => exact Or.inl ⟨rfl, if_neg Bool.false_ne_true⟩
  | true =>
    rw [if_pos rfl]
    rcases Connection.sibling worker.connection world with ⟨error | connection, world'⟩
    · exact Or.inr (Or.inr ⟨rfl, error, world', rfl, rfl⟩)
    · exact Or.inr (Or.inl ⟨rfl, connection, world', rfl, rfl⟩)

/-- A worker with another connection is as it was otherwise. -/
theorem reconnect_worker (worker : Worker C) (world : World Net) :
    (worker.reconnect world).1 =
      { worker with connection := (worker.reconnect world).1.connection } := by
  rcases reconnect_cases worker world with
    ⟨-, out⟩ | ⟨-, connection, world', -, out⟩ | ⟨-, error, world', -, out⟩
  all_goals rw [out]

omit [Connection C Net] in
/-- The result of an exchange that does not crash. -/
def resultOf : Option Error → Except Failure Unit
  | none => .ok ()
  | some error => .error (.reported error)

omit [Connection C Net] in
theorem resultOf_eq_ok (error? : Option Error) : resultOf error? = .ok () ↔ error? = none := by
  cases error? with
  | none => exact ⟨fun _ => rfl, fun _ => rfl⟩
  | some error => exact ⟨nofun, nofun⟩

omit [Connection C Net] in
theorem resultOf_ne_crashed (error? : Option Error) (crash : Crash) :
    resultOf error? ≠ .error (.crashed crash) := by
  cases error? <;> exact nofun

/-- A worker reports on the batch that it has exchanged, or crashes with the exchange. -/
theorem sendBatch_cases (batch : List Command) (worker : Worker C) (world : World Net) :
    ∃ result commands connection world',
      exchange batch (worker.reconnect world).1.connection (worker.reconnect world).2 =
        (result, commands, connection, world') ∧
      ((∃ cause, result = .error (.crashed cause) ∧
        worker.sendBatch batch world = crash cause { worker with connection } world') ∨
      ∃ error?, result = resultOf error? ∧ worker.sendBatch batch world =
        ({ worker with connection, phase := .waiting, batches := worker.batches + 1 },
          reportBatch worker.number commands error? world')) := by
  have sameWorker := reconnect_worker worker world
  rcases reconnects : worker.reconnect world with ⟨ready, world'⟩
  rw [reconnects] at sameWorker
  dsimp only at sameWorker
  rcases exchanges : exchange batch ready.connection world' with
    ⟨result, commands, connection, world''⟩
  refine ⟨result, commands, connection, world'', rfl, ?_⟩
  unfold sendBatch
  rw [reconnects]
  dsimp only
  rw [exchanges]
  rcases result with (error | cause) | ⟨⟩
  · exact Or.inr ⟨some error, rfl, by rw [sameWorker]⟩
  · exact Or.inl ⟨cause, rfl, by rw [sameWorker]⟩
  · exact Or.inr ⟨none, rfl, by rw [sameWorker]⟩

/-- A worker that has sent a batch waits for the next one, or has crashed. -/
theorem sendBatch_phase (batch : List Command) (worker : Worker C) (world : World Net) :
    (worker.sendBatch batch world).1.batchSize = worker.batchSize ∧
      ((worker.sendBatch batch world).1.phase = .waiting ∨
        ∃ cause, (worker.sendBatch batch world).1.phase = .crashed cause) := by
  obtain ⟨result, commands, connection, world', -, ⟨cause, -, sends⟩ | ⟨error?, -, sends⟩⟩ :=
    sendBatch_cases batch worker world
  · rw [sends]
    exact ⟨rfl, Or.inr ⟨cause, rfl⟩⟩
  · rw [sends]
    exact ⟨rfl, Or.inl rfl⟩

/-- A worker that goes on has exchanged its batch, and reported on it. -/
theorem sendBatch_of_waits {batch : List Command} {worker next : Worker C}
    {world world' : World Net} (sent : worker.sendBatch batch world = (next, world'))
    (waits : next.phase = .waiting) :
    ∃ error? commands connection before,
      exchange batch (worker.reconnect world).1.connection (worker.reconnect world).2 =
        (resultOf error?, commands, connection, before) ∧
      next =
        { worker with connection, phase := .waiting, batches := worker.batches + 1 } ∧
      world' = reportBatch worker.number commands error? before := by
  obtain ⟨result, commands, connection, before, exchanges, ⟨cause, -, sends⟩ |
    ⟨error?, rfl, sends⟩⟩ := sendBatch_cases batch worker world
  · rw [sends] at sent
    cases sent
    cases waits
  · rw [sends] at sent
    cases sent
    exact ⟨error?, commands, connection, before, exchanges, rfl, rfl⟩

theorem perform_of_ready {worker : Worker C} {batch : List Command} {last : Bool}
    (ready : worker.phase = .ready batch last) (world : World Net) :
    worker.perform world =
      if last && (worker.sendBatch batch world).1.isAlive then
        (worker.sendBatch batch world).1.finish (worker.sendBatch batch world).2
      else worker.sendBatch batch world := by
  simp only [perform, ready]

/-- A worker that sends its batch waits for the next one, ends if it was the last one, or crashes. -/
theorem perform_cases {worker : Worker C} {batch : List Command} {last : Bool}
    (ready : worker.phase = .ready batch last) (world : World Net) :
    ∃ next world', worker.sendBatch batch world = (next, world') ∧
      ((next.phase = .waiting ∧ last = false ∧ worker.perform world = (next, world')) ∨
        (next.phase = .waiting ∧ last = true ∧ worker.perform world = next.finish world') ∨
        ∃ cause, next.phase = .crashed cause ∧ worker.perform world = (next, world')) := by
  have phase := (sendBatch_phase batch worker world).2
  have performs := perform_of_ready ready world
  rcases sent : worker.sendBatch batch world with ⟨next, world'⟩
  rw [sent] at phase performs
  refine ⟨next, world', rfl, ?_⟩
  rcases phase with waits | ⟨cause, crashed⟩
  · have alive : next.isAlive = true := by rw [isAlive, waits]
    rw [alive, Bool.and_true] at performs
    cases last with
    | false => exact Or.inl ⟨waits, rfl, performs⟩
    | true => exact Or.inr (Or.inl ⟨waits, rfl, performs⟩)
  · have dead : next.isAlive = false := by rw [isAlive, crashed]
    rw [dead, Bool.and_false] at performs
    exact Or.inr (Or.inr ⟨cause, crashed, performs⟩)

/-- A worker that has sent its batch waits, has ended if it was the last one, or has crashed. -/
theorem perform_phase {worker : Worker C} {batch : List Command} {last : Bool}
    (ready : worker.phase = .ready batch last) (world : World Net) :
    (worker.perform world).1.batchSize = worker.batchSize ∧
      ((last = false ∧ (worker.perform world).1.phase = .waiting) ∨
        (last = true ∧ (worker.perform world).1.phase = .stopped) ∨
        ∃ cause, (worker.perform world).1.phase = .crashed cause) := by
  have sameSize := (sendBatch_phase batch worker world).1
  obtain ⟨next, world', sent, ⟨waits, more, performs⟩ | ⟨waits, isLast, performs⟩ |
    ⟨cause, crashed, performs⟩⟩ := perform_cases ready world
  all_goals
    rw [sent] at sameSize
    rw [performs]
  · exact ⟨sameSize, Or.inl ⟨more, waits⟩⟩
  · exact ⟨sameSize, Or.inr (Or.inl ⟨isLast, rfl⟩)⟩
  · exact ⟨sameSize, Or.inr (Or.inr ⟨cause, crashed⟩)⟩

/-- A worker that is about to send a batch. -/
structure Dispatch (C Net : Type) where
  worker : Worker C
  batch : List Command
  world : World Net

/-- The worker that sends the batch, with its connection replaced if it had to be. -/
def Dispatch.ready (dispatch : Dispatch C Net) : Worker C × World Net :=
  dispatch.worker.reconnect dispatch.world

/-- The batches that a worker sends in a run. -/
def dispatches : List Finding → Worker C → World Net → List (Dispatch C Net)
  | [], _, _ => []
  | finding :: later, worker, world =>
    let (worker, world) := worker.observe finding world
    let others := dispatches later (worker.perform world).1 (worker.perform world).2
    match worker.phase with
    | .ready batch _ => ⟨worker, batch, world⟩ :: others
    | .waiting | .collecting _ | .stopped | .crashed _ => others

/-! ## What a worker does -/

omit [Connection C Net] in
/-- The worker is between two looks at the queue. -/
def Collects (worker : Worker C) : Prop :=
  worker.phase = .waiting ∨ ∃ batch, batch ≠ [] ∧ worker.phase = .collecting batch

/-- What a worker does with findings, if it does not crash: the batches that it sends on the way, and
the worker and the world in the end. -/
inductive Service : List Finding → Worker C → World Net → List (Dispatch C Net) →
    Worker C → World Net → Prop where
  | pauses {worker : Worker C} {world : World Net} (collects : worker.Collects) :
    Service [] worker world [] worker world
  /-- It takes what it finds, and its batch is not complete. -/
  | takes {finding : Finding} {later : List Finding} {worker after : Worker C} {phase : Phase}
      {world world' : World Net} {others : List (Dispatch C Net)} (goesOn : finding ≠ .closed)
      (taken : holding { worker with phase } = worker.holding ++ finding.commands)
      (more : Service later { worker with phase } world others after world') :
    Service (finding :: later) worker world others after world'
  /-- Its batch is complete, and it sends it. -/
  | sends {finding : Finding} {later : List Finding} {worker ready next after : Worker C}
      {batch : List Command} {world world₁ world' : World Net} {others : List (Dispatch C Net)}
      (goesOn : finding ≠ .closed) (nonempty : batch ≠ [])
      (batch_eq : batch = worker.holding ++ finding.commands)
      (ready_eq : ready = { worker with phase := .ready batch false })
      (sent : ready.sendBatch batch world = (next, world₁)) (waits : next.phase = .waiting)
      (more : Service later next world₁ others after world') :
    Service (finding :: later) worker world (⟨ready, batch, world⟩ :: others) after world'
  /-- It finds the queue closed, sends the batch that it has, and ends. -/
  | sendsLast {later : List Finding} {worker ready next : Worker C} {batch : List Command}
      {world world₁ : World Net} (nonempty : batch ≠ []) (batch_eq : batch = worker.holding)
      (ready_eq : ready = { worker with phase := .ready batch true })
      (sent : ready.sendBatch batch world = (next, world₁)) (waits : next.phase = .waiting) :
    Service (.closed :: later) worker world [⟨ready, batch, world⟩]
      (next.finish world₁).1 (next.finish world₁).2
  /-- It finds the queue closed while it has no batch, and ends. -/
  | ends {later : List Finding} {worker : Worker C} {world : World Net}
      (waits : worker.phase = .waiting) :
    Service (.closed :: later) worker world [] (worker.finish world).1 (worker.finish world).2

/-- A worker that has ended, or crashed, does nothing any more. -/
theorem run_of_not_alive {worker : Worker C} (dead : worker.isAlive = false)
    (findings : List Finding) (world : World Net) :
    run findings worker world = (worker, world) ∧ dispatches findings worker world = [] := by
  induction findings with
  | nil => exact ⟨rfl, rfl⟩
  | cons finding later more =>
    rcases worker with ⟨number, batchSize, connection, phase, batches⟩
    cases phase with
    | waiting | collecting | ready => cases dead
    | stopped | crashed => exact more

omit [Connection C Net] in
/-- A batch with one more command may have room for more, or is complete. -/
theorem gather_cases (batchSize : Nat) (batch : List Command) :
    gather batchSize batch = .collecting batch ∨ gather batchSize batch = .ready batch false := by
  unfold gather
  split
  · exact Or.inl rfl
  · exact Or.inr rfl

/-- A worker that looks at the queue goes on collecting, or has a batch that is complete, or ends, or
crashes for want of room. -/
theorem observe_cases (finding : Finding) {worker : Worker C} (collects : worker.Collects)
    (world : World Net) :
    (∃ phase, finding ≠ .closed ∧ Collects { worker with phase } ∧
      holding { worker with phase } = worker.holding ++ finding.commands ∧
      worker.observe finding world = ({ worker with phase }, world)) ∨
    (∃ batch last, (if last then finding = .closed else finding ≠ .closed) ∧ batch ≠ [] ∧
      batch = worker.holding ++ finding.commands ∧
      worker.observe finding world = ({ worker with phase := .ready batch last }, world)) ∨
    (finding = .closed ∧ worker.phase = .waiting ∧
      worker.observe finding world = worker.finish world) ∨
    ∃ cause, (worker.observe finding world).1.phase = .crashed cause := by
  rcases worker with ⟨number, batchSize, connection, phase, batches⟩
  rcases collects with waits | ⟨batch, nonempty, collects⟩
  · cases waits
    cases finding with
    | command found =>
      by_cases large : maxRoom < batchSize
      · refine Or.inr (Or.inr (Or.inr ⟨.capacityOverflow, ?_⟩))
        simp only [observe, large, if_true, crash]
      · rcases gather_cases batchSize [found] with gathers | gathers
        · refine Or.inl ⟨.collecting [found], nofun, Or.inr ⟨[found], nofun, rfl⟩, rfl, ?_⟩
          simp only [observe, large, if_false, gathers]
        · refine Or.inr (Or.inl ⟨[found], false, nofun, nofun, rfl, ?_⟩)
          simp only [observe, large, if_false, gathers]
    | nothing => exact Or.inl ⟨.waiting, nofun, Or.inl rfl, rfl, rfl⟩
    | closed => exact Or.inr (Or.inr (Or.inl ⟨rfl, rfl, rfl⟩))
  · cases collects
    cases finding with
    | command found =>
      have more : batch ++ [found] ≠ [] := List.concat_ne_nil found batch
      rcases gather_cases batchSize (batch ++ [found]) with gathers | gathers
      · refine Or.inl ⟨.collecting (batch ++ [found]), nofun, Or.inr ⟨_, more, rfl⟩, rfl, ?_⟩
        simp only [observe, gathers]
      · refine Or.inr (Or.inl ⟨batch ++ [found], false, nofun, more, rfl, ?_⟩)
        simp only [observe, gathers]
    | nothing =>
      exact Or.inr (Or.inl ⟨batch, false, nofun, nonempty, (List.append_nil batch).symm, rfl⟩)
    | closed =>
      exact Or.inr (Or.inl ⟨batch, true, rfl, nonempty, (List.append_nil batch).symm, rfl⟩)

/-- A worker whose batch is complete sends it before it looks at the queue again. -/
theorem run_of_ready {finding : Finding} {worker ready : Worker C} {batch : List Command}
    {last : Bool} {world : World Net} (observes : worker.observe finding world = (ready, world))
    (phase : ready.phase = .ready batch last) (later : List Finding) :
    run (finding :: later) worker world =
        run later (ready.perform world).1 (ready.perform world).2 ∧
      dispatches (finding :: later) worker world =
        ⟨ready, batch, world⟩ ::
          dispatches later (ready.perform world).1 (ready.perform world).2 := by
  constructor
  · simp only [run, observes]
  · simp only [dispatches, observes, phase]

/-- A worker whose batch is not complete looks at the queue again. -/
theorem run_of_collects {finding : Finding} {worker next : Worker C} {world : World Net}
    (observes : worker.observe finding world = (next, world)) (collects : next.Collects)
    (later : List Finding) :
    run (finding :: later) worker world = run later next world ∧
      dispatches (finding :: later) worker world = dispatches later next world := by
  have performs : next.perform world = (next, world) := by
    rcases collects with waits | ⟨batch, -, collects⟩
    · simp only [perform, waits]
    · simp only [perform, collects]
  constructor
  · simp only [run, observes, performs]
  · rcases collects with waits | ⟨batch, -, collects⟩
    · simp only [dispatches, observes, performs, waits]
    · simp only [dispatches, observes, performs, collects]

/-- A worker that ends, or crashes, when it looks at the queue has had its run. -/
theorem run_of_dies {finding : Finding} {worker : Worker C} {world : World Net}
    (dead : (worker.observe finding world).1.isAlive = false) (later : List Finding) :
    run (finding :: later) worker world = worker.observe finding world ∧
      dispatches (finding :: later) worker world = [] := by
  rcases observes : worker.observe finding world with ⟨⟨number, batchSize, connection, phase, batches⟩,
    world'⟩
  rw [observes] at dead
  have stays := run_of_not_alive dead later world'
  cases phase with
  | waiting | collecting | ready => cases dead
  | stopped | crashed =>
    simp only [run, dispatches, observes, perform]
    exact stays

/-- A worker that has not crashed by the end of a run has done a service. -/
theorem run_service {worker : Worker C} (collects : worker.Collects) (findings : List Finding)
    (world : World Net) (calm : (run findings worker world).1.crash? = none) :
    Service findings worker world (dispatches findings worker world)
      (run findings worker world).1 (run findings worker world).2 := by
  induction findings generalizing worker world with
  | nil => exact .pauses collects
  | cons finding later more =>
    rcases observe_cases finding collects world with
      ⟨phase, goesOn, collects', taken, observes⟩ | ⟨batch, last, found, nonempty, batch_eq, observes⟩ |
        ⟨rfl, waits, observes⟩ | ⟨cause, crashes⟩
    · obtain ⟨runs, sends⟩ := run_of_collects observes collects' later
      rw [runs] at calm ⊢
      rw [sends]
      exact .takes goesOn taken (more collects' world calm)
    · obtain ⟨runs, sends⟩ := run_of_ready observes rfl later
      rw [runs] at calm ⊢
      rw [sends]
      generalize ready_eq : { worker with phase := .ready batch last } = ready at *
      have ready? : ready.phase = .ready batch last := by rw [← ready_eq]
      obtain ⟨next, world₁, sent, ⟨waits, rfl, performs⟩ | ⟨waits, rfl, performs⟩ |
        ⟨cause, crashed, performs⟩⟩ := perform_cases ready? world
      · rw [performs] at calm ⊢
        exact .sends found nonempty batch_eq ready_eq.symm sent waits
          (more (Or.inl waits) world₁ calm)
      · have dead : (next.finish world₁).1.isAlive = false := rfl
        obtain ⟨stays, none⟩ := run_of_not_alive dead later (next.finish world₁).2
        cases found
        rw [performs, stays, none]
        exact .sendsLast nonempty (batch_eq.trans (List.append_nil _)) ready_eq.symm sent waits
      · have dead : next.isAlive = false := by rw [isAlive, crashed]
        obtain ⟨stays, -⟩ := run_of_not_alive dead later world₁
        rw [performs, stays, crash?, crashed] at calm
        cases calm
    · have dead : (worker.observe .closed world).1.isAlive = false := by
        rw [observes]
        rfl
      obtain ⟨runs, sends⟩ := run_of_dies dead later
      rw [runs, sends, observes]
      exact .ends waits
    · have dead : (worker.observe finding world).1.isAlive = false := by rw [isAlive, crashes]
      obtain ⟨runs, -⟩ := run_of_dies dead later
      rw [runs, crash?, crashes] at calm
      cases calm

/-- A worker that finds the queue closed ends. -/
theorem Service.stopped {findings : List Finding} {worker after : Worker C}
    {world world' : World Net} {dispatches : List (Dispatch C Net)}
    (service : Service findings worker world dispatches after world')
    (closed : .closed ∈ findings) : after.phase = .stopped := by
  induction service with
  | pauses => cases closed
  | takes goesOn _ _ others => exact others (List.mem_of_ne_of_mem goesOn.symm closed)
  | sends goesOn _ _ _ _ _ _ others => exact others (List.mem_of_ne_of_mem goesOn.symm closed)
  | sendsLast => rfl
  | ends => rfl

end Worker

end RespClient.Queue
