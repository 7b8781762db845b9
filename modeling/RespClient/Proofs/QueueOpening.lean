import Mathlib.Control.Monad.Basic
import RespClient.Proofs.ConnectionLaws
import RespClient.Proofs.QueueSchedules

/-!
# Opening a queue

A queue that opens gives each of its workers a copy of its seed. `refusal?` is what keeps it from doing so
before anything has happened, and `Copies` are the copies that are made one after the other.

If a copy is refused then workers have been started before. They see their channel closed, close their connections
and end, in any order; `Withdrawn` is what holds meanwhile, in the session that nobody can submit to. The start
comes back when they have ended.

`Opened` lists how a start can end. `opens_or_leaves_no_trace` is the main statement.
-/

namespace RespClient.Queue

variable {C Net : Type}

/-! ## Refusals -/

/-- What is looked at before a queue opens, in this order, each with the error if it is found. -/
def refusals (queue : Queue C) : List (Bool × Error) :=
  let { queueSize, workers, batchSize } := queue.config
  [(queue.isOpen, .queueAlreadyOpen), (queue.logger.isNone, .noLogger),
    (queue.seed.isNone, .noConnection), (queueSize = 0, .zeroQueueSize), (workers = 0, .zeroWorkers),
    (batchSize = 0, .zeroBatchSize), (queueSize < workers, .queueTooSmall queueSize workers)]

/-- The first of these errors that there is. -/
def refusal? (queue : Queue C) : Option Error := (queue.refusals.find? Prod.fst).map Prod.snd

/-- The sizing is what is looked at last. -/
theorem refusal?_of_ready {queue : Queue C} (closed : queue.isOpen = false)
    (logger : queue.logger.isNone = false) (seed : queue.seed.isNone = false) :
    queue.config.check = (queue.refusal?.map Except.error).getD (.ok ()) := by
  rcases queue with ⟨⟨queueSize, workers, batchSize⟩, _, _, _, _⟩
  simp only [refusal?, refusals, closed, logger, seed, List.find?_cons, List.find?_nil, Config.check]
  by_cases noSize : queueSize = 0
  · simp [noSize]
  by_cases noWorkers : workers = 0
  · simp [noSize, noWorkers]
  by_cases noBatch : batchSize = 0
  · simp [noSize, noWorkers, noBatch]
  by_cases small : queueSize < workers <;> simp [noSize, noWorkers, noBatch, small]

/-- Without a refusal a queue is closed, and has what it needs. -/
theorem ready_of_refusal? {queue : Queue C} (ready : queue.refusal? = none) :
    queue.isOpen = false ∧ (∃ logger, queue.logger = some logger) ∧ (∃ seed, queue.seed = some seed) ∧
      queue.config.check = .ok () := by
  have none := ready
  simp only [refusal?, Option.map_eq_none_iff, List.find?_eq_none, refusals, List.forall_mem_cons] at none
  obtain ⟨closed, logger, seed, -⟩ := none
  have closed : queue.isOpen = false := eq_false_of_ne_true closed
  have logger : queue.logger.isNone = false := eq_false_of_ne_true logger
  have seed : queue.seed.isNone = false := eq_false_of_ne_true seed
  have valid := refusal?_of_ready closed logger seed
  rw [ready] at valid
  exact ⟨closed, Option.isSome_iff_exists.1 (Option.isNone_eq_false_iff.1 logger),
    Option.isSome_iff_exists.1 (Option.isNone_eq_false_iff.1 seed), valid⟩

variable [Connection C Net]

/-- A queue is refused with the first of the errors, and nothing has happened. -/
theorem start_of_refusal? {queue : Queue C} {error : Error} (first : queue.refusal? = some error)
    (world : World Net) : queue.start world = (.error (.reported error), queue, world) := by
  cases opened : queue.isOpen with
  | true =>
    simp only [refusal?, refusals, opened, List.find?_cons, Option.map_some, Option.some.injEq] at first
    simp only [start, opened, if_true, first]
  | false =>
    rcases logger? : queue.logger with _ | logger
    · simp only [refusal?, refusals, opened, logger?, List.find?_cons, Option.isNone_none,
        Option.map_some, Option.some.injEq] at first
      simp only [start, opened, logger?, Bool.false_eq_true, if_false, first]
    rcases seed? : queue.seed with _ | seed
    · simp only [refusal?, refusals, opened, logger?, seed?, List.find?_cons, Option.isNone_none,
        Option.isNone_some, Option.map_some, Option.some.injEq] at first
      simp only [start, opened, logger?, seed?, Bool.false_eq_true, if_false, first]
    have faulty := refusal?_of_ready opened (by rw [logger?]; rfl) (by rw [seed?]; rfl)
    rw [first, Option.map_some, Option.getD_some] at faulty
    simp only [start, opened, logger?, seed?, faulty, Bool.false_eq_true, if_false]

/-! ## Copies of the seed -/

/-- Copies of a connection that are made one after the other. -/
inductive Copies (seed : C) : World Net → List C → World Net → Prop where
  | none {world : World Net} : Copies seed world [] world
  | copies {fresh : C} {rest : List C} {world world₁ world' : World Net}
    (copied : Connection.sibling seed world = (.ok fresh, world₁))
    (more : Copies seed world₁ rest world') : Copies seed world (fresh :: rest) world'

omit [Connection C Net] in
/-- Workers that have just been started, from a number on, with their connections. -/
def begun (batchSize : Nat) : Nat → List C → List (Worker C)
  | _, [] => []
  | number, connection :: rest =>
    { number, batchSize := max batchSize 1, connection } :: begun batchSize (number + 1) rest

omit [Connection C Net] in
theorem length_begun (batchSize number : Nat) (connections : List C) :
    (begun batchSize number connections).length = connections.length := by
  induction connections generalizing number with
  | nil => rfl
  | cons connection rest same => exact congrArg (· + 1) (same (number + 1))

omit [Connection C Net] in
theorem getElem?_begun {batchSize number index : Nat} {connections : List C} {worker : Worker C}
    (there : (begun batchSize number connections)[index]? = some worker) :
    connections[index]? = some worker.connection ∧ worker.phase = .waiting := by
  induction connections generalizing number index with
  | nil => cases there
  | cons connection rest more =>
    cases index with
    | zero =>
      cases there
      exact ⟨rfl, rfl⟩
    | succ index => exact more there

/-- A worker is started for each copy, up to the first that is refused. -/
theorem startWorkers_cases (logger : Logger) (batchSize : Nat) (seed : C) (count : Nat)
    (number : Nat) (workers : List (Worker C)) (workerLog : Array LogEntry) (world : World Net) :
    (∃ (copies : List C) (workerLog' : Array LogEntry) (world' : World Net),
      Copies seed world copies world' ∧ copies.length = count ∧
      startWorkers logger batchSize seed number count workers workerLog world =
        (none, workers ++ begun batchSize number copies, workerLog', world')) ∨
    ∃ (copies : List C) (error : Error) (workerLog' : Array LogEntry) (world₁ world' : World Net),
      Copies seed world copies world₁ ∧ copies.length < count ∧
      Connection.sibling seed world₁ = (.error error, world') ∧
      startWorkers logger batchSize seed number count workers workerLog world =
        (some (number + copies.length, error), workers ++ begun batchSize number copies, workerLog',
          world') := by
  induction count generalizing number workers workerLog world with
  | zero =>
    refine Or.inl ⟨[], workerLog, world, .none, rfl, ?_⟩
    rw [begun, List.append_nil]
    rfl
  | succ count others =>
    rcases copied : Connection.sibling seed world with ⟨error | fresh, world₁⟩
    · refine Or.inr ⟨[], error, workerLog, world, world₁, .none, Nat.succ_pos count, copied, ?_⟩
      simp only [startWorkers, copied, begun, List.append_nil, List.length_nil, Nat.add_zero]
    · let worker : Worker C := { number, batchSize := max batchSize 1, connection := fresh }
      -- Workers begin by reporting to their own log, which is no change of the world.
      have begins : logged logger (Worker.start number batchSize fresh) workerLog world₁ =
          (worker, (logged logger (Worker.start number batchSize fresh) workerLog world₁).2.1, world₁) :=
        rfl
      generalize (logged logger (Worker.start number batchSize fresh) workerLog world₁).2.1 = log at begins
      simp only [startWorkers, copied, begins]
      rcases others (number + 1) (workers ++ [worker]) log world₁ with
        ⟨copies, workerLog', world', more, complete, out⟩ |
          ⟨copies, error, workerLog', world₂, world', more, early, fails, out⟩
      · refine Or.inl ⟨fresh :: copies, workerLog', world', .copies copied more,
          congrArg (· + 1) complete, ?_⟩
        rw [out, List.append_assoc]
        rfl
      · refine Or.inr ⟨fresh :: copies, error, workerLog', world₂, world', .copies copied more,
          Nat.succ_lt_succ early, fails, ?_⟩
        rw [out, List.append_assoc, List.length_cons, Nat.add_right_comm, Nat.add_assoc]
        rfl

/-! ## Giving up -/

/-- A worker that was started with a connection waits, or has closed the connection and ended. -/
inductive Worker.LetGo (connection : C) (worker : Worker C) : Prop where
  | waits (waits : worker.phase = .waiting) (same : worker.connection = connection)
  | closed {world : World Net} (stopped : worker.phase = .stopped)
    (closes : worker.connection = (Connection.close connection world).2.1)

theorem Worker.LetGo.waiting_of_isAlive {connection : C} {worker : Worker C}
    (letGo : worker.LetGo connection) (alive : worker.isAlive = true) :
    worker.phase = .waiting ∧ worker.connection = connection := by
  cases letGo with
  | waits waits same => exact ⟨waits, same⟩
  | closed stopped =>
    rw [Worker.isAlive, stopped] at alive
    cases alive

theorem Worker.letGo_of_finish (worker : Worker C) (world : World Net) :
    (worker.finish world).1.LetGo worker.connection :=
  .closed rfl rfl

/-- A worker that waits can go on without a command only if the channel is closed, and then it ends. -/
theorem finishes_of_move {queue queue' : Queue C} {index : Nat} {world world' : World Net}
    (moves : queue.move index world = some (queue', world')) {running : Running C} {worker : Worker C}
    (running? : queue.running = some running) (there : running.workers[index]? = some worker)
    (waits : worker.phase = .waiting) (nothing : running.channel = []) :
    (queue', world') = queue.act index running worker.finish world ∧
      queue.takes index = [] ∧ queue.sends index = [] := by
  have here : queue.workers[index]? = some worker := (workers_of_running running?).symm ▸ there
  rcases running with ⟨_ | ⟨command, others⟩, _ | _, workers, logger⟩
  · simp only [move, running?, Option.bind_eq_bind, Option.bind_some, there, waits, Running.find?] at moves
    cases moves
  · simp only [move, running?, Option.bind_eq_bind, Option.bind_some, there, waits, Running.find?] at moves
    cases moves
    refine ⟨?_, ?_, ?_⟩
    · simp only [act, logged, waits]
    · simp only [takes, running?, there, waits, Running.find?, if_true, Finding.commands]
    · simp only [sends, here, waits]
  · cases nothing
  · cases nothing

omit [Connection C Net] in
/-- The session of workers whose queue has not opened, so that calls are refused. -/
def aborting (queue : Queue C) (workers : List (Worker C)) (logger : Logger)
    (workerLog : Array LogEntry) (world : World Net) : History C Net :=
  { queue := { queue with running := some { workers, logger }, workerLog }, world, gate := .refusing }

/-- What holds until the workers that were started with these connections have ended. The queue is as it was
apart from the log of its workers, and no command has reached any of them. -/
structure History.Withdrawn (queue : Queue C) (copies : List C) (history : History C Net) : Prop where
  isOpen : history.queue.isOpen = true
  refusing : history.gate ≠ .accepting
  unchanged : ({ history.queue with running := none } : Queue C) =
    { queue with running := none, workerLog := history.queue.workerLog }
  refused : ∀ submission ∈ history.submissions, submission.progress = .returned (.error .queueClosed)
  empty : history.queue.channel = []
  noneTaken : history.accepted = [] ∧ history.taken = []
  noneSent : history.batches = []
  staff : history.queue.workers.length = copies.length
  letGo : ∀ {index : Nat} {worker : Worker C}, history.queue.workers[index]? = some worker →
    ∃ copy, copies[index]? = some copy ∧ worker.LetGo copy

namespace History.Withdrawn

variable {queue : Queue C} {copies : List C} {history : History C Net}

theorem sync (withdrawn : history.Withdrawn queue copies) : history.sync.Withdrawn queue copies := by
  rcases history with ⟨⟨config, logger, seed, _ | running, workerLog⟩, world⟩
  · exact withdrawn
  · exact { withdrawn with isOpen := rfl }

/-- A worker that goes on closes its connection and ends. -/
theorem work (withdrawn : history.Withdrawn queue copies) (index : Nat) :
    (history.step (.work index)).Withdrawn queue copies := by
  rcases moves : history.queue.move index history.world with _ | ⟨queue', world'⟩
  · simp only [History.step, moves]
    exact withdrawn
  obtain ⟨running, worker, after, rest, log, running?, there, turn, -⟩ := move_cases moves
  have here : history.queue.workers = running.workers := workers_of_running running?
  have nothing : running.channel = [] := (channel_of_running running?).symm.trans withdrawn.empty
  obtain ⟨copy, copy?, letGo⟩ := withdrawn.letGo (here ▸ there)
  obtain ⟨waits, same⟩ := letGo.waiting_of_isAlive turn.alive
  obtain ⟨ends, takes, sends⟩ := finishes_of_move moves running? there waits nothing
  simp only [History.step, moves, takes, sends, List.map_nil, List.append_nil]
  cases ends
  refine { withdrawn with
    isOpen := rfl
    unchanged := ?_
    empty := (if_congr Iff.rfl nothing rfl).trans (ite_self [])
    staff := ?_
    letGo := ?_ }
  · have unchanged := withdrawn.unchanged
    simp only [Queue.mk.injEq] at unchanged ⊢
    exact unchanged
  · exact (List.length_set.trans (congrArg List.length here.symm)).trans withdrawn.staff
  · intro other worker' found
    change (running.workers.set index _)[other]? = some worker' at found
    by_cases sameIndex : index = other
    · subst sameIndex
      rw [List.getElem?_set_self (List.getElem?_eq_some_iff.1 there).1] at found
      cases found
      exact ⟨copy, copy?, same ▸ Worker.letGo_of_finish worker _⟩
    · rw [List.getElem?_set_ne sameIndex] at found
      exact withdrawn.letGo (here ▸ found)

/-- Whatever happens, no command gets to the workers, and those that go on end. -/
theorem step (withdrawn : history.Withdrawn queue copies) (event : Event Net) :
    (history.step event).Withdrawn queue copies := by
  cases event with
  | submit commands =>
    have late : (history.step (.submit commands)).submissions =
        history.submissions ++ [⟨commands, .returned (.error .queueClosed)⟩] := by
      rcases history with ⟨queue, world, _ | _ | _, submissions⟩
      · exact absurd rfl withdrawn.refusing
      · rfl
      · rfl
    refine { withdrawn with refused := ?_ }
    rw [late]
    exact List.forall_mem_append.2 ⟨withdrawn.refused, List.forall_mem_singleton.2 rfl⟩
  | proceed call =>
    rcases history.proceed_cases call with
      stays | ⟨submission, progress, queue, sent, found, proceeds, -⟩
    · rw [stays]
      exact withdrawn
    · have holds := proceeds.holdsChannel
      rw [Submission.holdsChannel, withdrawn.refused submission (List.mem_of_getElem? found)] at holds
      cases holds
  | close =>
    rcases history with ⟨queue, world, _ | _ | _, submissions⟩
    · exact absurd rfl withdrawn.refusing
    · exact withdrawn
    · exact withdrawn
  | release =>
    rcases history with ⟨queue', world, _ | _ | _, submissions, accepted, taken, batches⟩
    · exact absurd rfl withdrawn.refusing
    · have stillRefusing : Gate.released ≠ .accepting := by decide
      have released : History.Withdrawn queue copies
          ⟨queue', world, .released, submissions, accepted, taken, batches⟩ :=
        { withdrawn with refusing := stillRefusing }
      exact released.sync
    · exact withdrawn
  | work index => exact withdrawn.work index
  | elsewhere change => exact { withdrawn with }

theorem run (withdrawn : history.Withdrawn queue copies) (events : List (Event Net)) :
    (history.run events).Withdrawn queue copies := by
  induction events generalizing history with
  | nil => exact withdrawn
  | cons event later more => exact more (withdrawn.step event)

theorem aborting (queue : Queue C) (copies : List C) (logger : Logger) (workerLog : Array LogEntry)
    (world : World Net) : (queue.aborting (begun queue.config.batchSize 0 copies) logger workerLog
      world).Withdrawn queue copies where
  isOpen := rfl
  refusing := nofun
  unchanged := rfl
  refused := List.forall_mem_nil _
  empty := rfl
  noneTaken := ⟨rfl, rfl⟩
  noneSent := rfl
  staff := length_begun _ _ copies
  letGo there := by
    obtain ⟨copy?, waits⟩ := getElem?_begun there
    exact ⟨_, copy?, .waits waits rfl⟩

/-- Workers that have ended have closed their connections. -/
theorem closed (closes : Connection.Closes C) (withdrawn : history.Withdrawn queue copies)
    (ended : ∀ worker ∈ history.queue.workers, worker.isAlive = false) :
    ∀ worker ∈ history.queue.workers, Connection.isClosed worker.connection = true := by
  intro worker there
  obtain ⟨index, found⟩ := List.mem_iff_getElem?.1 there
  obtain ⟨copy, -, letGo⟩ := withdrawn.letGo found
  cases letGo with
  | waits waits =>
    have gone := ended worker there
    rw [Worker.isAlive, waits] at gone
    cases gone
  | @closed world stopped closed =>
    rw [closed]
    exact closes copy world

end History.Withdrawn

/-! ## How a queue starts -/

/-- How a start can end, with what it leaves. -/
inductive Opened (queue : Queue C) (world : World Net) :
    Except Failure Unit × Queue C × World Net → Prop where
  | refused {error : Error} (first : queue.refusal? = some error) :
    Opened queue world (.error (.reported error), queue, world)
  | tooLarge (ready : queue.refusal? = none) (large : maxRoom < queue.config.queueSize) :
    Opened queue world (.error (.crashed .capacityOverflow), queue, world)
  /-- A copy is refused. Those before it have been made, and no others are. The workers that got them have ended,
  in one of the orders in which they can, and closed them. -/
  | aborts {logger : Logger} {seed : C} {copies : List C} {error : Error} {workerLog : Array LogEntry}
    {world₁ world₂ : World Net} {after : History C Net} (ready : queue.refusal? = none)
    (room : queue.config.queueSize ≤ maxRoom) (seed? : queue.seed = some seed)
    (made : Copies seed world copies world₁) (early : copies.length < queue.config.workers)
    (fails : Connection.sibling seed world₁ = (.error error, world₂))
    (ends : (queue.aborting (begun queue.config.batchSize 0 copies) logger workerLog
      (world₂.report (.workerNotStarted copies.length error))).Leads after)
    (withdrawn : after.Withdrawn queue copies)
    (closed : ∀ worker ∈ after.queue.workers,
      worker.isAlive = false ∧ Connection.isClosed worker.connection = true) :
    Opened queue world
      (.error (.reported error), { queue with workerLog := after.queue.workerLog }, after.world)
  | opens {logger : Logger} {seed : C} {copies : List C} {workerLog : Array LogEntry}
    {world' : World Net} (ready : queue.refusal? = none) (room : queue.config.queueSize ≤ maxRoom)
    (seed? : queue.seed = some seed) (made : Copies seed world copies world')
    (complete : copies.length = queue.config.workers) :
    Opened queue world
      (.ok (), { queue with
        running := some { workers := begun queue.config.batchSize 0 copies, logger }, workerLog },
        world'.report (.queueOpened queue.config.queueSize queue.config.workers queue.config.batchSize))

/-- Workers that were started for a queue that does not open come to their end, in a run of their steps. -/
theorem windDown_aborting (closes : Connection.Closes C) {queue : Queue C} (closed : queue.running = none)
    (copies : List C) (logger : Logger) (workerLog : Array LogEntry) (world : World Net) :
    let session := queue.aborting (begun queue.config.batchSize 0 copies) logger workerLog world
    ∃ after, session.Leads after ∧ after.Withdrawn queue copies ∧
      (∀ worker ∈ after.queue.workers,
        worker.isAlive = false ∧ Connection.isClosed worker.connection = true) ∧
      ({ (session.queue.windDown world).1 with running := none } : Queue C) =
        { queue with workerLog := after.queue.workerLog } ∧
      (session.queue.windDown world).2 = after.world := by
  intro session
  have withdrawn : session.Withdrawn queue copies :=
    History.Withdrawn.aborting queue copies logger workerLog world
  have releases : session.Leads (session.step .release) :=
    .of_step (rfl : (Event.release : Event Net).isOwn = true) rfl
  obtain ⟨after, works, ended, -, settles⟩ :=
    History.leads_settle (show (session.step .release).queue.closing = true from rfl)
  have winds : session.queue.windDown world = (after.queue, after.world) := settles
  have leads := releases.trans works
  have withdrawn' : after.Withdrawn queue copies := by
    obtain ⟨events, -, rfl⟩ := leads
    exact withdrawn.run events
  refine ⟨after, leads, withdrawn', fun worker there =>
    ⟨ended worker there, withdrawn'.closed closes ended worker there⟩, ?_, ?_⟩
  · rw [winds, withdrawn'.unchanged, closed]
  · rw [winds]

theorem opened_of_start (closes : Connection.Closes C) (queue : Queue C) (world : World Net) :
    Opened queue world (queue.start world) := by
  rcases ready : queue.refusal? with _ | error
  · obtain ⟨closed, ⟨logger, logger?⟩, ⟨seed, seed?⟩, valid⟩ := ready_of_refusal? ready
    have notRunning : queue.running = none :=
      Option.not_isSome_iff_eq_none.1 (ne_true_of_eq_false closed)
    rcases queue with ⟨config, _, _, _, workerLog₀⟩
    cases logger?
    cases seed?
    cases notRunning
    change config.check = .ok () at valid
    by_cases large : maxRoom < config.queueSize
    · simp only [start, closed, valid, large, Bool.false_eq_true, if_false, if_true]
      exact .tooLarge ready large
    · have room := Nat.le_of_not_lt large
      rcases startWorkers_cases logger config.batchSize seed config.workers 0 [] workerLog₀ world with
        ⟨copies, workerLog, world', made, complete, out⟩ |
          ⟨copies, error, workerLog, world₁, world₂, made, early, fails, out⟩
      · simp only [start, closed, valid, large, out, Bool.false_eq_true, if_false, List.nil_append]
        exact .opens ready room rfl made complete
      · rw [Nat.zero_add] at out
        let queue : Queue C := ⟨config, some logger, some seed, none, workerLog₀⟩
        obtain ⟨after, ends, withdrawn, closed', sameQueue, sameWorld⟩ :=
          windDown_aborting closes (rfl : queue.running = none) copies logger workerLog
            (world₂.report (.workerNotStarted copies.length error))
        have aborts := Opened.aborts ready room rfl made early fails ends withdrawn closed'
        rw [← sameQueue, ← sameWorld] at aborts
        simp only [start, closed, valid, large, out, Bool.false_eq_true, if_false, List.nil_append]
        exact aborts
  · rw [start_of_refusal? ready]
    exact .refused ready

/-! ## Main statement -/

/-- **A queue opens with all its workers or leaves no trace.** A start ends in one of the ways of `Opened`. It is
refused for the first of the errors that it looks for, if there is one, and then nothing has happened. If there is
no room for as many commands as may wait, it crashes before anything has happened. If a copy of the seed is
refused, those before it have been made, and no others; all are closed, and the error is the one that was
reported. Else as many copies are made as there are workers. While the workers end no command gets to any of
them, in whatever order they and others go on. A queue that does not open is as it was, apart from what its
workers have reported, and refuses calls if it was closed; and a queue that opens, then or later, has an empty
channel that is not closed. -/
theorem opens_or_leaves_no_trace (closes : Connection.Closes C) (queue : Queue C) (world : World Net) :
    let out := queue.start world
    Opened queue world out ∧
    (∀ (copies : List C) (logger : Logger) (workerLog : Array LogEntry) (before : World Net)
      (events : List (Event Net)),
      let session := queue.aborting (begun queue.config.batchSize 0 copies) logger workerLog before
      (session.run events).Withdrawn queue copies ∧
        ((∀ worker ∈ (session.run events).queue.workers, worker.isAlive = false) →
          ∀ worker ∈ (session.run events).queue.workers,
            Connection.isClosed worker.connection = true)) ∧
    (∀ failure, out.1 = .error failure →
      out.2.1 = { queue with workerLog := out.2.1.workerLog } ∧ out.2.1.isOpen = queue.isOpen ∧
      (queue.isOpen = false →
        (∀ (commands : List Command) (later : World Net),
          submit commands out.2.1 later = (.error .queueClosed, out.2.1, later)) ∧
        ∀ later : World Net, Opened out.2.1 later (out.2.1.start later))) ∧
    (out.1 = .ok () → out.2.1.isOpen = true ∧ out.2.1.channel = [] ∧ out.2.1.closing = false ∧
      out.2.1.workers.length = queue.config.workers) := by
  intro out
  have starts : Opened queue world out := opened_of_start closes queue world
  refine ⟨starts, fun copies logger workerLog before events => ?_, fun failure fails => ?_,
    fun succeeds => ?_⟩
  · have withdrawn := (History.Withdrawn.aborting queue copies logger workerLog before).run events
    exact ⟨withdrawn, withdrawn.closed closes⟩
  · have same : out.2.1 = { queue with workerLog := out.2.1.workerLog } := by
      generalize out = out at starts fails ⊢
      cases starts with
      | refused | tooLarge | aborts => rfl
      | opens => cases fails
    have sameOpen : out.2.1.isOpen = queue.isOpen := by
      rw [same]
      rfl
    refine ⟨same, sameOpen, fun closed => ⟨fun commands later => ?_, opened_of_start closes out.2.1⟩⟩
    rw [submit, if_neg (ne_true_of_eq_false (sameOpen.trans closed))]
  · generalize out = out at starts succeeds ⊢
    cases starts with
    | refused | tooLarge | aborts => cases succeeds
    | opens ready room seed? made complete =>
      exact ⟨rfl, rfl, rfl, (length_begun _ 0 _).trans complete⟩

/-- The third of four copies is refused. -/
theorem opens_or_leaves_no_trace_instance :
    let seed : Scripted.Session :=
      { number := 0, address := "127.0.0.1:6379", script := { siblingLimit := some 2 } }
    let queue : Queue Scripted.Session :=
      { config := ⟨8, 4, 1⟩, logger := some .keep, seed := some seed }
    let world : World Scripted.Stage := ⟨{ scripts := [], created := 1 }, #[]⟩
    let out := queue.start world
    Connection.Closes Scripted.Session ∧
    out.1 = .error (.reported (.io ⟨.other, "clone refused"⟩)) ∧
    out.2.2.net.acts = #[.sibling 0 1, .sibling 0 2, .close 1, .close 2] ∧
    Opened queue world out ∧ out.2.1.isOpen = false ∧
    submit [.ping] out.2.1 out.2.2 = (.error .queueClosed, out.2.1, out.2.2) := by
  intro seed queue world out
  have closes : Connection.Closes Scripted.Session := Scripted.Session.laws.closes
  have refused : out.1 = .error (.reported (.io ⟨.other, "clone refused"⟩)) := by
    dsimp +zetaDelta only
    decide +kernel
  have acts : out.2.2.net.acts = #[.sibling 0 1, .sibling 0 2, .close 1, .close 2] := by
    dsimp +zetaDelta only
    decide +kernel
  obtain ⟨starts, -, unchanged, -⟩ := opens_or_leaves_no_trace closes queue world
  obtain ⟨-, sameOpen, closed⟩ := unchanged _ refused
  obtain ⟨refuses, -⟩ := closed rfl
  exact ⟨closes, refused, acts, starts, sameOpen, refuses [.ping] out.2.2⟩

/-- A queue for more commands than there can be room for crashes instead, though nothing is wrong with it and
no copy would be refused. -/
theorem not_opens_of_large_queue :
    ¬∀ (queue : Queue Scripted.Session) (seed : Scripted.Session) (world : World Scripted.Stage),
      queue.seed = some seed → queue.refusal? = none →
      (∀ world₁ : World Scripted.Stage, ∃ copy world₂,
        Connection.sibling seed world₁ = (.ok copy, world₂)) →
      (queue.start world).1 = .ok () := by
  intro always
  let seed : Scripted.Session := { number := 0, address := "127.0.0.1:6379", script := {} }
  let queue : Queue Scripted.Session :=
    { config := ⟨1 <<< 60, 1, 1⟩, logger := some .keep, seed := some seed }
  let world : World Scripted.Stage := ⟨{ scripts := [], created := 1 }, #[]⟩
  have ready : queue.refusal? = none := by
    dsimp +zetaDelta only
    decide +kernel
  have crashes : (queue.start world).1 = .error (.crashed .capacityOverflow) := by
    dsimp +zetaDelta only
    decide +kernel
  have opens := always queue seed world rfl ready fun world₁ => ⟨_, _, rfl⟩
  rw [crashes] at opens
  cases opens

end RespClient.Queue
