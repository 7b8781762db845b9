import RespClient.Proofs.QueueRun

/-!
# Schedules of a queue

`Queue.submit` and `Queue.stop` are calls from start to end, with the workers going on only while
the caller has to wait. Each is a run of single events (`leads_submit`, `leads_stop`), so that what
holds of all sessions holds of these calls (`leads_session`).

A worker cannot go on forever without new commands: each of its steps lowers `stepsLeft`
(`stepsLeft_move`). So the workers come to rest, and no worker is left when `Queue.stop` returns.
-/

namespace RespClient.Queue

variable {C Net : Type}

/-! ## How long workers go on -/

/-- The most steps that the workers can take with the commands that are there. -/
def stepsLeft (queue : Queue C) : Nat := (queue.running.map Running.steps).getD 0

theorem steps_set {workers : List (Worker C)} {index : Nat} {worker : Worker C}
    (there : workers[index]? = some worker) (after : Worker C) :
    (workers.set index after).foldr (fun worker steps => worker.phase.steps + steps) 0 +
        worker.phase.steps =
      workers.foldr (fun worker steps => worker.phase.steps + steps) 0 + after.phase.steps := by
  induction workers generalizing index with
  | nil => cases there
  | cons first others same =>
    cases index with
    | zero =>
      cases there
      simp only [List.set_cons_zero, List.foldr_cons]
      omega
    | succ index =>
      have rest := same there
      simp only [List.set_cons_succ, List.foldr_cons]
      omega

theorem Worker.steps_pos {worker : Worker C} (alive : worker.isAlive = true) :
    0 < worker.phase.steps := by
  rcases worker with ⟨number, batchSize, connection, phase, batches⟩
  cases phase with
  | waiting => exact Nat.zero_lt_one
  | collecting => exact Nat.zero_lt_succ 2
  | ready => exact Nat.zero_lt_succ 1
  | stopped | crashed => cases alive

theorem Worker.steps_gather (batchSize : Nat) (batch : List Command) :
    (Worker.gather batchSize batch).steps ≤ 3 := by
  unfold Worker.gather
  split
  · exact Nat.le_refl 3
  · exact Nat.le_succ 2

variable [Connection C Net]

/-- A step uses up a command, or brings a worker closer to its next one. -/
theorem Turn.steps_lt {running : Running C} {worker after : Worker C} {rest taken : List Command}
    {sent : List (List Command)} (turn : Turn running worker after rest taken sent) :
    4 * rest.length + after.phase.steps < 4 * running.channel.length + worker.phase.steps := by
  cases turn with
  | @takes command rest there gathers =>
    have few := Worker.steps_gather worker.batchSize (worker.holding ++ [command])
    rw [there, List.length_cons]
    dsimp only
    omega
  | crashes alive shorter crashed =>
    have none : after.phase.steps = 0 := by
      rcases after with ⟨number, batchSize, connection, phase, batches⟩
      cases phase with
      | waiting | collecting | ready | stopped => cases crashed
      | crashed => rfl
    have some := Worker.steps_pos alive
    omega
  | completes collects nothing =>
    rw [collects, nothing]
    exact Nat.lt_succ_self 2
  | finishes waits nothing closing world =>
    rw [waits, nothing]
    exact Nat.zero_lt_one
  | performs ready world =>
    obtain ⟨-, ⟨-, waits⟩ | ⟨-, stopped⟩ | ⟨cause, crashed⟩⟩ := Worker.perform_phase ready world
    · rw [ready, waits, Phase.steps, Phase.steps]
      omega
    · rw [ready, stopped, Phase.steps, Phase.steps]
      omega
    · rw [ready, crashed, Phase.steps, Phase.steps]
      omega

/-- Every step of a worker leaves fewer steps. -/
theorem stepsLeft_move {index : Nat} {queue queue' : Queue C} {world world' : World Net}
    (moves : queue.move index world = some (queue', world')) :
    queue'.stepsLeft < queue.stepsLeft := by
  obtain ⟨running, worker, after, rest, workerLog, running?, there, turn, rfl⟩ := move_cases moves
  have fewer := turn.steps_lt
  have others := steps_set there after
  -- A channel that is emptied because no worker is left only makes the sum smaller.
  have kept : ({ running with channel := rest }.withWorkers
      (running.workers.set index after)).channel.length ≤ rest.length := by
    unfold Running.withWorkers
    dsimp only
    split
    · exact Nat.le_refl rest.length
    · exact Nat.zero_le rest.length
  rw [stepsLeft, stepsLeft, running?]
  simp only [Option.map_some, Option.getD_some, Running.steps]
  change 4 * _ + List.foldr _ 0 (running.workers.set index after) < _
  omega

/-! ## Workers at rest -/

theorem moveAny_some {queue queue' : Queue C} {world world' : World Net}
    (moves : queue.moveAny world = some (queue', world')) :
    ∃ index, queue.move index world = some (queue', world') := by
  obtain ⟨index, -, moves⟩ := List.exists_of_findSome?_eq_some moves
  exact ⟨index, moves⟩

/-- The workers that are left wait for a command, and the channel is open. -/
def Resting (queue : Queue C) : Prop :=
  ∀ worker ∈ queue.workers, worker.isAlive = true → queue.channel = [] ∧ queue.closing = false

/-- Workers that cannot go on wait for a command. -/
theorem resting_of_moveAny {queue : Queue C} {world : World Net}
    (none : queue.moveAny world = none) : queue.Resting := by
  intro worker there alive
  rcases running? : queue.running with _ | running
  · rw [workers, running?] at there
    cases there
  · rw [workers_of_running running?] at there
    obtain ⟨index, found⟩ := List.mem_iff_getElem?.1 there
    have inside := (List.getElem?_eq_some_iff.1 found).1
    have stuck : queue.move index world = .none := by
      unfold moveAny at none
      rw [running?, List.findSome?_eq_none_iff] at none
      exact none index (List.mem_range.2 inside)
    simp only [move, running?, Option.bind_eq_bind, Option.bind_some,
      show running.workers[index]? = some worker from found] at stuck
    rw [channel_of_running running?, closing_of_running running?]
    rcases running with ⟨_ | ⟨command, rest⟩, shut, workers, logger⟩
    · rcases worker with ⟨number, batchSize, connection, phase, batches⟩
      cases phase with
      | waiting =>
        cases shut with
        | true => cases stuck
        | false => exact ⟨rfl, rfl⟩
      | collecting | ready => cases stuck
      | stopped | crashed => cases alive
    · rcases worker with ⟨number, batchSize, connection, phase, batches⟩
      cases phase with
      | waiting | collecting | ready => cases stuck
      | stopped | crashed => cases alive

theorem resting_settleWithin {steps : Nat} {queue : Queue C} {world : World Net}
    (enough : queue.stepsLeft ≤ steps) : (settleWithin steps queue world).1.Resting := by
  induction steps generalizing queue world with
  | zero =>
    rcases moves : queue.moveAny world with _ | ⟨queue', world'⟩
    · exact resting_of_moveAny moves
    · obtain ⟨index, moves⟩ := moveAny_some moves
      have fewer := stepsLeft_move moves
      omega
  | succ steps more =>
    unfold settleWithin
    rcases moves : queue.moveAny world with _ | ⟨queue', world'⟩
    · exact resting_of_moveAny moves
    · obtain ⟨index, moves⟩ := moveAny_some moves
      have fewer := stepsLeft_move moves
      exact more (by omega)

/-- Workers that are let go on come to rest. -/
theorem resting_settle (queue : Queue C) (world : World Net) :
    (settle queue world).1.Resting := resting_settleWithin (Nat.le_refl queue.stepsLeft)

/-- Workers that are let go on until there is room make room, or come to rest. -/
theorem makeRoom_outcome {steps : Nat} (queue : Queue C) (world : World Net)
    (enough : queue.stepsLeft ≤ steps) :
    (makeRoom steps queue world).1.length < (makeRoom steps queue world).1.config.queueSize ∨
      (makeRoom steps queue world).1.Resting := by
  induction steps generalizing queue world with
  | zero =>
    rcases moves : queue.moveAny world with _ | ⟨queue', world'⟩
    · exact Or.inr (resting_of_moveAny moves)
    · obtain ⟨index, moves⟩ := moveAny_some moves
      have fewer := stepsLeft_move moves
      omega
  | succ steps more =>
    unfold makeRoom
    split
    · next room => exact Or.inl room
    · rcases moves : queue.moveAny world with _ | ⟨queue', world'⟩
      · exact Or.inr (resting_of_moveAny moves)
      · obtain ⟨index, moves⟩ := moveAny_some moves
        have fewer := stepsLeft_move moves
        exact more queue' world' (by omega)

/-- What every step of a worker keeps holds after any number of steps. -/
theorem settleWithin_induction (holds : Queue C → World Net → Prop)
    (kept : ∀ {queue queue' : Queue C} {world world' : World Net}, holds queue world →
      queue.moveAny world = some (queue', world') → holds queue' world')
    (steps : Nat) {queue : Queue C} {world : World Net} (before : holds queue world) :
    holds (settleWithin steps queue world).1 (settleWithin steps queue world).2 := by
  induction steps generalizing queue world with
  | zero => exact before
  | succ steps more =>
    unfold settleWithin
    split
    · exact before
    · next moves => exact more (kept before moves)

theorem makeRoom_induction (holds : Queue C → World Net → Prop)
    (kept : ∀ {queue queue' : Queue C} {world world' : World Net}, holds queue world →
      queue.moveAny world = some (queue', world') → holds queue' world')
    (steps : Nat) {queue : Queue C} {world : World Net} (before : holds queue world) :
    holds (makeRoom steps queue world).1 (makeRoom steps queue world).2 := by
  induction steps generalizing queue world with
  | zero => exact before
  | succ steps more =>
    unfold makeRoom
    split
    · exact before
    · split
      · exact before
      · next moves => exact more (kept before moves)

/-! ## Runs -/

omit [Connection C Net] in
/-- Whether an event is a step of the queue: of one of its calls or workers, or of closing it. -/
def Event.isOwn : Event Net → Bool
  | .submit _ | .proceed _ | .close | .release | .work _ => true
  | .elsewhere _ => false

namespace History

variable {history : History C Net}

/-- Only steps of workers reach the network or send batches. -/
theorem world_step (history : History C Net) {event : Event Net} (own : event.isOwn = true)
    (calls : ∀ index, event ≠ .work index) :
    (history.step event).world = history.world ∧ (history.step event).batches = history.batches := by
  cases event with
  | submit => exact ⟨rfl, rfl⟩
  | proceed call =>
    rcases history.proceed_cases call with
      stays | ⟨submission, progress, queue, sent, -, -, out⟩
    · rw [stays]
      exact ⟨rfl, rfl⟩
    · rw [out]
      exact ⟨rfl, rfl⟩
  | close | release =>
    rcases history with ⟨queue, world, _ | _ | _, submissions⟩ <;> exact ⟨rfl, rfl⟩
  | work index => exact absurd rfl (calls index)
  | elsewhere => cases own

theorem run_append (first second : List (Event Net)) :
    history.run (first ++ second) = (history.run first).run second := List.foldl_append

/-- Some events of the queue lead from one point of a session to another. -/
def Leads (history after : History C Net) : Prop :=
  ∃ events, (∀ event ∈ events, event.isOwn = true) ∧ history.run events = after

theorem Leads.refl : history.Leads history := ⟨[], List.forall_mem_nil _, rfl⟩

theorem Leads.trans {middle after : History C Net} (first : history.Leads middle)
    (second : middle.Leads after) : history.Leads after := by
  obtain ⟨events, own, rfl⟩ := first
  obtain ⟨more, own', rfl⟩ := second
  exact ⟨events ++ more, List.forall_mem_append.2 ⟨own, own'⟩, run_append events more⟩

/-- One event of the queue leads to what it leaves. -/
theorem Leads.of_step {event : Event Net} (own : event.isOwn = true) {after : History C Net}
    (leaves : history.step event = after) : history.Leads after :=
  ⟨[event], List.forall_mem_singleton.2 own, leaves⟩

/-- A session comes to a queue and a world by steps of workers. -/
def Works (history : History C Net) (queue : Queue C) (world : World Net) : Prop :=
  ∃ taken batches, history.Leads { history with queue, world, taken, batches }

theorem Works.refl : history.Works history.queue history.world :=
  ⟨history.taken, history.batches, Leads.refl⟩

theorem Works.moveAny {queue queue' : Queue C} {world world' : World Net}
    (works : history.Works queue world) (moves : queue.moveAny world = some (queue', world')) :
    history.Works queue' world' := by
  obtain ⟨taken, batches, leads⟩ := works
  obtain ⟨index, moves⟩ := moveAny_some moves
  refine ⟨taken ++ (queue.takes index).map (index, ·),
    batches ++ (queue.sends index).map (index, ·),
    leads.trans (.of_step (rfl : (Event.work index).isOwn = true) ?_)⟩
  simp only [History.step, moves]

end History

/-- A queue whose workers know that commands will come. -/
structure Receptive (queue : Queue C) : Prop where
  isOpen : queue.isOpen = true
  opened : queue.closing = false
  positive : 0 < queue.config.queueSize

theorem receptive_of_start {queue opened : Queue C} {world world' : World Net}
    (starts : queue.start world = (.ok (), opened, world')) : opened.Receptive := by
  obtain ⟨-, valid, -, logger, seed, workers, workerLog, world'', -, -, -, rfl, -⟩ :=
    start_ok_iff.1 starts
  exact ⟨rfl, rfl, (Config.pos_of_check valid).1⟩

theorem Receptive.moveAny {queue queue' : Queue C} {world world' : World Net}
    (receptive : queue.Receptive) (moves : queue.moveAny world = some (queue', world')) :
    queue'.Receptive := by
  obtain ⟨index, moves⟩ := moveAny_some moves
  obtain ⟨isOpen, sameClosing, sameConfig⟩ := closing_of_move moves
  exact ⟨isOpen, sameClosing.trans receptive.opened, sameConfig ▸ receptive.positive⟩

omit [Connection C Net] in
theorem Receptive.send {queue queue' : Queue C} {command : Command} (receptive : queue.Receptive)
    (sends : queue.send command = .ok queue') : queue'.Receptive := by
  obtain ⟨running, running?, -, rfl⟩ := send_ok sends
  have opened := receptive.opened
  rw [closing_of_running running?] at opened
  exact ⟨rfl, opened, receptive.positive⟩

omit [Connection C Net] in
/-- A queue that takes a command without room for it would have a worker at rest before a channel
that is not empty. -/
theorem Receptive.room {queue queue' : Queue C} {command : Command} (receptive : queue.Receptive)
    (outcome : queue.length < queue.config.queueSize ∨ queue.Resting)
    (sends : queue.send command = .ok queue') : queue.length < queue.config.queueSize := by
  rcases outcome with room | resting
  · exact room
  · obtain ⟨running, running?, alive, -⟩ := send_ok sends
    obtain ⟨worker, there, alive⟩ := List.any_eq_true.1 alive
    have here : worker ∈ queue.workers := by
      rw [workers_of_running running?]
      exact there
    rw [length_eq_length_channel, (resting worker here alive).1]
    exact receptive.positive

namespace History

variable {history : History C Net}

omit [Connection C Net] in
/-- As long as the queue accepts calls, the workers need not look whether the channel is closed. -/
theorem sync_of_accepting (accepting : history.gate = .accepting)
    (receptive : history.queue.Receptive) : history.sync = history := by
  have unclosed : history.closed = false := by
    rw [closed, accepting]
    rfl
  rcases history with ⟨⟨config, logger, seed, _ | running, workerLog⟩, world⟩
  · rfl
  · have opened : running.closing = false := receptive.opened
    rw [sync, unclosed]
    rcases running with ⟨channel, closing, workers, logger⟩
    cases opened
    rfl

/-- A call that sends commands from start to end is a run. -/
theorem leads_sendAll {call : Nat} {commands : List Command} :
    ∀ (rest : List Command) (history : History C Net), history.gate = .accepting →
      history.queue.Receptive →
      history.submissions[call]? = some ⟨commands, .sending rest⟩ →
      (sendAll rest history.queue history.world).2.1.Receptive ∧
      ∃ accepted taken batches, history.Leads { history with
        queue := (sendAll rest history.queue history.world).2.1
        world := (sendAll rest history.queue history.world).2.2
        submissions := history.submissions.modify call fun submission =>
          { submission with
            progress := .returned (sendAll rest history.queue history.world).1 }
        accepted, taken, batches } := by
  intro rest
  induction rest with
  | nil =>
    intro history accepting receptive found
    refine ⟨receptive, history.accepted, history.taken, history.batches,
      .of_step (rfl : (Event.proceed call).isOwn = true) ?_⟩
    simp only [step, found, advance, sendAll]
    exact sync_of_accepting accepting receptive
  | cons command rest others =>
    intro history accepting receptive found
    -- Waiting for room is a run of steps of workers, which keep the queue receptive.
    have made := makeRoom_induction
      (fun queue world => history.Works queue world ∧ queue.Receptive)
      (fun before moves => ⟨before.1.moveAny moves, before.2.moveAny moves⟩)
      history.queue.stepsLeft ⟨Works.refl, receptive⟩
    have outcome := makeRoom_outcome history.queue history.world (Nat.le_refl _)
    rcases makes : makeRoom history.queue.stepsLeft history.queue history.world with
      ⟨queue, world⟩
    rw [makes] at made outcome
    obtain ⟨⟨taken, batches, works⟩, receptive⟩ := made
    have makes' : makeRoom ((history.queue.running.map Running.steps).getD 0) history.queue
      history.world = (queue, world) := makes
    rcases sends : queue.send command with error | queue'
    · have out : sendAll (command :: rest) history.queue history.world =
          (.error error, queue, world) := by simp only [sendAll, makes', sends]
      rw [out]
      refine ⟨receptive, history.accepted, taken, batches,
        works.trans (.of_step (rfl : (Event.proceed call).isOwn = true) ?_)⟩
      simp only [step, found, advance, sends]
      exact sync_of_accepting accepting receptive
    · -- Workers at rest would leave the channel empty, so that waiting has ended with room.
      have room := receptive.room outcome sends
      let sent : History C Net := { history with
        queue := queue', world, taken, batches, accepted := history.accepted ++ [(call, command)]
        submissions := history.submissions.modify call fun submission =>
          { submission with progress := .sending rest } }
      have goes : ({ history with queue, world, taken, batches } : History C Net).Leads sent := by
        refine .of_step (rfl : (Event.proceed call).isOwn = true) ?_
        simp only [step, found, advance, sends, if_pos room]
        exact sync_of_accepting accepting (receptive.send sends)
      have found' : sent.submissions[call]? = some ⟨commands, .sending rest⟩ := by
        rw [List.getElem?_modify_eq, found]
        rfl
      have out : sendAll (command :: rest) history.queue history.world =
          sendAll rest queue' world := by simp only [sendAll, makes', sends]
      obtain ⟨receptive', accepted, taken', batches', later⟩ :=
        others sent accepting (receptive.send sends) found'
      rw [List.modify_modify_eq] at later
      rw [out]
      exact ⟨receptive', accepted, taken', batches', (works.trans goes).trans later⟩

omit [Connection C Net] in
theorem modify_concat (submissions : List Submission) (last : Submission)
    (change : Submission → Submission) :
    (submissions ++ [last]).modify submissions.length change = submissions ++ [change last] := by
  induction submissions with
  | nil => rfl
  | cons first others same => exact congrArg (first :: ·) same

/-- A call that submits commands from start to end is a run. -/
theorem leads_submit (commands : List Command) (accepting : history.gate = .accepting)
    (receptive : history.queue.Receptive) :
    (submit commands history.queue history.world).2.1.Receptive ∧
    ∃ accepted taken batches, history.Leads { history with
      queue := (submit commands history.queue history.world).2.1
      world := (submit commands history.queue history.world).2.2
      submissions := history.submissions ++
        [⟨commands, .returned (submit commands history.queue history.world).1⟩]
      accepted, taken, batches } := by
  rcases history with ⟨queue, world, gate, submissions, accepted, taken, batches⟩
  cases accepting
  have isOpen := receptive.isOpen
  let call := submissions.length
  let reaches (progress : Progress) : History C Net :=
    { queue, world, accepted, taken, batches, submissions := submissions ++ [⟨commands, progress⟩] }
  have found (progress : Progress) :
      (reaches progress).submissions[call]? = some ⟨commands, progress⟩ :=
    List.getElem?_concat_length
  have advances (before after : Progress) :
      (reaches before).advance call after = reaches after := by
    rw [advance, modify_concat]
    exact sync_of_accepting rfl receptive
  have enters : ({ queue, world, submissions, accepted, taken, batches } : History C Net).Leads
    (reaches .entered) := .of_step (rfl : (Event.submit commands).isOwn = true) rfl
  rcases named : commands.findIdx? Command.isEmpty with _ | index
  · have admits : (reaches .entered).Leads (reaches (.sending commands)) := by
      refine .of_step (rfl : (Event.proceed call).isOwn = true) ?_
      simp only [step, found, named, advances]
    obtain ⟨receptive', accepted', taken', batches', sends⟩ := leads_sendAll commands
      (reaches (.sending commands)) rfl receptive (found (.sending commands))
    have out : submit commands queue world = sendAll commands queue world := by
      simp only [submit, isOpen, named, if_true]
    rw [modify_concat] at sends
    rw [out]
    exact ⟨receptive', accepted', taken', batches', (enters.trans admits).trans sends⟩
  · have out : submit commands queue world = (.error (.emptyCommand index), queue, world) := by
      simp only [submit, isOpen, named, if_true]
    rw [out]
    refine ⟨receptive, accepted, taken, batches,
      enters.trans (.of_step (rfl : (Event.proceed call).isOwn = true) ?_)⟩
    simp only [step, found, named, advances]
    rfl

/-- Workers that see the channel closed come to rest only by ending, in a run of their steps. -/
theorem leads_settle (closing : history.queue.closing = true) :
    ∃ after, history.Leads after ∧ (∀ worker ∈ after.queue.workers, worker.isAlive = false) ∧
      after.submissions = history.submissions ∧
      settle history.queue history.world = (after.queue, after.world) := by
  have kept : ∀ {queue queue' : Queue C} {world world' : World Net},
      history.Works queue world ∧ queue.closing = true →
      queue.moveAny world = some (queue', world') →
      history.Works queue' world' ∧ queue'.closing = true := by
    intro queue queue' world world' before moves
    obtain ⟨index, moved⟩ := moveAny_some moves
    exact ⟨before.1.moveAny moves, (closing_of_move moved).2.1.trans before.2⟩
  obtain ⟨⟨taken, batches, works⟩, closing'⟩ := settleWithin_induction
    (fun queue world => history.Works queue world ∧ queue.closing = true) kept
    history.queue.stepsLeft ⟨Works.refl, closing⟩
  refine ⟨_, works, ?_, rfl, rfl⟩
  intro worker there
  have resting := resting_settle history.queue history.world worker there
  rcases alive : worker.isAlive with _ | _
  · rfl
  · cases closing'.symm.trans (resting alive).2

/-- Closing the queue from start to end is a run too, after which no worker is left, if no call holds
the channel. -/
theorem leads_stop (accepting : history.gate = .accepting) (isOpen : history.queue.isOpen = true)
    (idle : ∀ submission ∈ history.submissions, submission.holdsChannel = false) :
    ∃ after, history.Leads after ∧ (∀ worker ∈ after.queue.workers, worker.isAlive = false) ∧
      after.submissions = history.submissions ∧
      history.queue.stop history.world =
        ({ after.queue with running := none }, reportEnd after.queue.workers after.world) := by
  rcases history with ⟨⟨config, logger, seed, _ | running, workerLog⟩, world, gate, submissions,
    accepted, taken, batches⟩
  · cases isOpen
  · cases accepting
    have unheld : submissions.any Submission.holdsChannel = false :=
      List.any_eq_false.2 fun submission there => Bool.not_eq_true _ ▸ idle submission there
    let shut : Queue C :=
      ⟨config, logger, seed, some { running with closing := true }, workerLog⟩
    let released : History C Net :=
      { queue := shut, world, gate := .released, submissions, accepted, taken, batches }
    have releases : History.Leads ⟨⟨config, logger, seed, some running, workerLog⟩, world,
        .accepting, submissions, accepted, taken, batches⟩ released := by
      refine ⟨[.close, .release], List.forall_mem_cons.2 ⟨rfl, List.forall_mem_singleton.2 rfl⟩, ?_⟩
      simp only [run, List.foldl_cons, List.foldl_nil, step, sync, closed, unheld]
      rfl
    obtain ⟨after, works, ended, sameSubmissions, settles⟩ :=
      leads_settle (show released.queue.closing = true from rfl)
    refine ⟨after, releases.trans works, ended, sameSubmissions, ?_⟩
    have settles' : settle shut world = (after.queue, after.world) := settles
    simp only [stop, windDown, Option.map_some]
    rw [settles']
    rfl

end History

/-! ## Sessions of one caller -/

/-- The queue and the world after calls that submit commands, one after the other. -/
def submitAll (requests : List (List Command)) (queue : Queue C) (world : World Net) :
    Queue C × World Net :=
  requests.foldl (fun state commands => (submit commands state.1 state.2).2) (queue, world)

namespace History

theorem leads_submitAll (requests : List (List Command)) (history : History C Net)
    (accepting : history.gate = .accepting) (receptive : history.queue.Receptive)
    (idle : ∀ submission ∈ history.submissions, submission.holdsChannel = false) :
    ∃ after, history.Leads after ∧ after.gate = .accepting ∧ after.queue.isOpen = true ∧
      (∀ submission ∈ after.submissions, submission.holdsChannel = false) ∧
      after.submissions.map Submission.commands =
        history.submissions.map Submission.commands ++ requests ∧
      submitAll requests history.queue history.world = (after.queue, after.world) := by
  induction requests generalizing history with
  | nil =>
    exact ⟨history, Leads.refl, accepting, receptive.isOpen, idle, (List.append_nil _).symm, rfl⟩
  | cons commands requests more =>
    obtain ⟨receptive', accepted, taken, batches, first⟩ :=
      leads_submit commands accepting receptive
    let next : History C Net := { history with
      queue := (submit commands history.queue history.world).2.1
      world := (submit commands history.queue history.world).2.2
      submissions := history.submissions ++
        [⟨commands, .returned (submit commands history.queue history.world).1⟩]
      accepted, taken, batches }
    have idle' : ∀ submission ∈ next.submissions, submission.holdsChannel = false := by
      intro submission there
      rcases List.mem_append.1 there with old | new
      · exact idle submission old
      · rw [List.mem_singleton.1 new]
        rfl
    obtain ⟨after, later, accepting', isOpen, idle', sameCommands, out⟩ :=
      more next accepting receptive' idle'
    refine ⟨after, first.trans later, accepting', isOpen, idle', ?_, out⟩
    rw [sameCommands, List.map_append, List.append_assoc]
    rfl

/-- A session in which one caller submits commands and then closes the queue is a run, after which
no worker is left. -/
theorem leads_session {queue opened : Queue C} {world world' : World Net}
    (starts : queue.start world = (.ok (), opened, world')) (requests : List (List Command)) :
    ∃ after : History C Net, ({ queue := opened, world := world' } : History C Net).Leads after ∧
      (∀ worker ∈ after.queue.workers, worker.isAlive = false) ∧
      after.submissions.map Submission.commands = requests ∧
      (submitAll requests opened world').1.stop (submitAll requests opened world').2 =
        ({ after.queue with running := none }, reportEnd after.queue.workers after.world) := by
  have receptive : opened.Receptive := receptive_of_start starts
  have idle : ∀ submission ∈ ([] : List Submission), submission.holdsChannel = false := by
    intro submission there
    cases there
  obtain ⟨before, first, accepting, isOpen, idle', sameCommands, out⟩ :=
    leads_submitAll requests { queue := opened, world := world' } rfl receptive idle
  obtain ⟨after, last, ended, sameSubmissions, stops⟩ := leads_stop accepting isOpen idle'
  rw [out]
  exact ⟨after, first.trans last, ended, sameSubmissions ▸ sameCommands, stops⟩

end History

end RespClient.Queue
