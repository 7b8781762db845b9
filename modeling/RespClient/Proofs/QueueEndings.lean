import RespClient.Proofs.QueueDelivery
import RespClient.Proofs.WorkerBatching

/-!
# How sessions end

If there is room for the batches of a queue and its connections do not crash, then none of its workers does
(`Smooth.step`), and what holds of sessions without crashes holds of all of its sessions. A call whose commands
have names is not refused then, if it begins before the queue is told to close (`Welcoming`).

A session does not get stuck. While a worker is left after the queue has let go of the channel, a call or a worker
can go on (`Orderly.goes_on`), and each time less is left to do (`left`). So the session can come to its end
whatever has happened before (`comes_to_end`).
-/

namespace RespClient.Queue

variable {C Net : Type}

/-! ## Steps that are no crash -/

section Acting

variable [Connection C Net]

/-- What a worker does in one step if it does not crash for want of room: it sends a batch, or changes its mind, or
ends. -/
inductive Acts (worker : Worker C) (world : World Net) :
    Worker C × World Net → List (List Command) → Prop where
  | performs {batch : List Command} {last : Bool} (nonempty : batch ≠ [])
    (ready : worker.phase = .ready batch last) : Acts worker world (worker.perform world) [batch]
  | changes {phase : Phase} (calm : ∀ cause, phase ≠ .crashed cause) :
    Acts worker world ({ worker with phase }, world) []
  | finishes : Acts worker world (worker.finish world) []

omit [Connection C Net] in
theorem Worker.Sound.collects {worker : Worker C} {batchSize : Nat} {closing : Bool}
    {channel : List Command} (sound : worker.Sound batchSize closing channel)
    (gathers : worker.phase = .waiting ∨ ∃ batch, worker.phase = .collecting batch) :
    worker.Collects := by
  rcases gathers with waits | ⟨batch, collects⟩
  · exact Or.inl waits
  · rw [Worker.Sound, collects] at sound
    exact Or.inr ⟨batch, sound.2.1, collects⟩

/-- A worker that looks at the channel and has room for its batch takes what it finds, or ends. -/
theorem Worker.Collects.acts {worker : Worker C} (collects : worker.Collects)
    (room : worker.batchSize ≤ maxRoom) (finding : Finding) (world : World Net) :
    Acts worker world (worker.observe finding world) [] := by
  rcases Worker.observe_cases finding collects world with
    ⟨phase, -, collects', -, out⟩ | ⟨batch, last, -, -, -, out⟩ | ⟨-, -, out⟩ | ⟨cause, crashed⟩
  · rw [out]
    refine .changes fun cause crashed => ?_
    subst crashed
    rcases collects' with waits | ⟨batch, -, collects'⟩
    · cases waits
    · cases collects'
  · rw [out]
    exact .changes nofun
  · rw [out]
    exact .finishes
  · exact absurd crashed (Worker.observe_not_crashed room collects finding world cause)

/-- A worker does not crash if its connection does not. -/
theorem Acts.calm (calm : Connection.Calm C) {worker : Worker C} {world : World Net}
    {out : Worker C × World Net} {sent : List (List Command)} (acts : Acts worker world out sent) :
    out.1.crash? = none := by
  cases acts with
  | @performs batch last nonempty ready =>
    obtain ⟨next, world', sent, ⟨waits, -, performs⟩ | ⟨-, -, performs⟩ | ⟨cause, crashed, -⟩⟩ :=
      Worker.perform_cases ready world
    · rw [performs, Worker.crash?, waits]
    · rw [performs]
      rfl
    · have waits := Worker.sendBatch_waits calm batch worker world
      rw [sent, crashed] at waits
      cases waits
  | @changes phase calm' =>
    cases phase with
    | waiting | collecting | ready | stopped => rfl
    | crashed cause => exact absurd rfl (calm' cause)
  | finishes => rfl

namespace History

variable {history : History C Net}

omit [Connection C Net] in
theorem Sound.calm (sound : history.Sound) : history.Calm := by
  intro worker there
  have sound' := sound.workers worker there
  rcases worker with ⟨number, batchSize, connection, phase, batches⟩
  cases phase with
  | waiting | collecting | ready | stopped => rfl
  | crashed => exact sound'.2.elim

/-- One step of a worker, with what it makes of its worker and of the network. -/
theorem Sound.acts_of_move (sound : history.Sound)
    (room : history.queue.config.batchSize ≤ maxRoom) {index : Nat} {queue : Queue C}
    {world : World Net} (moves : history.queue.move index history.world = some (queue, world)) :
    ∃ worker before out, history.queue.workers[index]? = some worker ∧
      before.net = history.world.net ∧ Acts worker before out (history.queue.sends index) ∧
      queue.workers = history.queue.workers.set index out.1 ∧ world.net = out.2.net := by
  obtain ⟨running, worker, running?, there, acts⟩ := move_acts moves
  have here : history.queue.workers = running.workers := workers_of_running running?
  rw [← here] at there
  have sound' := sound.workers worker (List.mem_of_getElem? there)
  let before : World Net := { history.world with log := history.queue.workerLog }
  rcases acts with ⟨batch, last, ready, acts⟩ | ⟨finding, rest, finds, acts⟩
  · have sends : history.queue.sends index = [batch] := by
      simp only [Queue.sends, there, ready]
    have nonempty : batch ≠ [] := by
      rw [Worker.Sound, ready] at sound'
      exact sound'.2.1
    cases acts
    rw [sends, here]
    exact ⟨worker, before, worker.perform before, here ▸ there, rfl, .performs nonempty ready, rfl, rfl⟩
  · have gathers := Running.gathers_of_find? finds
    have sends : history.queue.sends index = [] := by
      simp only [Queue.sends, there]
      rcases gathers with waits | ⟨batch, collects⟩
      · rw [waits]
      · rw [collects]
    have room' : worker.batchSize ≤ maxRoom := sound'.1.symm ▸ room
    cases acts
    rw [sends, here]
    exact ⟨worker, before, worker.observe finding before, here ▸ there, rfl,
      (sound'.collects gathers).acts room' finding before, rfl, rfl⟩

/-! ## Sessions that cannot crash -/

/-- A session in order with room for its batches. -/
structure Smooth (history : History C Net) : Prop where
  orderly : history.Orderly
  room : history.queue.config.batchSize ≤ maxRoom

/-- Nothing disturbs a session with room for its batches if its connections do not crash. -/
theorem Smooth.step (smooth : history.Smooth) (calm : Connection.Calm C) (event : Event Net) :
    (history.step event).Smooth := by
  obtain ⟨orderly, room⟩ := smooth
  have calm' : (history.step event).Calm := by
    cases event with
    | work index =>
      rcases moves : history.queue.move index history.world with _ | ⟨queue, world⟩
      · simp only [History.step, moves]
        exact orderly.sound.calm
      · obtain ⟨worker, before, out, there, -, acts, workers, -⟩ :=
          orderly.sound.acts_of_move room moves
        simp only [History.step, moves]
        intro other member
        change other ∈ queue.workers at member
        rw [workers] at member
        rcases List.mem_or_eq_of_mem_set member with old | rfl
        · exact orderly.sound.calm other old
        · exact acts.calm calm
    | submit | proceed | close | release | elsewhere =>
      rw [Calm, workers_step fun _ other => by cases other]
      exact orderly.sound.calm
  exact ⟨orderly.step calm', (config_step history event).symm ▸ room⟩

theorem Smooth.run (smooth : history.Smooth) (calm : Connection.Calm C) (events : List (Event Net)) :
    (history.run events).Smooth := by
  induction events generalizing history with
  | nil => exact smooth
  | cons event later more => exact more (smooth.step calm event)

/-- A session begins smoothly if there is room for its batches. -/
theorem smooth_of_start {queue opened : Queue C} {world world' : World Net}
    (starts : queue.start world = (.ok (), opened, world')) (room : queue.config.batchSize ≤ maxRoom) :
    ({ queue := opened, world := world' } : History C Net).Smooth := by
  refine ⟨orderly_of_start starts, ?_⟩
  obtain ⟨-, -, -, logger, seed, workers, workerLog, world'', -, -, -, rfl, -⟩ :=
    start_ok_iff.1 starts
  exact room

/-! ## Calls that are not refused -/

omit [Connection C Net] in
/-- No call has failed whose commands all have names. -/
def Welcoming (history : History C Net) : Prop :=
  ∀ (call : Nat) (submission : Submission), history.submissions[call]? = some submission →
    submission.commands.findIdx? Command.isEmpty = none →
    ∀ error, submission.progress ≠ .returned (.error error)

/-- A call is not refused if it begins while the queue accepts calls. -/
theorem Welcoming.step (welcoming : history.Welcoming) (orderly : history.Orderly) {event : Event Net}
    (early : ∀ commands, event = .submit commands → history.gate = .accepting) :
    (history.step event).Welcoming := by
  cases event with
  | submit commands =>
    intro call submission found named error
    simp only [History.step, early commands rfl] at found
    rcases Nat.lt_or_ge call history.submissions.length with old | new
    · rw [List.getElem?_append_left old] at found
      exact welcoming _ _ found named error
    · rw [List.getElem?_append_right new, List.getElem?_singleton] at found
      split at found
      · cases found
        exact fun refused => by cases refused
      · cases found
  | proceed call =>
    rcases history.proceed_cases call with
      stays | ⟨submission, progress, queue, sent, found, proceeds, out⟩
    · rw [stays]
      exact welcoming
    · have opened : history.queue.closing = false :=
        orderly.synced.trans (closed_of_holds found proceeds.holdsChannel)
      rw [out]
      intro other submission' found' named error
      change (history.submissions.modify call _)[other]? = some submission' at found'
      by_cases same : call = other
      · subst same
        rw [List.getElem?_modify_eq, found] at found'
        cases found'
        cases proceeds with
        | refused enters empty => cases named.symm.trans empty
        | admitted | returns | sends => exact fun refused => by cases refused
        | @abandoned command rest error goesOn fails =>
          obtain ⟨queue', sends⟩ := orderly.sound.sends opened command
          rw [sends] at fails
          cases fails
      · rw [List.getElem?_modify_ne _ _ same] at found'
        exact welcoming _ _ found' named error
  | close => rcases history with ⟨queue, world, _ | _ | _, submissions⟩ <;> exact welcoming
  | release => rcases history with ⟨queue, world, _ | _ | _, submissions⟩ <;> exact welcoming
  | work index =>
    rcases moves : history.queue.move index history.world with _ | ⟨queue, world⟩
    · simp only [History.step, moves]
      exact welcoming
    · simp only [History.step, moves]
      exact welcoming
  | elsewhere change => exact welcoming

theorem gate_release (closed : history.gate ≠ .accepting) :
    (history.step .release).gate = .released := by
  rcases history with ⟨queue, world, _ | _ | _, submissions⟩
  · exact absurd rfl closed
  · rfl
  · rfl

/-- Only the queue moves its gate, when it is told to close and when it lets go of the channel. -/
theorem gate_step {event : Event Net} (notClose : event ≠ .close) (notRelease : event ≠ .release) :
    (history.step event).gate = history.gate := by
  cases event with
  | submit | elsewhere => rfl
  | proceed call =>
    rcases history.proceed_cases call with
      stays | ⟨submission, progress, queue, sent, -, -, out⟩
    · rw [stays]
    · rw [out]
      rfl
  | close => exact absurd rfl notClose
  | release => exact absurd rfl notRelease
  | work index =>
    rcases moves : history.queue.move index history.world with _ | ⟨queue, world⟩
    · simp only [History.step, moves]
    · simp only [History.step, moves]

/-- A queue that accepts calls has always done so. -/
theorem gate_of_step {event : Event Net} (accepting : (history.step event).gate = .accepting) :
    history.gate = .accepting := by
  cases event with
  | close | release =>
    rcases history with ⟨queue, world, _ | _ | _, submissions⟩
    · rfl
    · cases accepting
    · cases accepting
  | submit | proceed | work | elsewhere =>
    exact (gate_step (fun other => by cases other) fun other => by cases other).symm.trans accepting

theorem gate_of_run {events : List (Event Net)} (accepting : (history.run events).gate = .accepting) :
    history.gate = .accepting := by
  induction events generalizing history with
  | nil => exact accepting
  | cons event later before => exact gate_of_step (before accepting)

/-- As long as a queue is not told to close, it accepts calls. -/
theorem gate_run {events : List (Event Net)} (accepting : history.gate = .accepting)
    (unclosed : .close ∉ events) : (history.run events).gate = .accepting := by
  induction events generalizing history with
  | nil => exact accepting
  | cons event later more =>
    obtain ⟨other, unclosed⟩ := List.ne_and_not_mem_of_not_mem_cons unclosed
    refine more ?_ unclosed
    by_cases releases : event = .release
    · subst releases
      rw [History.step, accepting]
      exact accepting
    · rwa [gate_step other.symm releases]

/-- As long as a queue accepts calls, none is refused. -/
theorem Welcoming.run_of_accepting (welcoming : history.Welcoming) (smooth : history.Smooth)
    (calm : Connection.Calm C) {events : List (Event Net)}
    (accepting : (history.run events).gate = .accepting) : (history.run events).Welcoming := by
  induction events generalizing history with
  | nil => exact welcoming
  | cons event later more =>
    have early : history.gate = .accepting := gate_of_step (gate_of_run accepting)
    exact more (welcoming.step smooth.orderly fun _ _ => early) (smooth.step calm event) accepting

/-- Once no call begins any more, none is refused either. -/
theorem Welcoming.run (welcoming : history.Welcoming) (smooth : history.Smooth)
    (calm : Connection.Calm C) {events : List (Event Net)}
    (noCalls : ∀ commands, .submit commands ∉ events) : (history.run events).Welcoming := by
  induction events generalizing history with
  | nil => exact welcoming
  | cons event later more =>
    have early : ∀ commands, event = .submit commands → history.gate = .accepting :=
      fun commands begins => absurd (begins ▸ List.mem_cons_self ..) (noCalls commands)
    exact more (welcoming.step smooth.orderly early) (smooth.step calm event)
      fun commands later => noCalls commands (List.mem_cons_of_mem _ later)

end History

end Acting

/-! ## What has been handed over -/

section Handing

/-- Numbered entries are those of each number. -/
theorem map_snd_perm_entriesOf {α : Type} {entries : List (Nat × α)} {count : Nat}
    (inside : ∀ entry ∈ entries, entry.1 < count) :
    (entries.map Prod.snd).Perm ((List.range count).flatMap (entriesOf · entries)) := by
  induction count generalizing entries with
  | zero =>
    have none : entries = [] := List.eq_nil_iff_forall_not_mem.2 fun entry there =>
      absurd (inside entry there) (Nat.not_lt_zero entry.1)
    rw [none]
    exact .nil
  | succ count others =>
    -- The entries of the last number come last, and the others are those of the numbers before it.
    let early := entries.filter fun entry => decide (entry.1 < count)
    have last : (entries.filter fun entry => !decide (entry.1 < count)).map Prod.snd =
        entriesOf count entries := by
      refine congrArg (List.map Prod.snd) (List.filter_congr fun entry there => ?_)
      have bound := inside entry there
      by_cases here : entry.1 = count
      · simp [here]
      · simp [here, show entry.1 < count by omega]
    have before : (List.range count).flatMap (entriesOf · early) =
        (List.range count).flatMap (entriesOf · entries) := by
      refine List.flatMap_congr fun number small => ?_
      rw [entriesOf, List.filter_filter]
      refine congrArg (List.map Prod.snd) (List.filter_congr fun entry _ => ?_)
      have bound := List.mem_range.1 small
      by_cases here : entry.1 = number
      · simp [here, bound]
      · simp [here]
    have split := (List.filter_append_perm (fun entry => decide (entry.1 < count)) entries).symm.map
      Prod.snd
    rw [List.map_append, last] at split
    rw [List.range_succ, List.flatMap_append, List.flatMap_singleton, ← before]
    exact split.trans ((others fun entry there =>
      of_decide_eq_true (List.mem_filter.1 there).2).append_right _)

namespace History

variable {history : History C Net}

/-- Once all calls have succeeded, their commands are those that were accepted. -/
theorem Orderly.accepted_perm (orderly : history.Orderly)
    (done : ∀ submission ∈ history.submissions, submission.progress = .returned (.ok ())) :
    (history.accepted.map Prod.snd).Perm (history.submissions.map Submission.commands).flatten := by
  have all : (List.range history.submissions.length).map (entriesOf · history.accepted) =
      history.submissions.map Submission.commands := by
    refine List.ext_getElem (by rw [List.length_map, List.length_map, List.length_range]) ?_
    intro call inside inside'
    rw [List.length_map] at inside'
    have contributes := orderly.contributed.contributes (List.getElem?_eq_getElem inside')
    have returned := done _ (List.getElem_mem inside')
    rw [Submission.Contributes, returned] at contributes
    rw [List.getElem_map, List.getElem_map, List.getElem_range]
    exact contributes
  have each := map_snd_perm_entriesOf orderly.contributed.callers
  rwa [List.flatMap_def, all] at each

/-- Once all workers have ended, all calls have succeeded whose commands have names, if none was refused, and
what was sent is what they submitted. -/
theorem Smooth.sent_all (smooth : history.Smooth) (welcoming : history.Welcoming)
    (named : ∀ submission ∈ history.submissions,
      submission.commands.findIdx? Command.isEmpty = none)
    (ended : ∀ worker ∈ history.queue.workers, worker.isAlive = false) :
    (∀ submission ∈ history.submissions, submission.progress = .returned (.ok ())) ∧
      (history.batches.map Prod.snd).flatten.Perm
        (history.submissions.map Submission.commands).flatten := by
  have orderly := smooth.orderly
  have delivered := orderly.delivered ended
  have done : ∀ submission ∈ history.submissions, submission.progress = .returned (.ok ()) := by
    intro submission there
    obtain ⟨call, found⟩ := List.mem_iff_getElem?.1 there
    have welcome := welcoming call submission found (named submission there)
    have holds : submission.holdsChannel = false := by
      by_contra holds
      have unclosed := closed_of_holds found (Bool.not_eq_false _ ▸ holds)
      rw [delivered.closed] at unclosed
      cases unclosed
    rcases submission with ⟨commands, _ | rest | error | ⟨⟩⟩
    · cases holds
    · cases holds
    · exact absurd rfl (welcome error)
    · rfl
  have held : history.queue.workers.flatMap Worker.holding = [] :=
    List.flatMap_eq_nil_iff.2 fun worker there =>
      (orderly.sound.ended there (ended worker there)).2.2
  have conserved := orderly.lossless.conserved
  rw [held, delivered.empty, List.append_nil, List.append_nil] at conserved
  exact ⟨done, conserved.symm.trans (orderly.accepted_perm done)⟩

end History

end Handing

/-! ## What is left to do -/

/-- The most steps that a call can make, with those that its commands are worth to the workers. -/
def Submission.left (submission : Submission) : Nat :=
  match submission.progress with
  | .entered => 5 * submission.commands.length + 2
  | .sending rest => 5 * rest.length + 1
  | .returned _ => 0

/-- Whether an event is a step of a call or of a worker that is under way. -/
def Event.goesOn : Event Net → Bool
  | .proceed _ | .work _ => true
  | .submit _ | .close | .release | .elsewhere _ => false

namespace History

/-- The most steps that the calls and the workers can make. -/
def left (history : History C Net) : Nat :=
  history.queue.stepsLeft + history.submissions.foldr (fun submission steps => submission.left + steps) 0

theorem left_modify {submissions : List Submission} {call : Nat} {submission : Submission}
    (found : submissions[call]? = some submission) (progress : Progress) :
    (submissions.modify call fun submission => { submission with progress }).foldr
        (fun submission steps => submission.left + steps) 0 + submission.left =
      submissions.foldr (fun submission steps => submission.left + steps) 0 +
        Submission.left { submission with progress } := by
  induction submissions generalizing call with
  | nil => cases found
  | cons first others same =>
    cases call with
    | zero =>
      cases found
      simp only [List.modify_zero_cons, List.foldr_cons]
      omega
    | succ call =>
      have rest := same found
      simp only [List.modify_succ_cons, List.foldr_cons]
      omega

variable {history : History C Net}

theorem stepsLeft_send {queue queue' : Queue C} {command : Command}
    (sends : queue.send command = .ok queue') : queue'.stepsLeft = queue.stepsLeft + 4 := by
  obtain ⟨running, running?, -, rfl⟩ := send_ok sends
  rw [stepsLeft, stepsLeft, running?]
  simp only [Option.map_some, Option.getD_some, Running.steps, List.length_append,
    List.length_singleton]
  omega

theorem stepsLeft_sync (history : History C Net) :
    history.sync.queue.stepsLeft = history.queue.stepsLeft := by
  rcases history with ⟨⟨config, logger, seed, _ | running, log⟩, world⟩ <;> rfl

/-- A call that goes on has less left to do, even with what it adds to the work of the workers. -/
theorem left_proceeds {queue : Queue C} {call : Nat} {submission : Submission} {progress : Progress}
    {sent : List Command} (found : history.submissions[call]? = some submission)
    (proceeds : submission.Proceeds history.queue progress queue sent)
    (accepted : List (Nat × Command)) :
    ({ history with queue, accepted }.advance call progress).left < history.left := by
  have calls := left_modify found progress
  have workers : ({ history with queue, accepted }.advance call progress).queue.stepsLeft =
      queue.stepsLeft := stepsLeft_sync _
  have fewer : queue.stepsLeft + Submission.left { submission with progress } <
      history.queue.stepsLeft + submission.left := by
    rcases submission with ⟨commands, progress'⟩
    cases proceeds with
    | refused enters | admitted enters =>
      cases enters
      simp only [Submission.left]
      omega
    | returns done =>
      cases done
      simp only [Submission.left]
      omega
    | abandoned goesOn =>
      cases goesOn
      simp only [Submission.left]
      omega
    | sends goesOn room sends =>
      cases goesOn
      simp only [Submission.left, stepsLeft_send sends, List.length_cons]
      omega
  rw [left, workers, left]
  change queue.stepsLeft + (history.submissions.modify call _).foldr _ 0 < _
  omega

variable [Connection C Net]

/-- A worker that goes on leaves less to do. -/
theorem left_work {index : Nat} {queue : Queue C} {world : World Net}
    (moves : history.queue.move index history.world = some (queue, world)) :
    (history.step (.work index)).left < history.left := by
  have fewer := stepsLeft_move moves
  simp only [History.step, moves, left]
  omega

omit [Connection C Net] in
theorem holder_of_released (released : history.gate = .released) (unclosed : ¬ history.closed = true) :
    ∃ (call : Nat) (submission : Submission), history.submissions[call]? = some submission ∧
      submission.holdsChannel = true := by
  have held : history.submissions.any Submission.holdsChannel = true := by
    rw [closed, released] at unclosed
    simpa using unclosed
  obtain ⟨submission, member, holds⟩ := List.any_eq_true.1 held
  obtain ⟨call, found⟩ := List.mem_iff_getElem?.1 member
  exact ⟨call, submission, found, holds⟩

/-- A call or a worker can go on, which leaves less to do. -/
def GoesOn (history : History C Net) : Prop :=
  ∃ event : Event Net, event.goesOn = true ∧ (history.step event).left < history.left

theorem goesOn_of_not_resting (stuck : ¬ history.queue.Resting) : history.GoesOn := by
  rcases moves : history.queue.moveAny history.world with _ | ⟨queue, world⟩
  · exact absurd (resting_of_moveAny moves) stuck
  · obtain ⟨index, moves⟩ := moveAny_some moves
    exact ⟨.work index, rfl, left_work moves⟩

theorem goesOn_of_proceeds {queue : Queue C} {call : Nat} {submission : Submission}
    {progress : Progress} {sent : List Command} (found : history.submissions[call]? = some submission)
    (proceeds : submission.Proceeds history.queue progress queue sent)
    (leaves : history.step (.proceed call) =
      { history with queue, accepted := history.accepted ++ sent.map (call, ·) }.advance call progress) :
    history.GoesOn := by
  refine ⟨.proceed call, rfl, ?_⟩
  rw [leaves]
  exact left_proceeds found proceeds _

/-- While a worker is left, a call that holds on to the channel can go on, or the worker can. -/
theorem Orderly.goesOn_of_holder (orderly : history.Orderly) {worker : Worker C}
    (there : worker ∈ history.queue.workers) (alive : worker.isAlive = true) {call : Nat}
    {submission : Submission} (found : history.submissions[call]? = some submission)
    (holds : submission.holdsChannel = true) : history.GoesOn := by
  obtain ⟨sound, synced, -⟩ := orderly
  have noneSent : history.accepted ++ ([] : List Command).map (call, ·) = history.accepted :=
    List.append_nil history.accepted
  rcases submission with ⟨commands, _ | rest | result⟩
  · rcases named : commands.findIdx? Command.isEmpty with _ | index
    · refine goesOn_of_proceeds found (.admitted rfl named) ?_
      simp only [History.step, found, named, noneSent]
    · refine goesOn_of_proceeds found (.refused rfl named) ?_
      simp only [History.step, found, named, noneSent]
  · rcases rest with _ | ⟨command, rest⟩
    · refine goesOn_of_proceeds found (.returns rfl) ?_
      simp only [History.step, found, noneSent]
    · have opened : history.queue.closing = false := synced.trans (closed_of_holds found holds)
      obtain ⟨queue, sends⟩ := sound.sends opened command
      by_cases room : history.queue.length < history.queue.config.queueSize
      · refine goesOn_of_proceeds found (.sends rfl room sends) ?_
        simp only [History.step, found, sends, if_pos room]
        rfl
      · -- The channel is full, so that the worker that is left finds something in it.
        refine goesOn_of_not_resting fun resting => room ?_
        rw [length_eq_length_channel, (resting worker there alive).1]
        exact (Config.pos_of_check sound.valid).1
  · cases holds

/-- While a worker is left, a call or a worker can go on, once the queue has let go of the channel. -/
theorem Orderly.goes_on (orderly : history.Orderly) (released : history.gate = .released)
    {worker : Worker C} (there : worker ∈ history.queue.workers) (alive : worker.isAlive = true) :
    history.GoesOn := by
  by_cases closed : history.closed = true
  · refine goesOn_of_not_resting fun resting => ?_
    have opened := (resting worker there alive).2
    rw [orderly.synced, closed] at opened
    cases opened
  · obtain ⟨call, submission, found, holds⟩ := holder_of_released released closed
    exact orderly.goesOn_of_holder there alive found holds

/-- Once a queue has let go of its channel, its calls and workers can bring the session to an end. -/
theorem Smooth.comes_to_end (smooth : history.Smooth) (calm : Connection.Calm C)
    (released : history.gate = .released) :
    ∃ events : List (Event Net), (∀ event ∈ events, event.goesOn = true) ∧
      ∀ worker ∈ (history.run events).queue.workers, worker.isAlive = false := by
  -- By induction on what is left to do, which the next event lowers.
  induction steps : history.left using Nat.strong_induction_on generalizing history with
  | _ steps ends =>
    by_cases ended : ∀ worker ∈ history.queue.workers, worker.isAlive = false
    · exact ⟨[], List.forall_mem_nil _, ended⟩
    · obtain ⟨worker, there, alive⟩ : ∃ worker ∈ history.queue.workers, worker.isAlive = true := by
        simpa using ended
      obtain ⟨event, goesOn, fewer⟩ := smooth.orderly.goes_on released there alive
      have sameGate : (history.step event).gate = history.gate :=
        gate_step (fun closes => by cases closes; cases goesOn) fun releases => by
          cases releases; cases goesOn
      obtain ⟨events, allGoOn, ended'⟩ :=
        ends _ (steps ▸ fewer) (smooth.step calm event) (sameGate.trans released) rfl
      exact ⟨event :: events, List.forall_mem_cons.2 ⟨goesOn, allGoOn⟩, ended'⟩

end History

/-! ## Sessions of one user -/

/-- The commands of the call that begins with an event. -/
def Event.submitted? : Event Net → Option (List Command)
  | .submit commands => some commands
  | .proceed _ | .close | .release | .work _ | .elsewhere _ => none

/-- The events of a queue whose user makes calls that submit these commands, and then closes it. The calls and the
workers go on in any order. -/
inductive UsedFor (requests : List (List Command)) : List (Event Net) → Prop where
  | closes {before after : List (Event Net)} (own : ∀ event ∈ before ++ after, event.isOwn = true)
    (submits : before.filterMap Event.submitted? = requests) (unclosed : .close ∉ before)
    (noMore : after.filterMap Event.submitted? = []) : UsedFor requests (before ++ .close :: after)

theorem UsedFor.submitted {requests : List (List Command)} {events : List (Event Net)}
    (used : UsedFor requests events) : events.filterMap Event.submitted? = requests := by
  cases used with
  | closes own submits unclosed noMore =>
    rw [List.filterMap_append, List.filterMap_cons, submits]
    simp only [Event.submitted?, noMore, List.append_nil]

theorem UsedFor.isOwn {requests : List (List Command)} {events : List (Event Net)}
    (used : UsedFor requests events) : ∀ event ∈ events, event.isOwn = true := by
  cases used with
  | closes own =>
    obtain ⟨first, last⟩ := List.forall_mem_append.1 own
    exact List.forall_mem_append.2 ⟨first, List.forall_mem_cons.2 ⟨rfl, last⟩⟩

namespace History

variable [Connection C Net] {history : History C Net}

theorem submissions_step (history : History C Net) (event : Event Net) :
    (history.step event).submissions.map Submission.commands =
      history.submissions.map Submission.commands ++ event.submitted?.toList := by
  cases event with
  | submit commands => exact List.map_append
  | proceed call =>
    rcases history.proceed_cases call with
      stays | ⟨submission, progress, queue, sent, -, -, out⟩
    · rw [stays]
      exact (List.append_nil _).symm
    · have same : (history.submissions.modify call fun submission =>
          { submission with progress }).map Submission.commands =
          history.submissions.map Submission.commands := by
        refine List.ext_getElem? fun place => ?_
        rw [List.getElem?_map, List.getElem?_map, List.getElem?_modify, Option.map_eq_map, Option.map_map]
        refine Option.map_congr fun submission _ => ?_
        rw [Function.comp_apply]
        split <;> rfl
      rw [out]
      exact same.trans (List.append_nil _).symm
  | close | release =>
    rcases history with ⟨queue, world, _ | _ | _, submissions⟩ <;> exact (List.append_nil _).symm
  | work index =>
    rcases moves : history.queue.move index history.world with _ | ⟨queue, world⟩
    · simp only [History.step, moves]
      exact (List.append_nil _).symm
    · simp only [History.step, moves]
      exact (List.append_nil _).symm
  | elsewhere change => exact (List.append_nil _).symm

/-- The calls are those that have begun. -/
theorem submissions_run (history : History C Net) (events : List (Event Net)) :
    (history.run events).submissions.map Submission.commands =
      history.submissions.map Submission.commands ++ events.filterMap Event.submitted? := by
  induction events generalizing history with
  | nil => exact (List.append_nil _).symm
  | cons event later same =>
    rw [show history.run (event :: later) = (history.step event).run later from rfl, same,
      submissions_step, List.append_assoc]
    cases event with
    | submit | proceed | close | release | work | elsewhere => rfl

/-- A queue that has been used can be let go of by its user. -/
theorem gate_of_used (accepting : history.gate = .accepting) {requests : List (List Command)}
    {events : List (Event Net)} (used : UsedFor requests events) :
    ((history.run events).step .release).gate = .released := by
  cases used with
  | @closes before later own submits unclosed noMore =>
    have refusing : ((history.run before).step .close).gate = .refusing := by
      rw [History.step, gate_run accepting unclosed]
    refine gate_release fun accepts => ?_
    rw [run_append] at accepts
    cases refusing.symm.trans (gate_of_run accepts)

/-- No call of its user is refused. -/
theorem Smooth.welcoming_of_used (smooth : history.Smooth) (calm : Connection.Calm C)
    (accepting : history.gate = .accepting) (fresh : history.submissions = [])
    {requests : List (List Command)} {events : List (Event Net)} (used : UsedFor requests events) :
    (history.run events).Welcoming := by
  cases used with
  | @closes before later own submits unclosed noMore =>
    have empty : history.Welcoming := fun call submission found => by
      rw [fresh] at found
      cases found
    have first := empty.run_of_accepting smooth calm (gate_run accepting unclosed)
    have smooth' := smooth.run calm before
    have closed : ((history.run before).step .close).Welcoming :=
      first.step smooth'.orderly fun _ other => by cases other
    have noCalls : ∀ commands, .submit commands ∉ later := by
      intro commands there
      cases List.filterMap_eq_nil_iff.1 noMore _ there
    rw [run_append]
    exact closed.run (smooth'.step calm .close) calm noCalls

/-- Whatever the order in which its calls and its workers go on, a session of one user can come to its end. In the
end all calls have succeeded whose commands have names, and what was sent is what they submitted. -/
theorem Smooth.used (smooth : history.Smooth) (calm : Connection.Calm C)
    (accepting : history.gate = .accepting) (fresh : history.submissions = [])
    {requests : List (List Command)} (named : ∀ commands ∈ requests,
      commands.findIdx? Command.isEmpty = none) {events : List (Event Net)}
    (used : UsedFor requests events) :
    let after := history.run events
    (∃ more : List (Event Net), (∀ event ∈ more, event.goesOn = true) ∧
      ∀ worker ∈ (after.run (.release :: more)).queue.workers, worker.isAlive = false) ∧
    ((∀ worker ∈ after.queue.workers, worker.isAlive = false) →
      (∀ submission ∈ after.submissions, submission.progress = .returned (.ok ())) ∧
      after.submissions.map Submission.commands = requests ∧
      (after.batches.map Prod.snd).flatten.Perm requests.flatten) := by
  intro after
  have smooth' : after.Smooth := smooth.run calm events
  have sameCommands : after.submissions.map Submission.commands = requests := by
    rw [submissions_run, fresh, used.submitted]
    rfl
  refine ⟨(smooth'.step calm .release).comes_to_end calm (gate_of_used accepting used), fun ended => ?_⟩
  have named' : ∀ submission ∈ after.submissions,
      submission.commands.findIdx? Command.isEmpty = none := by
    intro submission there
    refine named submission.commands ?_
    rw [← sameCommands]
    exact List.mem_map_of_mem there
  obtain ⟨done, sent⟩ :=
    smooth'.sent_all (smooth.welcoming_of_used calm accepting fresh used) named' ended
  rw [sameCommands] at sent
  exact ⟨done, sameCommands, sent⟩

end History

end RespClient.Queue
