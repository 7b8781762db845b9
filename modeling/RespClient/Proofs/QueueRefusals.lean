import RespClient.Proofs.QueueEndings

/-!
# Calls that a queue refuses

A call may be told that the queue is closed for two reasons. It begins too late, and then it leaves nothing in
the channel. Or it was let in and finds that no worker is left for its next command. Workers end when the channel
is closed, which a call that holds it prevents; so then all of them have crashed, while the queue may well be
open, and commands of the call may have been taken before.

`History.Accounted` is what holds at every time of a session, whether or not its workers crash.
`refused_late_or_abandoned` is the main statement, and `refused_while_open` a session in which the queue is open and
has taken two commands of the call that it refuses.
-/

namespace RespClient.Queue

variable {C Net : Type}

/-! ## Turns of workers that may crash -/

/-- Whether a worker has seen the channel closed. -/
def Worker.sawClosed (worker : Worker C) : Bool :=
  match worker.phase with
  | .ready _ last => last
  | .stopped => true
  | .waiting | .collecting _ | .crashed _ => false

/-- A worker that is gone has seen the channel closed, or has crashed. -/
theorem Worker.crashed_of_gone {worker : Worker C} (gone : worker.isAlive = false)
    (unseen : worker.sawClosed = false) : worker.crash?.isSome = true := by
  rcases worker with ⟨number, batchSize, connection, phase, batches⟩
  cases phase with
  | waiting | collecting | ready => cases gone
  | stopped => cases unseen
  | crashed => rfl

theorem Worker.gone_of_crashed {worker : Worker C} (crashed : worker.crash?.isSome = true) :
    worker.isAlive = false := by
  rcases worker with ⟨number, batchSize, connection, phase, batches⟩
  cases phase with
  | waiting | collecting | ready | stopped => cases crashed
  | crashed => rfl

/-- All workers have crashed. -/
def Abandoned (queue : Queue C) : Prop := ∀ worker ∈ queue.workers, worker.crash?.isSome = true

/-- A queue without workers that could take a command refuses it, and only then. -/
theorem send_error_iff {queue : Queue C} (isOpen : queue.isOpen = true) {command : Command}
    {error : Error} : queue.send command = .error error ↔
      error = .queueClosed ∧ ∀ worker ∈ queue.workers, worker.isAlive = false := by
  rcases queue with ⟨config, logger, seed, _ | running, workerLog⟩
  · cases isOpen
  · by_cases alive : running.workers.any Worker.isAlive = true
    · obtain ⟨worker, there, left⟩ := List.any_eq_true.1 alive
      simp only [send, if_pos alive]
      constructor
      · intro taken
        cases taken
      · rintro ⟨-, gone⟩
        cases left.symm.trans (gone worker there)
    · have gone : ∀ worker ∈ running.workers, worker.isAlive = false := by
        simpa using alive
      simp only [send, if_neg alive]
      constructor
      · intro refused
        cases refused
        exact ⟨rfl, gone⟩
      · rintro ⟨rfl, -⟩
        rfl

variable [Connection C Net]

/-- What a worker has seen closed was closed when it looked, or it had seen it before. -/
theorem Turn.sawClosed {running : Running C} {worker after : Worker C} {rest taken : List Command}
    {sent : List (List Command)} (turn : Turn running worker after rest taken sent)
    (seen : after.sawClosed = true) : running.closing = true ∨ worker.sawClosed = true := by
  cases turn with
  | @takes command =>
    rcases Worker.gather_cases worker.batchSize (worker.holding ++ [command]) with more | complete
    · rw [more] at seen
      cases seen
    · rw [complete] at seen
      cases seen
  | crashes alive shorter crashed =>
    rcases after with ⟨number, batchSize, connection, phase, batches⟩
    cases phase with
    | crashed => cases seen
    | waiting | collecting | ready | stopped => cases crashed
  | completes => exact Or.inl seen
  | finishes waits nothing closing => exact Or.inl closing
  | performs ready world =>
    obtain ⟨-, ⟨-, waits⟩ | ⟨isLast, -⟩ | ⟨cause, crashed⟩⟩ := Worker.perform_phase ready world
    · rw [Worker.sawClosed, waits] at seen
      cases seen
    · rw [Worker.sawClosed, ready]
      exact Or.inr isLast
    · rw [Worker.sawClosed, crashed] at seen
      cases seen

/-- What a worker takes it takes from the front of the channel, even if it crashes then. The rest is lost if no
worker is left. -/
theorem channel_of_move {index : Nat} {queue queue' : Queue C} {world world' : World Net}
    (moves : queue.move index world = some (queue', world')) :
    ∃ rest, queue.channel = queue.takes index ++ rest ∧
      (queue'.channel = rest ∨
        queue'.channel = [] ∧ ∀ worker ∈ queue'.workers, worker.isAlive = false) := by
  -- What is left of the channel is a matter of whether a worker is left.
  have left (running : Running C) (workers : List (Worker C)) :
      (running.withWorkers workers).channel = running.channel ∨
        (running.withWorkers workers).channel = [] ∧ ∀ worker ∈ workers, worker.isAlive = false := by
    unfold Running.withWorkers
    dsimp only
    split
    · exact Or.inl rfl
    · next gone => exact Or.inr ⟨rfl, by simpa using gone⟩
  obtain ⟨running, worker, running?, there, acts⟩ := move_acts moves
  rw [channel_of_running running?]
  rcases acts with ⟨batch, last, phase, acts⟩ | ⟨finding, rest, finds, acts⟩
  · have takes : queue.takes index = [] := by
      simp only [takes, running?, there, phase, Running.find?]
    cases acts
    rw [takes]
    exact ⟨running.channel, rfl, left _ _⟩
  · have takes : queue.takes index = finding.commands := by
      simp only [takes, running?, there, finds]
    cases acts
    rw [takes]
    refine ⟨rest, ?_, left _ _⟩
    rcases Running.find?_cases finds with ⟨command, rfl, found, -⟩ |
      ⟨nothing, rfl, ⟨-, -, rfl⟩ | ⟨batch, -, rfl⟩⟩
    · exact found
    · exact nothing
    · rw [nothing]
      cases running.closing <;> rfl

/-! ## The invariant -/

namespace History

omit [Connection C Net] in
/-- What a call was told that has returned with the answer that the queue is closed: it began too late, and left
nothing in the channel, or all workers have crashed. -/
def Refused (history : History C Net) (call : Nat) : Prop :=
  (history.gate ≠ .accepting ∧ entriesOf call history.accepted = []) ∨ history.queue.Abandoned

omit [Connection C Net] in
/-- What holds at every time of a session. -/
structure Accounted (history : History C Net) : Prop where
  isOpen : history.queue.isOpen = true
  /-- The workers see that the channel is closed when it is. -/
  synced : history.queue.closing = history.closed
  seen : ∀ worker ∈ history.queue.workers, worker.sawClosed = true → history.queue.closing = true
  /-- What was taken is what was accepted, in the same order, and what is left of that waits, unless it is lost. -/
  inOrder : ∃ rest, history.accepted.map Prod.snd = history.taken.map Prod.snd ++ rest ∧
    (history.queue.channel = rest ∨
      history.queue.channel = [] ∧ ∀ worker ∈ history.queue.workers, worker.isAlive = false)
  callers : ∀ entry ∈ history.accepted, entry.1 < history.submissions.length
  refused : ∀ {call : Nat} {commands : List Command},
    history.submissions[call]? = some ⟨commands, .returned (.error .queueClosed)⟩ →
    history.Refused call

variable {history : History C Net}

omit [Connection C Net] in
/-- Where no worker has seen the channel closed, none is told so by looking again. -/
theorem seen_sync (unseen : ∀ worker ∈ history.queue.workers, worker.sawClosed = false) :
    ∀ worker ∈ history.sync.queue.workers, worker.sawClosed = true →
      history.sync.queue.closing = true := by
  intro worker there seen
  rw [workers_sync] at there
  cases seen.symm.trans (unseen worker there)

omit [Connection C Net] in
theorem Accounted.unseen (accounted : history.Accounted) (opened : history.closed = false) :
    ∀ worker ∈ history.queue.workers, worker.sawClosed = false := by
  intro worker there
  by_contra seen
  have closing := accounted.seen worker there (Bool.of_not_eq_false seen)
  rw [accounted.synced, opened] at closing
  cases closing

omit [Connection C Net] in
/-- What is not in the channel and has not been taken is lost with the last worker. -/
theorem Accounted.send (accounted : history.Accounted) {queue : Queue C} {command : Command}
    (sends : history.queue.send command = .ok queue) (call : Nat) :
    ∃ rest, (history.accepted ++ [(call, command)]).map Prod.snd =
        history.taken.map Prod.snd ++ rest ∧ queue.channel = rest := by
  obtain ⟨running, running?, alive, rfl⟩ := send_ok sends
  obtain ⟨worker, there, alive⟩ := List.any_eq_true.1 alive
  obtain ⟨rest, same, waiting | ⟨-, gone⟩⟩ := accounted.inOrder
  · refine ⟨rest ++ [command], ?_, ?_⟩
    · rw [List.map_append, same, List.append_assoc]
      rfl
    · rw [← waiting, channel_of_running running?]
      rfl
  · rw [workers_of_running running?] at gone
    cases alive.symm.trans (gone worker there)

omit [Connection C Net] in
theorem channel_sync (history : History C Net) :
    history.sync.queue.channel = history.queue.channel := by
  rcases history with ⟨⟨config, logger, seed, _ | running, workerLog⟩, world⟩ <;> rfl

omit [Connection C Net] in
theorem isOpen_sync (history : History C Net) :
    history.sync.queue.isOpen = history.queue.isOpen := by
  rcases history with ⟨⟨config, logger, seed, _ | running, workerLog⟩, world⟩ <;> rfl

/-! ## Steps -/

theorem Accounted.submit (accounted : history.Accounted) (commands : List Command) :
    (history.step (.submit commands)).Accounted where
  isOpen := accounted.isOpen
  synced := accounted.synced.trans (history.closed_submit commands).symm
  seen := accounted.seen
  inOrder := accounted.inOrder
  callers entry there := by
    have before := accounted.callers entry there
    simp only [step, List.length_append]
    omega
  refused {call others} found := by
    simp only [step] at found
    rcases Nat.lt_or_ge call history.submissions.length with old | new
    · rw [List.getElem?_append_left old] at found
      exact accounted.refused found
    · have none : entriesOf call history.accepted = [] :=
        entriesOf_eq_nil fun entry there =>
          Nat.ne_of_lt (Nat.lt_of_lt_of_le (accounted.callers entry there) new)
      rw [List.getElem?_append_right new, List.getElem?_singleton] at found
      split at found
      · refine Or.inl ⟨fun accepting => ?_, none⟩
        rw [show history.gate = .accepting from accepting] at found
        cases found
      · cases found

omit [Connection C Net] in
/-- What a call that goes on puts into the channel is behind all that was put there before. -/
theorem Accounted.inOrder_of_proceeds (accounted : history.Accounted) {submission : Submission}
    {progress : Progress} {queue : Queue C} {sent : List Command}
    (proceeds : submission.Proceeds history.queue progress queue sent) (call : Nat) :
    ∃ rest, (history.accepted ++ sent.map (call, ·)).map Prod.snd =
        history.taken.map Prod.snd ++ rest ∧
      (queue.channel = rest ∨
        queue.channel = [] ∧ ∀ worker ∈ history.queue.workers, worker.isAlive = false) := by
  cases proceeds with
  | refused | admitted | returns | abandoned =>
    rw [List.map_nil, List.append_nil]
    exact accounted.inOrder
  | sends goesOn room sends =>
    obtain ⟨rest, same, waiting⟩ := accounted.send sends call
    exact ⟨rest, same, Or.inl waiting⟩

omit [Connection C Net] in
/-- A call that goes on is refused only if no worker is left, and then all workers have crashed. -/
theorem Accounted.refused_of_proceeds (accounted : history.Accounted)
    (unseen : ∀ worker ∈ history.queue.workers, worker.sawClosed = false) {call : Nat}
    {submission : Submission} {progress : Progress} {queue : Queue C} {sent : List Command}
    (found : history.submissions[call]? = some submission)
    (proceeds : submission.Proceeds history.queue progress queue sent) {other : Nat}
    {commands : List Command}
    (found' : (history.submissions.modify call fun submission => { submission with progress })[other]? =
      some ⟨commands, .returned (.error .queueClosed)⟩) :
    history.gate ≠ .accepting ∧ entriesOf other (history.accepted ++ sent.map (call, ·)) = [] ∨
      history.queue.Abandoned := by
  by_cases same : call = other
  · subst same
    rw [List.getElem?_modify_eq, found] at found'
    cases found'
    cases proceeds with
    | @abandoned command rest error goesOn fails =>
      obtain ⟨-, gone⟩ := (send_error_iff accounted.isOpen).1 fails
      exact Or.inr fun worker there =>
        Worker.crashed_of_gone (gone worker there) (unseen worker there)
  · rw [List.getElem?_modify_ne _ _ same] at found'
    rw [entriesOf_append, entriesOf_other same, List.append_nil]
    exact accounted.refused found'

theorem Accounted.proceed (accounted : history.Accounted) (call : Nat) :
    (history.step (.proceed call)).Accounted := by
  rcases history.proceed_cases call with
    stays | ⟨submission, progress, queue, sent, found, proceeds, out⟩
  · rw [stays]
    exact accounted
  -- The call holds the channel, so that no worker has seen it closed.
  have unseen := accounted.unseen (closed_of_holds found proceeds.holdsChannel)
  have isOpen : queue.isOpen = true := by
    cases proceeds with
    | refused | admitted | returns | abandoned => exact accounted.isOpen
    | sends goesOn room sends =>
      obtain ⟨running, -, -, rfl⟩ := send_ok sends
      rfl
  have inside := (List.getElem?_eq_some_iff.1 found).1
  let before : History C Net := { history with
    queue, accepted := history.accepted ++ sent.map (call, ·)
    submissions := history.submissions.modify call fun submission => { submission with progress } }
  have out' : history.step (.proceed call) = before.sync := out
  have sameWorkers : before.queue.workers = history.queue.workers := workers_proceed proceeds
  rw [out']
  refine ⟨(isOpen_sync before).trans isOpen, closing_sync isOpen, seen_sync ?_, ?_, ?_, ?_⟩
  · rw [sameWorkers]
    exact unseen
  · rw [workers_sync, sameWorkers, channel_sync]
    exact accounted.inOrder_of_proceeds proceeds call
  · have sameLength : before.sync.submissions.length = history.submissions.length :=
      List.length_modify ..
    rw [sameLength]
    exact fst_lt_append accounted.callers inside
  · intro other commands found'
    refine (accounted.refused_of_proceeds unseen found proceeds found').imp_right ?_
    intro all worker there
    rw [workers_sync, sameWorkers] at there
    exact all worker there

theorem Accounted.work (accounted : history.Accounted) (index : Nat) :
    (history.step (.work index)).Accounted := by
  rcases moves : history.queue.move index history.world with _ | ⟨queue, world⟩
  · simp only [History.step, moves]
    exact accounted
  obtain ⟨rest, took, left⟩ := channel_of_move moves
  obtain ⟨isOpen, sameClosing, -⟩ := closing_of_move moves
  obtain ⟨running, worker, after, rest', workerLog, running?, there, turn, acts⟩ := move_cases moves
  have here : history.queue.workers = running.workers := workers_of_running running?
  have workers' : queue.workers = running.workers.set index after := by
    rw [acts]
    rfl
  have member : worker ∈ history.queue.workers := by
    rw [here]
    exact List.mem_of_getElem? there
  simp only [History.step, moves]
  refine ⟨isOpen, sameClosing.trans accounted.synced, ?_, ?_, accounted.callers, ?_⟩
  · intro other there' seen
    change other ∈ queue.workers at there'
    rw [show queue.closing = history.queue.closing from sameClosing]
    rw [workers'] at there'
    rcases List.mem_or_eq_of_mem_set there' with old | rfl
    · exact accounted.seen other (here ▸ old) seen
    · rcases turn.sawClosed seen with closing | before
      · rw [closing_of_running running?, closing]
      · exact accounted.seen worker member before
  · obtain ⟨waiting, same, inChannel | ⟨empty, gone⟩⟩ := accounted.inOrder
    · refine ⟨rest, ?_, left⟩
      rw [List.map_append, map_snd_numbered, List.append_assoc, ← took, inChannel]
      exact same
    · cases turn.alive.symm.trans (gone worker member)
  · intro call commands found
    rcases accounted.refused found with late | all
    · exact Or.inl late
    · -- A worker that has crashed takes no turn.
      cases turn.alive.symm.trans (Worker.gone_of_crashed (all worker member))

/-- Every event keeps the account, whether or not a worker crashes. -/
theorem Accounted.step (accounted : history.Accounted) (event : Event Net) :
    (history.step event).Accounted := by
  cases event with
  | submit commands => exact accounted.submit commands
  | proceed call => exact accounted.proceed call
  | close =>
    rcases history with ⟨queue, world, _ | _ | _, submissions⟩
    · exact { accounted with
        refused := fun found => (accounted.refused found).imp_left fun late => ⟨nofun, late.2⟩ }
    · exact accounted
    · exact accounted
  | release =>
    rcases history with ⟨queue, world, _ | _ | _, submissions, accepted, taken, batches⟩
    · exact accounted
    · let released : History C Net :=
        { queue, world, gate := .released, submissions, accepted, taken, batches }
      change released.sync.Accounted
      refine ⟨(isOpen_sync released).trans accounted.isOpen, closing_sync accounted.isOpen,
        seen_sync (accounted.unseen rfl), ?_, accounted.callers, fun found => ?_⟩
      · rw [channel_sync, workers_sync]
        exact accounted.inOrder
      · refine (accounted.refused found).imp (fun late => ⟨nofun, late.2⟩) fun all worker there => ?_
        rw [workers_sync] at there
        exact all worker there
    · exact accounted
  | work index => exact accounted.work index
  | elsewhere change => exact { accounted with }

theorem Accounted.run (accounted : history.Accounted) (events : List (Event Net)) :
    (history.run events).Accounted := by
  induction events generalizing history with
  | nil => exact accounted
  | cons event later more => exact more (accounted.step event)

theorem accounted_of_start {queue opened : Queue C} {world world' : World Net}
    (starts : queue.start world = (.ok (), opened, world')) :
    ({ queue := opened, world := world' } : History C Net).Accounted := by
  obtain ⟨sound, synced, -⟩ := orderly_of_start starts
  refine ⟨sound.isOpen, synced, ?_, ⟨_, sound.conserved, Or.inl rfl⟩, List.forall_mem_nil _, nofun⟩
  intro worker there seen
  have sound' := sound.workers worker there
  rcases worker with ⟨number, batchSize, connection, phase, batches⟩
  cases phase with
  | waiting | collecting | crashed => cases seen
  | ready batch last => exact (sound'.2.2.2 seen).1
  | stopped => exact sound'.2.1

/-- A call that has commands left is refused when it goes on and all workers have crashed. -/
theorem Accounted.refuses (accounted : history.Accounted) (abandoned : history.queue.Abandoned)
    {call : Nat} {commands rest : List Command} {command : Command}
    (found : history.submissions[call]? = some ⟨commands, .sending (command :: rest)⟩) :
    (history.step (.proceed call)).submissions[call]? =
        some ⟨commands, .returned (.error .queueClosed)⟩ ∧
      (history.step (.proceed call)).gate = history.gate := by
  have fails : history.queue.send command = .error .queueClosed :=
    (send_error_iff accounted.isOpen).2
      ⟨rfl, fun worker there => Worker.gone_of_crashed (abandoned worker there)⟩
  simp only [History.step, found, fails]
  refine ⟨?_, rfl⟩
  change (history.submissions.modify call _)[call]? = _
  rw [List.getElem?_modify_eq, found]
  rfl

end History

/-! ## Main statement -/

/-- **When a call is told that the queue is closed.** Take any session, whether or not connections fail or crash
in it, and any time. What was taken from the channel is what was put into it, in the same order. If a call was told
that the queue is closed then the queue had been told to close, and still has, and nothing of the call was put into
the channel; or all workers have crashed. So where a worker is left that has not, the answer means what it says.
Where none is, every call that has commands left is refused when it goes on, even while the queue is open. -/
theorem refused_late_or_abandoned {queue opened : Queue C} {world world' : World Net}
    (starts : queue.start world = (.ok (), opened, world')) (events : List (Event Net)) :
    let history := ({ queue := opened, world := world' } : History C Net).run events
    history.taken.map Prod.snd <+: history.accepted.map Prod.snd ∧
    (∀ (call : Nat) (commands : List Command),
      history.submissions[call]? = some ⟨commands, .returned (.error .queueClosed)⟩ →
      history.gate ≠ .accepting ∧ entriesOf call history.accepted = [] ∨
        ∀ worker ∈ history.queue.workers, worker.crash?.isSome = true) ∧
    ((∃ worker ∈ history.queue.workers, worker.crash? = none) →
      ∀ (call : Nat) (commands : List Command),
      history.submissions[call]? = some ⟨commands, .returned (.error .queueClosed)⟩ →
      history.gate ≠ .accepting ∧ entriesOf call history.accepted = []) ∧
    ((∀ worker ∈ history.queue.workers, worker.crash?.isSome = true) →
      ∀ (call : Nat) (commands rest : List Command) (command : Command),
      history.submissions[call]? = some ⟨commands, .sending (command :: rest)⟩ →
      (history.step (.proceed call)).submissions[call]? =
          some ⟨commands, .returned (.error .queueClosed)⟩ ∧
        (history.step (.proceed call)).gate = history.gate) := by
  intro history
  have accounted : history.Accounted := (History.accounted_of_start starts).run events
  refine ⟨?_, fun call commands => accounted.refused, ?_, ?_⟩
  · obtain ⟨rest, same, -⟩ := accounted.inOrder
    exact ⟨rest, same.symm⟩
  · rintro ⟨worker, there, calm⟩ call commands found
    rcases accounted.refused found with late | abandoned
    · exact late
    · have crashed := abandoned worker there
      rw [calm] at crashed
      cases crashed
  · intro abandoned call commands rest command found
    exact accounted.refuses abandoned found

/-- One of two workers crashes, and a call comes too late. -/
theorem refused_late_or_abandoned_instance :
    let seed : Scripted.Session :=
      { number := 0, address := "127.0.0.1:6379", script := { crashOn := some "BOOM" } }
    let queue : Queue Scripted.Session :=
      { config := ⟨2, 2, 1⟩, logger := some .keep, seed := some seed }
    let world : World Scripted.Stage := ⟨{ scripts := [], created := 1 }, #[]⟩
    let started := (queue.start world).2
    let get : Command := { name := "GET", args := [] }
    let events : List (Event Scripted.Stage) :=
      [.submit [{ name := "BOOM", args := [] }], .proceed 0, .proceed 0, .proceed 0, .work 0, .work 0,
        .close, .submit [get]]
    let history := ({ queue := started.1, world := started.2 } : History _ _).run events
    queue.start world = (.ok (), started) ∧
    history.queue.workers.map (·.crash?.isSome) = [true, false] ∧
    history.submissions[1]? = some ⟨[get], .returned (.error .queueClosed)⟩ ∧
    history.gate ≠ .accepting ∧ entriesOf 1 history.accepted = [] := by
  intro seed queue world started get events history
  have starts : queue.start world = (.ok (), started.1, started.2) := rfl
  have crashed : history.queue.workers.map (·.crash?.isSome) = [true, false] := by
    dsimp +zetaDelta only
    decide +kernel
  have left : ∃ worker ∈ history.queue.workers, worker.crash? = none := by
    have calm : false ∈ history.queue.workers.map (·.crash?.isSome) := by
      rw [crashed]
      exact List.mem_cons_of_mem true List.mem_cons_self
    obtain ⟨worker, there, calm⟩ := List.mem_map.1 calm
    exact ⟨worker, there, Option.not_isSome_iff_eq_none.1 (ne_true_of_eq_false calm)⟩
  have refused : history.submissions[1]? = some ⟨[get], .returned (.error .queueClosed)⟩ := rfl
  obtain ⟨-, -, late, -⟩ := refused_late_or_abandoned starts events
  exact ⟨starts, crashed, refused, late left 1 [get] refused⟩

/-- The only worker crashes while a call waits for room, with the second of its commands. The queue is open, and the
first command has been sent. -/
theorem refused_while_open :
    let seed : Scripted.Session :=
      { number := 0, address := "127.0.0.1:6379", script := { crashOn := some "BOOM" } }
    let queue : Queue Scripted.Session :=
      { config := ⟨1, 1, 1⟩, logger := some .keep, seed := some seed }
    let world : World Scripted.Stage := ⟨{ scripts := [], created := 1 }, #[]⟩
    let started := queue.start world
    let commands : List Command :=
      [{ name := "GET", args := [utf8 "a"] }, { name := "BOOM", args := [] },
        { name := "GET", args := [utf8 "b"] }, { name := "GET", args := [utf8 "c"] }]
    let out := submit commands started.2.1 started.2.2
    started.1 = .ok () ∧ (∀ command ∈ commands, command.isEmpty = false) ∧
    out.1 = .error .queueClosed ∧ out.2.1.isOpen = true ∧
    Scripted.Act.send 1 "GET" [utf8 "a"] ∈ out.2.2.net.acts.toList := by
  dsimp only
  decide +kernel

end RespClient.Queue
