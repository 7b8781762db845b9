import Mathlib.Data.List.Perm.Basic
import RespClient.Proofs.QueueRun

/-!
# What becomes of commands in a queue

`History.Sound` is the invariant of sessions without crashes. It says that the commands that were
accepted are those that were taken, in the same order, and then those in the channel, and that each
worker has sent, or is about to send, what it took, in that order. A worker that has ended, or will
end with its batch, saw the channel closed and empty, and both remain.

`History.Contributed` says what each call has put into the channel: its commands up to the one that
it sends next, all of them, or none if it was refused.
-/

namespace RespClient.Queue

variable {C Net : Type}

/-! ## Numbered entries -/

/-- The entries with a number, in order. -/
def entriesOf {α : Type} (number : Nat) (entries : List (Nat × α)) : List α :=
  (entries.filter fun entry => entry.1 = number).map Prod.snd

section Entries

variable {α : Type} {number other : Nat} {entries more : List (Nat × α)} {values : List α}

theorem entriesOf_append :
    entriesOf number (entries ++ more) = entriesOf number entries ++ entriesOf number more := by
  rw [entriesOf, List.filter_append, List.map_append]
  rfl

theorem map_snd_numbered : (values.map (number, ·)).map Prod.snd = values := by
  rw [List.map_map]
  exact List.map_id values

theorem entriesOf_same : entriesOf number (values.map (number, ·)) = values := by
  induction values with
  | nil => rfl
  | cons value rest same =>
    have here : decide (number = number) = true := decide_eq_true rfl
    rw [List.map_cons, entriesOf, List.filter_cons, if_pos here]
    exact congrArg (value :: ·) same

theorem entriesOf_other (different : number ≠ other) :
    entriesOf other (values.map (number, ·)) = [] := by
  induction values with
  | nil => rfl
  | cons value rest none =>
    have elsewhere : ¬ decide (number = other) = true := by simpa using different
    rw [List.map_cons, entriesOf, List.filter_cons, if_neg elsewhere]
    exact none

theorem entriesOf_eq_nil (none : ∀ entry ∈ entries, entry.1 ≠ number) :
    entriesOf number entries = [] := by
  rw [entriesOf, List.map_eq_nil_iff, List.filter_eq_nil_iff]
  exact fun entry there => by simpa using none entry there

theorem entriesOf_eq_map (all : ∀ entry ∈ entries, entry.1 = number) :
    entriesOf number entries = entries.map Prod.snd := by
  rw [entriesOf, List.filter_eq_self.2]
  exact fun entry there => decide_eq_true (all entry there)

theorem entriesOf_sublist : (entriesOf number entries).Sublist (entries.map Prod.snd) :=
  List.filter_sublist.map Prod.snd

theorem fst_lt_append {bound : Nat} (before : ∀ entry ∈ entries, entry.1 < bound)
    (inside : number < bound) : ∀ entry ∈ entries ++ values.map (number, ·), entry.1 < bound := by
  intro entry there
  rcases List.mem_append.1 there with old | new
  · exact before entry old
  · obtain ⟨value, -, rfl⟩ := List.mem_map.1 new
    exact inside

end Entries

/-! ## The invariant -/

/-- What holds of a worker by what it is doing, given the size of its batches, whether the channel is
closed, and what is in it. -/
def Worker.Sound (worker : Worker C) (batchSize : Nat) (closing : Bool) (channel : List Command) :
    Prop :=
  worker.batchSize = batchSize ∧
  match worker.phase with
  | .waiting => True
  | .collecting batch => batch ≠ [] ∧ batch.length < batchSize
  | .ready batch last =>
    batch ≠ [] ∧ batch.length ≤ batchSize ∧ (last = true → closing = true ∧ channel = [])
  | .stopped => closing = true ∧ channel = []
  | .crashed _ => False

/-- What holds at every time of a session without crashes. -/
structure History.Sound (history : History C Net) : Prop where
  isOpen : history.queue.isOpen = true
  valid : history.queue.config.check = .ok ()
  staff : history.queue.workers.length = history.queue.config.workers
  room : history.queue.channel.length ≤ history.queue.config.queueSize
  conserved : history.accepted.map Prod.snd =
    history.taken.map Prod.snd ++ history.queue.channel
  balanced : (history.taken.map Prod.snd).Perm
    ((history.batches.map Prod.snd).flatten ++ history.queue.workers.flatMap Worker.holding)
  handled : ∀ {index : Nat} {worker : Worker C}, history.queue.workers[index]? = some worker →
    entriesOf index history.taken =
      (entriesOf index history.batches).flatten ++ worker.holding
  takers : ∀ entry ∈ history.taken, entry.1 < history.queue.workers.length
  senders : ∀ entry ∈ history.batches, entry.1 < history.queue.workers.length
  filled : ∀ entry ∈ history.batches,
    entry.2 ≠ [] ∧ entry.2.length ≤ history.queue.config.batchSize
  workers : ∀ worker ∈ history.queue.workers, worker.Sound history.queue.config.batchSize
    history.queue.closing history.queue.channel

/-- What a call has put into the channel so far. -/
def Submission.Contributes (submission : Submission) (sent : List Command) : Prop :=
  match submission.progress with
  | .entered => sent = []
  | .sending rest => sent ++ rest = submission.commands
  | .returned (.ok ()) => sent = submission.commands
  | .returned (.error error) => sent = [] ∧ (error = .queueClosed ∨
      ∃ index, submission.commands.findIdx? Command.isEmpty = some index ∧
        error = .emptyCommand index)

/-- What is known of the calls of a session without crashes. -/
structure History.Contributed (history : History C Net) : Prop where
  contributes : ∀ {call : Nat} {submission : Submission},
    history.submissions[call]? = some submission →
    submission.Contributes (entriesOf call history.accepted)
  callers : ∀ entry ∈ history.accepted, entry.1 < history.submissions.length

/-! ## Turns of workers -/

theorem Worker.Sound.mono {worker : Worker C} {batchSize : Nat} {closing closing' : Bool}
    {channel channel' : List Command} (sound : worker.Sound batchSize closing channel)
    (keeps : closing = true → channel = [] → closing' = true ∧ channel' = []) :
    worker.Sound batchSize closing' channel' := by
  rcases worker with ⟨number, size, connection, phase, batches⟩
  cases phase with
  | waiting => exact sound
  | collecting batch => exact sound
  | ready batch last =>
    obtain ⟨sameSize, nonempty, bound, ends⟩ := sound
    exact ⟨sameSize, nonempty, bound, fun isLast => keeps (ends isLast).1 (ends isLast).2⟩
  | stopped =>
    obtain ⟨sameSize, closed, empty⟩ := sound
    exact ⟨sameSize, keeps closed empty⟩
  | crashed cause => exact sound.2.elim

theorem Worker.Sound.holding_le {worker : Worker C} {batchSize : Nat} {closing : Bool}
    {channel : List Command} (sound : worker.Sound batchSize closing channel) :
    worker.holding.length ≤ batchSize := by
  rcases worker with ⟨number, size, connection, phase, batches⟩
  cases phase with
  | waiting | stopped | crashed => exact Nat.zero_le batchSize
  | collecting batch => exact Nat.le_of_lt sound.2.2
  | ready batch last => exact sound.2.2.1

/-- A batch that still has room after a command was added is collected further. -/
theorem Worker.gather_sound {worker : Worker C} {batchSize : Nat} (closing : Bool)
    (channel : List Command) {batch : List Command} (sameSize : worker.batchSize = batchSize)
    (nonempty : batch ≠ []) (bound : batch.length ≤ batchSize) :
    { worker with phase := Worker.gather worker.batchSize batch }.Sound batchSize closing channel ∧
      { worker with phase := Worker.gather worker.batchSize batch }.holding = batch ∧
      { worker with phase := Worker.gather worker.batchSize batch }.isAlive = true := by
  unfold gather
  split
  · next below =>
    rw [sameSize] at below
    exact ⟨⟨sameSize, nonempty, below⟩, rfl, rfl⟩
  · exact ⟨⟨sameSize, nonempty, bound, nofun⟩, rfl, rfl⟩

variable [Connection C Net]

/-- What a worker takes it holds, and what it sends it held. -/
theorem Turn.effect {running : Running C} {worker after : Worker C} {rest taken : List Command}
    {sent : List (List Command)} {batchSize : Nat} (turn : Turn running worker after rest taken sent)
    (positive : 0 < batchSize)
    (sound : worker.Sound batchSize running.closing running.channel)
    (calm : after.crash? = none) :
    running.channel = taken ++ rest ∧
    worker.holding ++ taken = sent.flatten ++ after.holding ∧
    (∀ batch ∈ sent, batch ≠ [] ∧ batch.length ≤ batchSize) ∧
    after.Sound batchSize running.closing rest ∧
    (after.isAlive = true ∨ rest = []) := by
  cases turn with
  | @takes command rest there gathers =>
    have fits : (worker.holding ++ [command]).length ≤ batchSize := by
      rw [List.length_append, List.length_singleton]
      rcases gathers with waits | ⟨batch, collects⟩
      · have none : worker.holding.length = 0 := by rw [Worker.holding, waits]; rfl
        omega
      · have below : worker.holding.length < batchSize := by
          rw [Worker.Sound, collects] at sound
          rw [Worker.holding, collects]
          exact sound.2.2
        omega
    have nonempty : worker.holding ++ [command] ≠ [] := List.concat_ne_nil command worker.holding
    obtain ⟨sound', holds, alive⟩ :=
      Worker.gather_sound running.closing rest sound.1 nonempty fits
    exact ⟨there, holds.symm, List.forall_mem_nil _, sound', Or.inl alive⟩
  | crashes alive shorter crashed =>
    rw [calm] at crashed
    cases crashed
  | @completes batch collects nothing =>
    rw [Worker.Sound, collects] at sound
    have holds : worker.holding = batch := by rw [Worker.holding, collects]
    refine ⟨nothing, ?_, List.forall_mem_nil _, ?_, Or.inl rfl⟩
    · rw [holds, List.append_nil]
      rfl
    · exact ⟨sound.1, sound.2.1, Nat.le_of_lt sound.2.2, fun isLast => ⟨isLast, rfl⟩⟩
  | finishes waits nothing closing world =>
    have holds : worker.holding = [] := by rw [Worker.holding, waits]
    refine ⟨nothing, ?_, List.forall_mem_nil _, ⟨sound.1, closing, rfl⟩, Or.inr rfl⟩
    rw [holds]
    rfl
  | @performs batch last ready world =>
    rw [Worker.Sound, ready] at sound
    obtain ⟨sameSize, nonempty, bound, ends⟩ := sound
    have holds : worker.holding = batch := by rw [Worker.holding, ready]
    obtain ⟨sameSize', phase⟩ := Worker.perform_phase ready world
    have size := sameSize'.trans sameSize
    have fits : ∀ sent ∈ [batch], sent ≠ [] ∧ sent.length ≤ batchSize := by
      intro sent there
      rw [List.mem_singleton.1 there]
      exact ⟨nonempty, bound⟩
    rcases phase with ⟨-, waits⟩ | ⟨isLast, stopped⟩ | ⟨cause, crashed⟩
    · have holds' : (worker.perform world).1.holding = [] := by rw [Worker.holding, waits]
      refine ⟨rfl, ?_, fits, ?_, Or.inl ?_⟩
      · rw [holds, holds', List.flatten_singleton]
      · rw [Worker.Sound, waits]
        exact ⟨size, trivial⟩
      · rw [Worker.isAlive, waits]
    · have holds' : (worker.perform world).1.holding = [] := by rw [Worker.holding, stopped]
      refine ⟨rfl, ?_, fits, ?_, Or.inr (ends isLast).2⟩
      · rw [holds, holds', List.flatten_singleton]
      · rw [Worker.Sound, stopped]
        exact ⟨size, ends isLast⟩
    · rw [Worker.crash?, crashed] at calm
      cases calm

/-! ## Steps of sessions -/

section Lists

variable {α β : Type}

theorem flatMap_perm_eraseIdx {elements : List α} {index : Nat} {element : α}
    (there : elements[index]? = some element) (f : α → List β) :
    (elements.flatMap f).Perm (f element ++ (elements.eraseIdx index).flatMap f) := by
  obtain ⟨inside, rfl⟩ := List.getElem?_eq_some_iff.1 there
  exact ((List.getElem_cons_eraseIdx_perm inside).flatMap_right f).symm

theorem flatMap_set_perm_eraseIdx {elements : List α} {index : Nat} {element : α}
    (there : elements[index]? = some element) (new : α) (f : α → List β) :
    ((elements.set index new).flatMap f).Perm (f new ++ (elements.eraseIdx index).flatMap f) :=
  (List.set_perm_cons_eraseIdx (List.getElem?_eq_some_iff.1 there).1 new).flatMap_right f

open scoped List in
/-- What all elements hold, if one of them takes something, passes something on, and keeps the
rest. -/
theorem flatMap_set_perm {elements : List α} {index : Nat} {element new : α} {f : α → List β}
    {taken passed : List β} (there : elements[index]? = some element)
    (holding : f element ++ taken = passed ++ f new) :
    (elements.flatMap f ++ taken).Perm (passed ++ (elements.set index new).flatMap f) := by
  let others := (elements.eraseIdx index).flatMap f
  calc elements.flatMap f ++ taken
    _ ~ f element ++ others ++ taken := (flatMap_perm_eraseIdx there f).append_right taken
    _ ~ f element ++ taken ++ others := by
      rw [List.append_assoc, List.append_assoc]
      exact List.perm_append_comm.append_left _
    _ = passed ++ (f new ++ others) := by rw [holding, List.append_assoc]
    _ ~ passed ++ (elements.set index new).flatMap f :=
      (flatMap_set_perm_eraseIdx there new f).symm.append_left passed

end Lists

namespace History

variable {history : History C Net}

omit [Connection C Net] in
/-- While a call holds the channel, the channel is not closed. -/
theorem closed_of_holds {call : Nat} {submission : Submission}
    (found : history.submissions[call]? = some submission)
    (holds : submission.holdsChannel = true) : history.closed = false := by
  have some : history.submissions.any Submission.holdsChannel = true :=
    List.any_eq_true.2 ⟨submission, List.mem_of_getElem? found, holds⟩
  rw [closed, some, Bool.not_true, Bool.and_false]

omit [Connection C Net] in
/-- The workers may see that the channel is closed, if those that saw it before still do. -/
theorem Sound.sync (sound : history.Sound)
    (stays : history.queue.closing = true → history.closed = true) : history.sync.Sound := by
  rcases history with ⟨⟨config, logger, seed, _ | running, workerLog⟩, world⟩
  · exact sound
  · exact { sound with
      workers := fun worker there => (sound.workers worker there).mono
        fun closing empty => ⟨stays closing, empty⟩ }

omit [Connection C Net] in
/-- A command that is put into the channel comes last. -/
theorem Sound.send (sound : history.Sound) (opened : history.queue.closing = false)
    (room : history.queue.length < history.queue.config.queueSize) {queue : Queue C}
    {command : Command} (sends : history.queue.send command = .ok queue) (call : Nat) :
    { history with queue, accepted := history.accepted ++ [(call, command)] }.Sound := by
  obtain ⟨running, running?, -, rfl⟩ := send_ok sends
  rcases history with ⟨⟨config, logger, seed, run, workerLog⟩, world, gate, submissions⟩
  cases running?
  have longer : (running.channel ++ [command]).length ≤ config.queueSize := by
    rw [List.length_append]
    exact room
  exact { sound with
    room := longer
    conserved := by
      have before := sound.conserved
      rw [List.map_append, before, List.append_assoc]
      rfl
    workers := fun worker there => (sound.workers worker there).mono
      fun closing _ => by rw [opened] at closing; cases closing }

omit [Connection C Net] in
theorem Sound.batchSize_pos (sound : history.Sound) : 0 < history.queue.config.batchSize :=
  (Config.pos_of_check sound.valid).2.2

omit [Connection C Net] in
theorem Sound.workers_pos (sound : history.Sound) : 0 < history.queue.config.workers :=
  (Config.pos_of_check sound.valid).2.1

omit [Connection C Net] in
/-- The channel is not emptied while a worker is left. -/
theorem channel_withWorkers (running : Running C) {workers : List (Worker C)} {index : Nat}
    {worker : Worker C} (there : workers[index]? = some worker)
    (left : worker.isAlive = true ∨ running.channel = []) :
    (running.withWorkers workers).channel = running.channel := by
  unfold Running.withWorkers
  dsimp only
  rcases left with alive | empty
  · rw [if_pos (List.any_eq_true.2 ⟨worker, List.mem_of_getElem? there, alive⟩)]
  · rw [empty, ite_self]

/-- What a worker took it took from the channel, and holds it until it is sent. -/
theorem Sound.work (sound : history.Sound) {index : Nat} {queue : Queue C} {world : World Net}
    (moves : history.queue.move index history.world = some (queue, world))
    (calm : ∀ worker ∈ queue.workers, worker.crash? = none) :
    { history with
      queue, world
      taken := history.taken ++ (history.queue.takes index).map (index, ·)
      batches := history.batches ++ (history.queue.sends index).map (index, ·) }.Sound := by
  have positive := sound.batchSize_pos
  obtain ⟨running, worker, after, rest, workerLog, running?, there, turn, rfl⟩ := move_cases moves
  generalize history.queue.takes index = took at turn
  generalize history.queue.sends index = sent at turn
  rcases history with ⟨⟨config, logger, seed, run, log⟩, before, gate, submissions, accepted,
    taken, batches⟩
  cases running?
  have inside := (List.getElem?_eq_some_iff.1 there).1
  have placed : (running.workers.set index after)[index]? = some after :=
    List.getElem?_set_self inside
  have calm' : after.crash? = none := calm after (List.mem_set inside after)
  obtain ⟨channel, holding, fits, sound', left⟩ :=
    turn.effect positive (sound.workers worker (List.mem_of_getElem? there)) calm'
  -- The last worker to end leaves an empty channel, so that no command is lost with it.
  have kept := channel_withWorkers { running with channel := rest } placed left
  generalize out : { running with channel := rest }.withWorkers
    (running.workers.set index after) = running' at kept
  have workers' : running'.workers = running.workers.set index after := out ▸ rfl
  have closing' : running'.closing = running.closing := out ▸ rfl
  clear out
  rcases running' with ⟨waiting, closing, workers, logger'⟩
  cases kept
  cases workers'
  cases closing'
  have sameLength : (running.workers.set index after).length = running.workers.length :=
    List.length_set
  exact {
    isOpen := rfl
    valid := sound.valid
    staff := sameLength.trans sound.staff
    room := by
      have before : running.channel.length ≤ config.queueSize := sound.room
      rw [channel, List.length_append] at before
      exact Nat.le_of_add_left_le before
    conserved := by
      have before : accepted.map Prod.snd = taken.map Prod.snd ++ running.channel :=
        sound.conserved
      rw [channel, ← List.append_assoc] at before
      rw [List.map_append, map_snd_numbered]
      exact before
    balanced := by
      have before : (taken.map Prod.snd).Perm ((batches.map Prod.snd).flatten ++
        running.workers.flatMap Worker.holding) := sound.balanced
      rw [List.map_append, map_snd_numbered, List.map_append, map_snd_numbered,
        List.flatten_append]
      refine (before.append_right took).trans ?_
      rw [List.append_assoc, List.append_assoc]
      exact (flatMap_set_perm there holding).append_left _
    handled := by
      intro other worker' found
      change (running.workers.set index after)[other]? = some worker' at found
      rw [entriesOf_append, entriesOf_append]
      by_cases same : index = other
      · subst same
        rw [placed] at found
        cases found
        have before : entriesOf index taken =
          (entriesOf index batches).flatten ++ worker.holding := sound.handled there
        rw [entriesOf_same, entriesOf_same, before, List.flatten_append, List.append_assoc,
          List.append_assoc, holding]
      · rw [List.getElem?_set_ne same] at found
        rw [entriesOf_other same, entriesOf_other same, List.append_nil, List.append_nil]
        exact sound.handled found
    takers := sameLength.symm ▸ fst_lt_append sound.takers inside
    senders := sameLength.symm ▸ fst_lt_append sound.senders inside
    filled := by
      intro entry member
      rcases List.mem_append.1 member with old | new
      · exact sound.filled entry old
      · obtain ⟨batch, there, rfl⟩ := List.mem_map.1 new
        exact fits batch there
    workers := by
      intro other member
      rcases List.mem_or_eq_of_mem_set member with old | rfl
      · refine (sound.workers other old).mono fun closing empty => ⟨closing, ?_⟩
        have none : took ++ rest = [] := channel.symm.trans empty
        exact (List.append_eq_nil_iff.1 none).2
      · exact sound' }

omit [Connection C Net] in
/-- While the channel is not closed, a command can be put into it. -/
theorem Sound.sends (sound : history.Sound) (opened : history.queue.closing = false)
    (command : Command) : ∃ queue, history.queue.send command = .ok queue := by
  have manned := sound.workers_pos
  rw [← sound.staff] at manned
  rcases history with ⟨⟨config, logger, seed, _ | running, log⟩, world⟩
  · exact absurd manned (Nat.lt_irrefl 0)
  · obtain ⟨worker, there⟩ := List.exists_mem_of_length_pos manned
    have sound' := sound.workers worker there
    have alive : worker.isAlive = true := by
      rcases worker with ⟨number, size, connection, phase, batches⟩
      cases phase with
      | waiting | collecting | ready => rfl
      | stopped =>
        have closing := sound'.2.1
        rw [opened] at closing
        cases closing
      | crashed cause => exact sound'.2.elim
    have any : running.workers.any Worker.isAlive = true := List.any_eq_true.2 ⟨worker, there, alive⟩
    exact ⟨_, if_pos any⟩

omit [Connection C Net] in
/-- A call that goes on leaves the queue in order. -/
theorem Sound.proceed (sound : history.Sound) (opened : history.queue.closing = false)
    {submission : Submission} {progress : Progress} {queue : Queue C} {sent : List Command}
    (proceeds : submission.Proceeds history.queue progress queue sent) (call : Nat) :
    { history with queue, accepted := history.accepted ++ sent.map (call, ·) }.Sound ∧
      queue.closing = false := by
  cases proceeds with
  | refused | admitted | returns | abandoned =>
    rw [List.map_nil, List.append_nil]
    exact ⟨sound, opened⟩
  | @sends command rest queue goesOn room sends =>
    refine ⟨sound.send opened room sends call, ?_⟩
    obtain ⟨running, running?, -, rfl⟩ := send_ok sends
    rw [closing_of_running running?] at opened
    exact opened

theorem Contributed.submit (contributed : history.Contributed) (commands : List Command) :
    (history.step (.submit commands)).Contributed where
  contributes {call submission} found := by
    simp only [step] at found ⊢
    rcases Nat.lt_or_ge call history.submissions.length with old | new
    · rw [List.getElem?_append_left old] at found
      exact contributed.contributes found
    · have last : call = history.submissions.length := by
        have inside := (List.getElem?_eq_some_iff.1 found).1
        rw [List.length_append, List.length_singleton] at inside
        omega
      subst last
      have none : entriesOf history.submissions.length history.accepted = [] :=
        entriesOf_eq_nil fun entry there => Nat.ne_of_lt (contributed.callers entry there)
      rw [List.getElem?_concat_length] at found
      cases found
      rw [none]
      cases history.gate with
      | accepting => rfl
      | refusing | released => exact ⟨rfl, Or.inl rfl⟩
  callers entry there := by
    have before := contributed.callers entry there
    simp only [step, List.length_append]
    omega

omit [Connection C Net] in
/-- A call that goes on has contributed what it sent so far. -/
theorem Contributed.proceed (contributed : history.Contributed) {call : Nat}
    {submission : Submission} {progress : Progress} {queue : Queue C} {sent : List Command}
    (found : history.submissions[call]? = some submission)
    (proceeds : submission.Proceeds history.queue progress queue sent)
    (open' : ∀ command, ∃ queue, history.queue.send command = .ok queue) :
    ({ history with queue, accepted := history.accepted ++ sent.map (call, ·) }.advance call
      progress).Contributed where
  contributes {other submission'} found' := by
    change (history.submissions.modify call _)[other]? = some submission' at found'
    change submission'.Contributes
      (entriesOf other (history.accepted ++ sent.map (call, ·)))
    rw [entriesOf_append]
    by_cases same : call = other
    · subst same
      rw [List.getElem?_modify_eq, found] at found'
      cases found'
      have before := contributed.contributes found
      rw [entriesOf_same]
      rcases submission with ⟨commands, progress⟩
      cases proceeds with
      | @refused index enters empty =>
        cases enters
        refine ⟨?_, Or.inr ⟨index, empty, rfl⟩⟩
        rw [List.append_nil]
        exact before
      | admitted enters named =>
        cases enters
        change entriesOf call history.accepted = [] at before
        rw [before]
        rfl
      | returns done =>
        cases done
        rw [List.append_nil]
        exact (List.append_nil _).symm.trans before
      | @abandoned command rest error goesOn fails =>
        -- Workers are left as long as the call holds the channel, so that sending cannot fail.
        obtain ⟨queue', sends⟩ := open' command
        rw [sends] at fails
        cases fails
      | sends goesOn =>
        cases goesOn
        exact (List.append_assoc _ _ _).trans before
    · rw [List.getElem?_modify_ne _ _ same] at found'
      rw [entriesOf_other same, List.append_nil]
      exact contributed.contributes found'
  callers entry there := by
    have inside := (List.getElem?_eq_some_iff.1 found).1
    have sameLength : ∀ change : Submission → Submission,
        (history.submissions.modify call change).length = history.submissions.length :=
      fun change => List.length_modify ..
    exact (sameLength _).symm ▸ fst_lt_append contributed.callers inside entry there

/-! ## Runs of sessions -/

omit [Connection C Net] in
theorem closing_sync (isOpen : history.queue.isOpen = true) :
    history.sync.queue.closing = history.sync.closed := by
  rcases history with ⟨⟨config, logger, seed, _ | running, log⟩, world⟩
  · cases isOpen
  · rfl

/-- A call that begins does not open the channel again. -/
theorem closed_submit (history : History C Net) (commands : List Command) :
    (history.step (.submit commands)).closed = history.closed := by
  rcases history with ⟨queue, world, _ | _ | _, submissions⟩
  · rfl
  · rfl
  · have before : (submissions ++ [(⟨commands, .returned (.error .queueClosed)⟩ : Submission)]).any
        Submission.holdsChannel = submissions.any Submission.holdsChannel := by
      rw [List.any_append]
      exact Bool.or_false _
    exact congrArg Bool.not before

/-- The invariant of sessions without crashes. -/
structure Orderly (history : History C Net) : Prop where
  sound : history.Sound
  /-- The workers see that the channel is closed when it is. -/
  synced : history.queue.closing = history.closed
  contributed : history.Contributed

/-- Every event without a crash keeps a session in order. -/
theorem Orderly.step (orderly : history.Orderly) {event : Event Net}
    (calm : (history.step event).Calm) : (history.step event).Orderly := by
  obtain ⟨sound, synced, contributed⟩ := orderly
  cases event with
  | submit commands =>
    exact ⟨{ sound with }, synced.trans (history.closed_submit commands).symm,
      contributed.submit commands⟩
  | proceed call =>
    rcases history.proceed_cases call with
      stays | ⟨submission, progress, queue, sent, found, proceeds, out⟩
    · rw [stays]
      exact ⟨sound, synced, contributed⟩
    · -- The call holds the channel, so that no worker has seen it closed.
      have opened : history.queue.closing = false :=
        synced.trans (closed_of_holds found proceeds.holdsChannel)
      obtain ⟨sound', opened'⟩ := sound.proceed opened proceeds call
      rw [out]
      refine ⟨Sound.sync { sound' with } ?_, closing_sync sound'.isOpen,
        contributed.proceed found proceeds (sound.sends opened)⟩
      intro closing
      rw [show queue.closing = true from closing] at opened'
      cases opened'
  | close =>
    rcases history with ⟨queue, world, _ | _ | _, submissions⟩
    · exact ⟨{ sound with }, synced, { contributed with }⟩
    · exact ⟨sound, synced, contributed⟩
    · exact ⟨sound, synced, contributed⟩
  | release =>
    rcases history with ⟨queue, world, _ | _ | _, submissions⟩
    · exact ⟨sound, synced, contributed⟩
    · have opened : queue.closing = false := synced
      refine ⟨Sound.sync { sound with } ?_, closing_sync sound.isOpen, { contributed with }⟩
      intro closing
      rw [show queue.closing = true from closing] at opened
      cases opened
    · exact ⟨sound, synced, contributed⟩
  | work index =>
    rcases moves : history.queue.move index history.world with _ | ⟨queue, world⟩
    · simp only [History.step, moves]
      exact ⟨sound, synced, contributed⟩
    · simp only [History.step, moves] at calm ⊢
      exact ⟨sound.work moves calm, (closing_of_move moves).2.1.trans synced, { contributed with }⟩
  | elsewhere change => exact ⟨{ sound with }, synced, { contributed with }⟩

/-- A session that had no crash is in order. -/
theorem Orderly.run (orderly : history.Orderly) {events : List (Event Net)}
    (calm : (history.run events).Calm) : (history.run events).Orderly := by
  induction events generalizing history with
  | nil => exact orderly
  | cons event later more => exact more (orderly.step (calm_of_run calm)) calm

/-- A session begins in order. -/
theorem orderly_of_start {queue opened : Queue C} {world world' : World Net}
    (starts : queue.start world = (.ok (), opened, world')) :
    ({ queue := opened, world := world' } : History C Net).Orderly := by
  obtain ⟨-, valid, -, logger, seed, workers, workerLog, world'', -, -, all, rfl, -⟩ :=
    start_ok_iff.1 starts
  obtain ⟨length, fresh⟩ := startWorkers_ok all
  have begins : ∀ worker ∈ workers, worker.phase = .waiting ∧
      worker.batchSize = queue.config.batchSize := by
    intro worker there
    rcases fresh worker there with none | ⟨waits, size⟩
    · cases none
    · exact ⟨waits, size.trans (Nat.max_eq_left (Config.pos_of_check valid).2.2)⟩
  have idle : ∀ worker ∈ workers, worker.holding = [] := by
    intro worker there
    rw [Worker.holding, (begins worker there).1]
  exact {
    sound := {
      isOpen := rfl
      valid := valid
      staff := length.trans (Nat.zero_add _)
      room := Nat.zero_le _
      conserved := rfl
      balanced := by
        have none : workers.flatMap Worker.holding = [] := List.flatMap_eq_nil_iff.2 idle
        change List.Perm [] ([] ++ workers.flatMap Worker.holding)
        rw [none]
        exact List.Perm.nil
      handled := fun {index worker} found => (idle worker (List.mem_of_getElem? found)).symm
      takers := List.forall_mem_nil _
      senders := List.forall_mem_nil _
      filled := List.forall_mem_nil _
      workers := by
        intro worker there
        obtain ⟨waits, size⟩ := begins worker there
        rw [Worker.Sound, waits]
        exact ⟨size, trivial⟩ }
    synced := rfl
    contributed := {
      contributes := fun found => by cases found
      callers := List.forall_mem_nil _ } }

end History

end RespClient.Queue
