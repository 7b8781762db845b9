import RespClient.Proofs.QueueConservation
import RespClient.Proofs.QueueSchedules
import RespClient.Proofs.WorkerBatching

/-!
# Shifts of a worker

A worker takes its commands from a channel that others fill and close while it is at work. A `Shift`
follows a worker and its channel through such moments, in any order: a command comes in, the channel is
closed, the worker goes on. What the worker finds in the channel is what it would find in that of a queue
(`Running.find?`); a worker for which there is nothing to find waits.

`Shift.Sound` is the invariant, and says where each command is that came in: in a batch that was sent, with
the worker, or in the channel. Once the channel is closed every turn leaves fewer turns
(`Turned.turnsLeft_lt`), so that the worker comes to its end. In a channel that was closed from the start a
worker has no reason to send a batch that is not full but the end of the commands (`Brimful`).

`forms_batches` is the main statement.
-/

namespace RespClient.Queue

variable {C Net : Type}

namespace Worker

/-- A batch for which the worker stopped gathering is full. -/
theorem length_of_gather {batchSize : Nat} {batch ready : List Command}
    (bound : batch.length ≤ batchSize) (gathers : gather batchSize batch = .ready ready false) :
    ready.length = batchSize := by
  unfold gather at gathers
  split at gathers
  · cases gathers
  · next full =>
    cases gathers
    exact Nat.le_antisymm bound (Nat.le_of_not_lt full)

theorem crash?_of_isAlive {worker : Worker C} (alive : worker.isAlive = true) :
    worker.crash? = none := by
  rcases worker with ⟨number, batchSize, connection, phase, batches⟩
  cases phase with
  | waiting | collecting | ready => rfl
  | stopped | crashed => cases alive

theorem isAlive_or_stopped {worker : Worker C} (calm : worker.crash? = none) :
    worker.isAlive = true ∨ worker.phase = .stopped := by
  rcases worker with ⟨number, batchSize, connection, phase, batches⟩
  cases phase with
  | waiting | collecting | ready => exact Or.inl rfl
  | stopped => exact Or.inr rfl
  | crashed => cases calm

theorem phase_of_crash? {worker : Worker C} {cause : Crash} (crashes : worker.crash? = some cause) :
    worker.phase = .crashed cause := by
  rcases worker with ⟨number, batchSize, connection, phase, batches⟩
  cases phase with
  | waiting | collecting | ready | stopped => cases crashes
  | crashed other => exact congrArg Phase.crashed (Option.some.inj crashes)

variable [Connection C Net]

/-- A worker that crashes while it sends its batch has only lost its connection. -/
theorem sendBatch_of_crashed {batch : List Command} {worker next : Worker C} {world world' : World Net}
    {cause : Crash} (sent : worker.sendBatch batch world = (next, world'))
    (crashed : next.phase = .crashed cause) :
    ∃ connection, next = { worker with connection, phase := .crashed cause } := by
  obtain ⟨result, commands, connection, before, -, ⟨other, -, sends⟩ | ⟨error?, -, sends⟩⟩ :=
    sendBatch_cases batch worker world
  · rw [sends] at sent
    cases sent
    cases crashed
    exact ⟨connection, rfl⟩
  · rw [sends] at sent
    cases sent
    cases crashed

/-- The last report of a worker that ends is on the number of its batches. -/
theorem log_finish (worker : Worker C) (world : World Net) :
    (worker.finish world).2.log.back? = some (.workerStopped worker.number worker.batches) := by
  unfold finish World.report
  exact Array.back?_push

end Worker

/-! ## Moments -/

/-- What can happen next to a worker and its channel. -/
inductive Moment (Net : Type) where
  /-- A command is put into the channel. A channel that is closed, or that nobody reads, takes none. -/
  | sent (command : Command)
  /-- The channel is closed. -/
  | closed
  /-- The worker goes on, unless it has to wait. -/
  | turn
  /-- Others use the network. -/
  | elsewhere (change : Net → Net)

namespace Moment

/-- Whether the worker may go on. -/
def isTurn : Moment Net → Bool
  | .turn => true
  | .sent _ | .closed | .elsewhere _ => false

/-- The commands that are put into the channel before it is closed. -/
def commands : List (Moment Net) → List Command
  | [] | .closed :: _ => []
  | .sent command :: later => command :: commands later
  | .turn :: later | .elsewhere _ :: later => commands later

theorem commands_sent (before : List Command) (later : List (Moment Net)) :
    commands (before.map .sent ++ .closed :: later) = before := by
  induction before with
  | nil => rfl
  | cons command rest same => exact congrArg (command :: ·) same

end Moment

/-- A worker with the channel that it takes commands from. -/
structure Shift (C Net : Type) where
  worker : Worker C
  world : World Net
  channel : List Command := []
  closing : Bool := false
  /-- The commands that came into the channel, in order. -/
  submitted : List Command := []
  /-- The batches that were sent, in order. -/
  batches : List (List Command) := []

namespace Shift

/-- The channel as a worker sees it. -/
def inbox (shift : Shift C Net) : Running C :=
  { channel := shift.channel, closing := shift.closing, logger := .keep }

variable [Connection C Net]

/-- A worker that begins, with a channel that is empty. -/
def start (number batchSize : Nat) (connection : C) (world : World Net) : Shift C Net :=
  let (worker, world) := Worker.start number batchSize connection world
  { worker, world }

/-- What a moment leaves. -/
def step (shift : Shift C Net) : Moment Net → Shift C Net
  | .sent command =>
    if shift.closing || !shift.worker.isAlive then shift
    else { shift with
      channel := shift.channel ++ [command], submitted := shift.submitted ++ [command] }
  | .closed => { shift with closing := true }
  | .turn =>
    match shift.worker.phase with
    | .ready batch _ =>
      let (worker, world) := shift.worker.perform shift.world
      { shift with worker, world, batches := shift.batches ++ [batch] }
    | phase =>
      match shift.inbox.find? phase with
      | none => shift
      | some (finding, channel) =>
        let (worker, world) := shift.worker.observe finding shift.world
        { shift with worker, world, channel }
  | .elsewhere change => { shift with world := { shift.world with net := change shift.world.net } }

/-- What moments leave, one after the other. -/
def run (shift : Shift C Net) (moments : List (Moment Net)) : Shift C Net := moments.foldl step shift

theorem run_append (shift : Shift C Net) (moments later : List (Moment Net)) :
    shift.run (moments ++ later) = (shift.run moments).run later := List.foldl_append ..

/-! ## Turns -/

/-- What a turn of a worker can be. -/
inductive Turned (shift : Shift C Net) : Shift C Net → Prop where
  /-- The worker waits for a command, or has ended. -/
  | rests (resting : shift.worker.isAlive = true →
      shift.worker.phase = .waiting ∧ shift.channel = [] ∧ shift.closing = false) :
    Turned shift shift
  | takes {command : Command} {rest : List Command} (there : shift.channel = command :: rest)
    (gathers : shift.worker.phase = .waiting ∨ ∃ batch, shift.worker.phase = .collecting batch) :
    Turned shift { shift with
      worker := { shift.worker with
        phase := Worker.gather shift.worker.batchSize (shift.worker.holding ++ [command]) }
      channel := rest }
  | completes {batch : List Command} (collects : shift.worker.phase = .collecting batch)
    (nothing : shift.channel = []) :
    Turned shift { shift with worker := { shift.worker with phase := .ready batch shift.closing } }
  | finishes (waits : shift.worker.phase = .waiting) (nothing : shift.channel = [])
    (closing : shift.closing = true) :
    Turned shift { shift with
      worker := (shift.worker.finish shift.world).1, world := (shift.worker.finish shift.world).2 }
  /-- It sends its batch, and waits for the next one. -/
  | sends {batch : List Command} {connection : C} {world : World Net}
    (ready : shift.worker.phase = .ready batch false) :
    Turned shift { shift with
      worker := { shift.worker with
        connection, phase := .waiting, batches := shift.worker.batches + 1 }
      world, batches := shift.batches ++ [batch] }
  /-- It sends its last batch, and ends. -/
  | sendsLast {batch : List Command} {connection : C} {world : World Net} {next : Worker C}
    (ready : shift.worker.phase = .ready batch true)
    (next_eq : next = { shift.worker with
      connection, phase := .waiting, batches := shift.worker.batches + 1 }) :
    Turned shift { shift with
      worker := (next.finish world).1, world := (next.finish world).2
      batches := shift.batches ++ [batch] }
  /-- A call on its connection crashes while it sends its batch. -/
  | crashes {batch : List Command} {last : Bool} {cause : Crash} {connection : C} {world : World Net}
    (ready : shift.worker.phase = .ready batch last)
    (sent : (shift.worker.sendBatch batch shift.world).1.phase = .crashed cause) :
    Turned shift { shift with
      worker := { shift.worker with connection, phase := .crashed cause }
      world, batches := shift.batches ++ [batch] }

theorem turned_of_ready {shift : Shift C Net} {batch : List Command} {last : Bool}
    (ready : shift.worker.phase = .ready batch last) : shift.Turned (shift.step .turn) := by
  have out : shift.step .turn = { shift with
      worker := (shift.worker.perform shift.world).1
      world := (shift.worker.perform shift.world).2
      batches := shift.batches ++ [batch] } := by simp only [step, ready]
  rw [out]
  obtain ⟨next, world', sent, ⟨waits, rfl, performs⟩ | ⟨waits, rfl, performs⟩ |
    ⟨cause, crashed, performs⟩⟩ := Worker.perform_cases ready shift.world
  · obtain ⟨error?, commands, connection, before, -, rfl, rfl⟩ :=
      Worker.sendBatch_of_waits sent waits
    rw [performs]
    exact .sends ready
  · obtain ⟨error?, commands, connection, before, -, same, rfl⟩ :=
      Worker.sendBatch_of_waits sent waits
    rw [performs]
    exact .sendsLast ready same
  · obtain ⟨connection, rfl⟩ := Worker.sendBatch_of_crashed sent crashed
    rw [performs]
    exact .crashes ready (by rw [sent])

/-- A worker that has room for its batches takes its turn in one of these ways. -/
theorem turned {shift : Shift C Net} (room : shift.worker.batchSize ≤ maxRoom) :
    shift.Turned (shift.step .turn) := by
  cases stage : shift.worker.phase with
  | ready batch last => exact turned_of_ready stage
  | stopped =>
    have out : shift.step .turn = shift := by simp only [step, stage, Running.find?]
    rw [out]
    exact .rests fun alive => by rw [Worker.isAlive, stage] at alive; cases alive
  | crashed cause =>
    have out : shift.step .turn = shift := by simp only [step, stage, Running.find?]
    rw [out]
    exact .rests fun alive => by rw [Worker.isAlive, stage] at alive; cases alive
  | waiting =>
    rcases there : shift.channel with _ | ⟨command, rest⟩
    · cases closing : shift.closing with
      | false =>
        have out : shift.step .turn = shift := by
          simp only [step, stage, Running.find?, inbox, there, closing, Bool.false_eq_true, if_false]
        rw [out]
        exact .rests fun _ => ⟨stage, there, closing⟩
      | true =>
        have out : shift.step .turn = { shift with
            worker := (shift.worker.finish shift.world).1
            world := (shift.worker.finish shift.world).2 } := by
          simp only [step, stage, Running.find?, inbox, there, closing, if_true, Worker.observe]
        rw [out]
        exact .finishes stage there closing
    · have out : shift.step .turn = { shift with
          worker := { shift.worker with
            phase := Worker.gather shift.worker.batchSize (shift.worker.holding ++ [command]) }
          channel := rest } := by
        simp only [step, stage, Running.find?, inbox, there, Worker.observe, Worker.holding,
          if_neg (Nat.not_lt.2 room), List.nil_append]
      rw [out]
      exact .takes there (Or.inl stage)
  | collecting batch =>
    rcases there : shift.channel with _ | ⟨command, rest⟩
    · have out : shift.step .turn =
          { shift with worker := { shift.worker with phase := .ready batch shift.closing } } := by
        cases closing : shift.closing <;>
          simp only [step, stage, Running.find?, inbox, there, closing, Worker.observe, if_true,
            Bool.false_eq_true, if_false]
      rw [out]
      exact .completes stage there
    · have out : shift.step .turn = { shift with
          worker := { shift.worker with
            phase := Worker.gather shift.worker.batchSize (shift.worker.holding ++ [command]) }
          channel := rest } := by
        simp only [step, stage, Running.find?, inbox, there, Worker.observe, Worker.holding]
      rw [out]
      exact .takes there (Or.inr ⟨batch, stage⟩)

/-! ## What becomes of the commands -/

/-- What holds at every time of the shift of a worker with this number and with batches of this size. -/
structure Sound (number size : Nat) (shift : Shift C Net) : Prop where
  sameSize : shift.worker.batchSize = size
  sameNumber : shift.worker.number = number
  conserved : shift.submitted = shift.batches.flatten ++ shift.worker.holding ++ shift.channel
  filled : ∀ batch ∈ shift.batches, batch ≠ [] ∧ batch.length ≤ size
  working : shift.worker.crash? = none → shift.worker.Sound size shift.closing shift.channel
  counted : shift.worker.crash? = none → shift.worker.batches = shift.batches.length
  logged : shift.worker.phase = .stopped →
    shift.world.log.back? = some (.workerStopped number shift.batches.length)
  /-- A worker crashes with a call on its connection, in the middle of a batch. -/
  crashed : ∀ {cause : Crash}, shift.worker.phase = .crashed cause →
    ∃ (sender : Worker C) (batch : List Command) (world : World Net),
      shift.batches.getLast? = some batch ∧ (sender.sendBatch batch world).1.phase = .crashed cause

theorem sound_start (number size : Nat) (connection : C) (world : World Net) :
    (start number size connection world).Sound number (max size 1) where
  sameSize := rfl
  sameNumber := rfl
  conserved := rfl
  filled := List.forall_mem_nil _
  working := fun _ => ⟨rfl, trivial⟩
  counted := fun _ => rfl
  logged := fun stopped => by cases stopped
  crashed := fun crashed => by cases crashed

section Steps

variable {number size : Nat} {shift after : Shift C Net}

/-- A batch that is about to be sent is sound, and whatever else was sent before. -/
theorem Sound.filled_append (sound : shift.Sound number size) {batch : List Command} {last : Bool}
    (ready : shift.worker.phase = .ready batch last) :
    (∀ sent ∈ shift.batches ++ [batch], sent ≠ [] ∧ sent.length ≤ size) ∧
      (last = true → shift.closing = true ∧ shift.channel = []) := by
  have working := sound.working (by rw [Worker.crash?, ready])
  rw [Worker.Sound, ready] at working
  obtain ⟨-, nonempty, bound, ends⟩ := working
  refine ⟨fun sent there => ?_, ends⟩
  rcases List.mem_append.1 there with old | new
  · exact sound.filled sent old
  · rw [List.mem_singleton.1 new]
    exact ⟨nonempty, bound⟩

theorem Sound.conserved_append (sound : shift.Sound number size) {batch : List Command} {last : Bool}
    (ready : shift.worker.phase = .ready batch last) :
    shift.submitted = (shift.batches ++ [batch]).flatten ++ [] ++ shift.channel := by
  rw [sound.conserved, Worker.holding, ready, List.flatten_append, List.flatten_singleton,
    List.append_nil]

omit [Connection C Net] in
theorem calm_of_gathers
    (gathers : shift.worker.phase = .waiting ∨ ∃ batch, shift.worker.phase = .collecting batch) :
    shift.worker.crash? = none ∧ shift.worker.isAlive = true := by
  have alive : shift.worker.isAlive = true := by
    rcases gathers with waits | ⟨batch, collects⟩
    · rw [Worker.isAlive, waits]
    · rw [Worker.isAlive, collects]
  exact ⟨Worker.crash?_of_isAlive alive, alive⟩

/-- A worker that takes a command has room for it in its batch. -/
theorem Sound.takes (sound : shift.Sound number size) (positive : 0 < size) {command : Command}
    {rest : List Command} (there : shift.channel = command :: rest)
    (gathers : shift.worker.phase = .waiting ∨ ∃ batch, shift.worker.phase = .collecting batch) :
    Sound number size { shift with
      worker := { shift.worker with
        phase := Worker.gather shift.worker.batchSize (shift.worker.holding ++ [command]) }
      channel := rest } := by
  obtain ⟨calm, -⟩ := calm_of_gathers gathers
  have working := sound.working calm
  have fits : (shift.worker.holding ++ [command]).length ≤ size := by
    rw [List.length_append, List.length_singleton]
    rcases gathers with waits | ⟨batch, collects⟩
    · rw [Worker.holding, waits]
      exact positive
    · rw [Worker.Sound, collects] at working
      rw [Worker.holding, collects]
      exact working.2.2
  have nonempty : shift.worker.holding ++ [command] ≠ [] :=
    List.concat_ne_nil command shift.worker.holding
  obtain ⟨sound', holds, -⟩ :=
    Worker.gather_sound shift.closing rest sound.sameSize nonempty fits
  have stage := Worker.gather_cases shift.worker.batchSize (shift.worker.holding ++ [command])
  exact {
    sameSize := sound.sameSize
    sameNumber := sound.sameNumber
    conserved := by
      rw [sound.conserved, holds, there, List.append_assoc, List.append_assoc, List.append_assoc]
      rfl
    filled := sound.filled
    working := fun _ => sound'
    counted := fun _ => sound.counted calm
    logged := fun stopped => by
      rcases stage with out | out
      all_goals cases out.symm.trans stopped
    crashed := fun crashed => by
      rcases stage with out | out
      all_goals cases out.symm.trans crashed }

/-- A turn keeps what is known of a worker. -/
theorem Sound.turned (sound : shift.Sound number size) (positive : 0 < size)
    (turned : shift.Turned after) : after.Sound number size := by
  cases turned with
  | rests resting => exact sound
  | takes there gathers => exact sound.takes positive there gathers
  | @completes batch collects nothing =>
    have calm : shift.worker.crash? = none := by rw [Worker.crash?, collects]
    have working := sound.working calm
    rw [Worker.Sound, collects] at working
    exact { sound with
      conserved := by rw [sound.conserved, Worker.holding, collects]; rfl
      working := fun _ =>
        ⟨sound.sameSize, working.2.1, Nat.le_of_lt working.2.2, fun isLast => ⟨isLast, nothing⟩⟩
      counted := fun _ => sound.counted calm
      logged := fun stopped => by cases stopped
      crashed := fun crashed => by cases crashed }
  | finishes waits nothing closing =>
    have calm : shift.worker.crash? = none := by rw [Worker.crash?, waits]
    exact {
      sameSize := sound.sameSize
      sameNumber := sound.sameNumber
      conserved := by rw [sound.conserved, Worker.holding, waits]; rfl
      filled := sound.filled
      working := fun _ => ⟨sound.sameSize, closing, nothing⟩
      counted := fun _ => sound.counted calm
      logged := fun _ => by
        rw [Worker.log_finish, sound.sameNumber, sound.counted calm]
      crashed := fun crashed => by cases crashed }
  | @sends batch connection world ready =>
    have calm : shift.worker.crash? = none := by rw [Worker.crash?, ready]
    exact {
      sameSize := sound.sameSize
      sameNumber := sound.sameNumber
      conserved := sound.conserved_append ready
      filled := (sound.filled_append ready).1
      working := fun _ => ⟨sound.sameSize, trivial⟩
      counted := fun _ => by
        rw [List.length_append, List.length_singleton, ← sound.counted calm]
      logged := fun stopped => by cases stopped
      crashed := fun crashed => by cases crashed }
  | @sendsLast batch connection world next ready next_eq =>
    have calm : shift.worker.crash? = none := by rw [Worker.crash?, ready]
    have counts : next.batches = (shift.batches ++ [batch]).length := by
      rw [next_eq, List.length_append, List.length_singleton, ← sound.counted calm]
    have sameSize : next.batchSize = size := by rw [next_eq]; exact sound.sameSize
    have sameNumber : next.number = number := by rw [next_eq]; exact sound.sameNumber
    exact {
      sameSize := sameSize
      sameNumber := sameNumber
      conserved := sound.conserved_append ready
      filled := (sound.filled_append ready).1
      working := fun _ => ⟨sameSize, (sound.filled_append ready).2 rfl⟩
      counted := fun _ => counts
      logged := fun _ => by rw [Worker.log_finish, sameNumber, counts]
      crashed := fun crashed => by cases crashed }
  | @crashes batch last cause connection world ready sent =>
    exact {
      sameSize := sound.sameSize
      sameNumber := sound.sameNumber
      conserved := sound.conserved_append ready
      filled := (sound.filled_append ready).1
      working := fun calm => by cases calm
      counted := fun calm => by cases calm
      logged := fun stopped => by cases stopped
      crashed := fun crashed =>
        ⟨shift.worker, batch, shift.world, List.getLast?_concat, by cases crashed; exact sent⟩ }

/-- What is known of a worker holds whatever happens. -/
theorem Sound.step (sound : shift.Sound number size) (positive : 0 < size) (room : size ≤ maxRoom)
    (moment : Moment Net) : (shift.step moment).Sound number size := by
  cases moment with
  | sent command =>
    cases refused : shift.closing || !shift.worker.isAlive with
    | true => rwa [Shift.step, if_pos refused]
    | false =>
      rw [Shift.step, refused, if_neg Bool.false_ne_true]
      have opened : shift.closing = false := (Bool.or_eq_false_iff.1 refused).1
      exact { sound with
        conserved := by rw [sound.conserved, List.append_assoc]
        working := fun calm => (sound.working calm).mono
          fun closing => nomatch opened.symm.trans closing }
  | closed =>
    exact { sound with
      working := fun calm => (sound.working calm).mono fun _ empty => ⟨rfl, empty⟩ }
  | turn => exact sound.turned positive (Shift.turned (sound.sameSize ▸ room))
  | elsewhere change => exact { sound with }

theorem Sound.run (sound : shift.Sound number size) (positive : 0 < size) (room : size ≤ maxRoom)
    (moments : List (Moment Net)) : (shift.run moments).Sound number size := by
  induction moments generalizing shift with
  | nil => exact sound
  | cons moment later more => exact more (sound.step positive room moment)

end Steps

/-! ## Commands that come in -/

section Incoming

variable {number size : Nat} {shift : Shift C Net}

/-- Nothing happens to a worker that has ended, or crashed. -/
theorem worker_step {moment : Moment Net} (dead : shift.worker.isAlive = false) :
    (shift.step moment).worker = shift.worker := by
  cases moment with
  | sent command => rw [step, dead, Bool.not_false, Bool.or_true, if_pos rfl]
  | closed | elsewhere => rfl
  | turn =>
    rcases shift with ⟨⟨number, batchSize, connection, phase, batches⟩, world, channel⟩
    cases phase with
    | waiting | collecting | ready => cases dead
    | stopped | crashed => rfl

theorem worker_run {moments : List (Moment Net)} (dead : shift.worker.isAlive = false) :
    (shift.run moments).worker = shift.worker := by
  induction moments generalizing shift with
  | nil => rfl
  | cons moment later same =>
    have stays : (shift.step moment).worker = shift.worker := worker_step dead
    have dead' : (shift.step moment).worker.isAlive = false := by rw [stays, dead]
    exact (same dead').trans stays

/-- A worker that has not crashed by the end of a run had not before. -/
theorem calm_of_run {moments : List (Moment Net)}
    (calm : (shift.run moments).worker.crash? = none) : shift.worker.crash? = none := by
  cases alive : shift.worker.isAlive with
  | false => rwa [worker_run alive] at calm
  | true => exact Worker.crash?_of_isAlive alive

/-- A worker that has not crashed takes commands until its channel is closed. -/
theorem Sound.alive (sound : shift.Sound number size) (calm : shift.worker.crash? = none)
    (opened : shift.closing = false) : shift.worker.isAlive = true := by
  rcases Worker.isAlive_or_stopped calm with alive | stopped
  · exact alive
  · have working := sound.working calm
    rw [Worker.Sound, stopped] at working
    cases working.2.1.symm.trans opened

/-- A worker leaves it to others to fill the channel, and to close it. -/
theorem Turned.kept {after : Shift C Net} (turned : shift.Turned after) :
    after.submitted = shift.submitted ∧ after.closing = shift.closing := by
  cases turned with
  | rests | takes | completes | finishes | sends | sendsLast | crashes => exact ⟨rfl, rfl⟩

/-- Unless its worker crashes, a channel takes what is put into it before it is closed. -/
theorem Sound.submitted (sound : shift.Sound number size) (positive : 0 < size) (room : size ≤ maxRoom)
    {moments : List (Moment Net)} (calm : (shift.run moments).worker.crash? = none) :
    (shift.run moments).submitted =
      shift.submitted ++ if shift.closing then [] else Moment.commands moments := by
  induction moments generalizing shift with
  | nil =>
    rw [Moment.commands, ite_self, List.append_nil]
    rfl
  | cons moment later more =>
    have out := more (sound.step positive room moment) calm
    refine Eq.trans out ?_
    have calm' : shift.worker.crash? = none := calm_of_run calm
    cases moment with
    | sent command =>
      cases closing : shift.closing with
      | true => simp only [Shift.step, closing, Bool.true_or, if_true]
      | false =>
        simp only [Shift.step, closing, sound.alive calm' closing, Bool.not_true, Bool.or_false,
          Bool.false_eq_true, if_false, Moment.commands, List.append_assoc, List.singleton_append]
    | closed =>
      change shift.submitted ++ [] = shift.submitted ++ if shift.closing then [] else []
      rw [ite_self]
    | turn =>
      have kept := (Shift.turned (sound.sameSize ▸ room)).kept
      rw [kept.1, kept.2]
      rfl
    | elsewhere change => rfl

/-- The channel is closed once someone has closed it. -/
theorem Sound.closing_iff (sound : shift.Sound number size) (positive : 0 < size)
    (room : size ≤ maxRoom) {moments : List (Moment Net)} :
    (shift.run moments).closing = true ↔ shift.closing = true ∨ .closed ∈ moments := by
  induction moments generalizing shift with
  | nil => exact ⟨Or.inl, fun closing => closing.resolve_right List.not_mem_nil⟩
  | cons moment later more =>
    refine (more (sound.step positive room moment)).trans ?_
    cases moment with
    | sent command =>
      have same : (shift.step (.sent command)).closing = shift.closing := by
        unfold Shift.step
        dsimp only
        split
        · rfl
        · rfl
      simp [same]
    | closed => simp [Shift.step]
    | turn =>
      have kept := (Shift.turned (sound.sameSize ▸ room)).kept
      simp [kept.2]
    | elsewhere change => simp [Shift.step]

end Incoming

/-! ## The end of a shift -/

section Ending

variable {number size : Nat} {shift : Shift C Net}

/-- The most turns that a worker can take before it waits or ends, if no more commands come. -/
def turnsLeft (shift : Shift C Net) : Nat := 4 * shift.channel.length + shift.worker.phase.steps

/-- Unless the worker may wait for more commands, each of its turns leaves fewer. -/
theorem Turned.turnsLeft_lt {after : Shift C Net} (turned : shift.Turned after)
    (closing : shift.closing = true) (alive : shift.worker.isAlive = true) :
    after.turnsLeft < shift.turnsLeft := by
  unfold turnsLeft
  cases turned with
  | rests resting => exact absurd (closing.symm.trans (resting alive).2.2) nofun
  | @takes command rest there gathers =>
    have few : (Worker.gather shift.worker.batchSize (shift.worker.holding ++ [command])).steps ≤ 3 :=
      Worker.steps_gather ..
    rw [there, List.length_cons]
    dsimp only
    omega
  | completes collects nothing =>
    rw [collects]
    exact Nat.lt_succ_self _
  | finishes waits nothing closing =>
    rw [waits, nothing]
    exact Nat.zero_lt_one
  | sends ready =>
    rw [ready]
    exact Nat.lt_succ_self _
  | sendsLast ready next_eq =>
    rw [ready]
    exact Nat.lt_add_of_pos_right (Nat.zero_lt_succ 1)
  | crashes ready sent =>
    rw [ready]
    exact Nat.lt_add_of_pos_right (Nat.zero_lt_succ 1)

omit [Connection C Net] in
theorem turnsLeft_pos (alive : shift.worker.isAlive = true) : 0 < shift.turnsLeft :=
  Nat.lt_of_lt_of_le (Worker.steps_pos alive) (Nat.le_add_left ..)

/-- Once its channel is closed, a worker ends when it has gone on often enough, or crashes. -/
theorem Sound.ends (sound : shift.Sound number size) (positive : 0 < size) (room : size ≤ maxRoom)
    (closing : shift.closing = true) {moments : List (Moment Net)}
    (enough : shift.turnsLeft ≤ moments.countP Moment.isTurn) :
    (shift.run moments).worker.isAlive = false := by
  induction moments generalizing shift with
  | nil =>
    cases alive : shift.worker.isAlive with
    | false => exact alive
    | true => exact absurd (turnsLeft_pos alive) (Nat.not_lt.2 enough)
  | cons moment later more =>
    cases alive : shift.worker.isAlive with
    | false => rw [worker_run alive, alive]
    | true =>
      have next := sound.step positive room moment
      cases moment with
      | sent command =>
        have refused : shift.step (.sent command) = shift := by
          rw [Shift.step, closing, Bool.true_or, if_pos rfl]
        rw [refused] at next
        change ((shift.step (.sent command)).run later).worker.isAlive = false
        rw [refused]
        exact more next closing enough
      | closed => exact more next rfl enough
      | turn =>
        have turned := Shift.turned (sound.sameSize ▸ room)
        rw [List.countP_cons_of_pos rfl] at enough
        have fewer := turned.turnsLeft_lt closing alive
        exact more next (turned.kept.2.trans closing) (by omega)
      | elsewhere change => exact more next closing enough

end Ending

/-! ## Full batches -/

/-- What holds of a shift in which the channel was closed from the start: a batch is only sent if it is
full, or if it is the last one. -/
structure Brimful (size : Nat) (shift : Shift C Net) : Prop where
  closing : shift.closing = true
  full : ∀ batch ∈ shift.batches.dropLast, batch.length = size
  going : shift.worker.isAlive = true → ∀ batch ∈ shift.batches, batch.length = size
  ready : ∀ {batch : List Command}, shift.worker.phase = .ready batch false → batch.length = size

section Filling

variable {number size : Nat} {shift after : Shift C Net}

theorem Brimful.turned (brimful : shift.Brimful size) (sound : after.Sound number size)
    (turned : shift.Turned after) : after.Brimful size := by
  -- A batch that is sent follows full ones.
  have follows {batch : List Command} {last : Bool}
      (ready : shift.worker.phase = .ready batch last) :
      ∀ sent ∈ (shift.batches ++ [batch]).dropLast, sent.length = size := by
    rw [List.dropLast_concat]
    exact brimful.going (by rw [Worker.isAlive, ready])
  cases turned with
  | rests resting => exact brimful
  | @takes command rest there gathers =>
    exact {
      closing := brimful.closing
      full := brimful.full
      going := fun _ => brimful.going (calm_of_gathers gathers).2
      ready := fun {batch} ready => by
        have same := sound.sameSize
        have working := sound.working (by rw [Worker.crash?, ready])
        rw [Worker.Sound, ready] at working
        rcases Worker.gather_cases shift.worker.batchSize (shift.worker.holding ++ [command]) with
          out | out
        · cases out.symm.trans ready
        · cases out.symm.trans ready
          exact (Worker.length_of_gather (working.1 ▸ working.2.2.1) ready).trans same }
  | @completes batch collects nothing =>
    exact {
      closing := brimful.closing
      full := brimful.full
      going := fun _ => brimful.going (by rw [Worker.isAlive, collects])
      ready := fun {batch} ready => by
        have opened : shift.closing = false := (Phase.ready.inj ready).2
        cases brimful.closing.symm.trans opened }
  | finishes waits nothing closing =>
    exact {
      closing := brimful.closing
      full := brimful.full
      going := fun alive => by cases alive
      ready := fun ready => by cases ready }
  | @sends batch connection world ready =>
    exact {
      closing := brimful.closing
      full := follows ready
      going := fun _ sent there => by
        rcases List.mem_append.1 there with old | new
        · exact brimful.going (by rw [Worker.isAlive, ready]) sent old
        · rw [List.mem_singleton.1 new]
          exact brimful.ready ready
      ready := fun ready => by cases ready }
  | sendsLast ready next_eq =>
    exact {
      closing := brimful.closing
      full := follows ready
      going := fun alive => by cases alive
      ready := fun ready => by cases ready }
  | crashes ready sent =>
    exact {
      closing := brimful.closing
      full := follows ready
      going := fun alive => by cases alive
      ready := fun ready => by cases ready }

theorem Brimful.run (brimful : shift.Brimful size) (sound : shift.Sound number size)
    (positive : 0 < size) (room : size ≤ maxRoom) (moments : List (Moment Net)) :
    (shift.run moments).Brimful size := by
  induction moments generalizing shift with
  | nil => exact brimful
  | cons moment later more =>
    have next := sound.step positive room moment
    refine more ?_ next
    cases moment with
    | sent command =>
      rw [Shift.step, brimful.closing, Bool.true_or, if_pos rfl]
      exact brimful
    | closed => exact { brimful with closing := rfl }
    | turn => exact brimful.turned next (Shift.turned (sound.sameSize ▸ room))
    | elsewhere change => exact { brimful with }

theorem run_sent (shift : Shift C Net) (opened : shift.closing = false)
    (alive : shift.worker.isAlive = true) (commands : List Command) :
    shift.run (commands.map .sent) = { shift with
      channel := shift.channel ++ commands, submitted := shift.submitted ++ commands } := by
  induction commands generalizing shift with
  | nil =>
    rw [List.append_nil, List.append_nil]
    rfl
  | cons command rest others =>
    let next : Shift C Net := { shift with
      channel := shift.channel ++ [command], submitted := shift.submitted ++ [command] }
    have sent : shift.step (.sent command) = next :=
      if_neg (by rw [opened, alive]; exact Bool.false_ne_true)
    refine (congrArg (run · (rest.map .sent)) sent).trans ((others next opened alive).trans ?_)
    rw [List.append_assoc, List.append_assoc]
    rfl

/-- No batch has been sent when the channel is closed before the first turn. -/
theorem brimful_sent (number size : Nat) (connection : C) (world : World Net)
    (commands : List Command) :
    ((start number size connection world).run (commands.map .sent ++ [.closed])).Brimful
      (max size 1) := by
  rw [run_append, run_sent _ rfl rfl commands]
  exact ⟨rfl, List.forall_mem_nil _, fun _ => List.forall_mem_nil _, nofun⟩

omit [Connection C Net] in
/-- The number of lists of this length that a list is cut into, if only the last may be shorter. -/
theorem length_of_full {α : Type} {parts : List (List α)} (positive : 0 < size)
    (full : ∀ part ∈ parts.dropLast, part.length = size)
    (filled : ∀ part ∈ parts, part ≠ [] ∧ part.length ≤ size) :
    parts.length = (parts.flatten.length + size - 1) / size := by
  rcases List.eq_nil_or_concat' parts with rfl | ⟨before, last, rfl⟩
  · exact (Nat.div_eq_of_lt (by rw [List.flatten_nil, List.length_nil]; omega)).symm
  · rw [List.dropLast_concat] at full
    obtain ⟨nonempty, bound⟩ := filled last (List.mem_append_right before (List.mem_singleton_self _))
    have some := List.length_pos_iff.2 nonempty
    have whole : before.flatten.length = size * before.length := by
      rw [List.length_flatten, List.map_congr_left full, List.map_const', List.sum_replicate_nat,
        Nat.mul_comm]
    rw [List.length_append, List.length_singleton, List.flatten_append, List.flatten_singleton,
      List.length_append, whole]
    have split : size * before.length + last.length + size - 1 =
        last.length - 1 + size * (before.length + 1) := by
      rw [Nat.mul_add]
      omega
    rw [split, Nat.add_mul_div_left _ _ positive, Nat.div_eq_of_lt (by omega), Nat.zero_add]

end Filling

/-! ## Shifts from start to end -/

/-- A worker only ends after its channel was closed, and when all commands that came in have been sent. -/
theorem Sound.stopped {number size : Nat} {shift : Shift C Net} (sound : shift.Sound number size)
    (positive : 0 < size) (room : size ≤ maxRoom) (opened : shift.closing = false)
    (fresh : shift.submitted = []) {moments : List (Moment Net)}
    (stopped : (shift.run moments).worker.phase = .stopped) :
    .closed ∈ moments ∧ (shift.run moments).channel = [] ∧
      (shift.run moments).batches.flatten = Moment.commands moments := by
  have after := sound.run positive room moments
  have calm : (shift.run moments).worker.crash? = none := by rw [Worker.crash?, stopped]
  have working := after.working calm
  rw [Worker.Sound, stopped] at working
  obtain ⟨-, closing, drained⟩ := working
  have closed := ((sound.closing_iff positive room).1 closing).resolve_left
    (Bool.eq_false_iff.1 opened)
  have came := sound.submitted positive room calm
  rw [fresh, opened, if_neg Bool.false_ne_true, List.nil_append] at came
  refine ⟨closed, drained, ?_⟩
  rw [← came, after.conserved, Worker.holding, stopped, drained, List.append_nil, List.append_nil]

/-- Unless its connections crash, a worker does not. -/
theorem calm_of_connections (calm : Connection.Calm C) {number size : Nat} (room : size ≤ maxRoom)
    (positive : 0 < size) {shift : Shift C Net} (sound : shift.Sound number size)
    (moments : List (Moment Net)) : (shift.run moments).worker.crash? = none := by
  cases crashes : (shift.run moments).worker.crash? with
  | none => rfl
  | some cause =>
    obtain ⟨sender, batch, world, -, sent⟩ :=
      (sound.run positive room moments).crashed (Worker.phase_of_crash? crashes)
    cases (Worker.sendBatch_waits calm batch sender world).symm.trans sent

/-- **How a worker forms batches.** Take a worker for whose batches there is room, and let commands come in,
the channel be closed, and the worker go on at any time. At every time the batches that it has sent are not
empty and not larger than they may be. One after the other they are the commands that came in, in order, up to
those that the worker holds and those in the channel. Unless the worker crashes, which it only does with a call
on its connection, all commands come in that are sent before the channel is closed. It ends after the channel
was closed, when all of them are in batches that were sent, and reports the number of these. And it does end,
once it has gone on often enough after that. If the channel is closed before the worker begins, then all
batches but the last are full, and so there are as few of them as there can be. -/
theorem forms_batches {size : Nat} (room : size ≤ maxRoom) (number : Nat) (connection : C)
    (world : World Net) :
    let begun := start number size connection world
    (∀ moments : List (Moment Net),
      let shift := begun.run moments
      shift.batches.flatten ++ shift.worker.holding ++ shift.channel = shift.submitted ∧
      (∀ batch ∈ shift.batches, batch ≠ [] ∧ batch.length ≤ max size 1) ∧
      (shift.worker.crash? = none → shift.submitted = Moment.commands moments) ∧
      (shift.worker.phase = .stopped → .closed ∈ moments ∧ shift.channel = [] ∧
        shift.batches.flatten = Moment.commands moments ∧
        shift.world.log.back? = some (.workerStopped number shift.batches.length)) ∧
      (.closed ∈ moments → ∀ later : List (Moment Net),
        shift.turnsLeft ≤ later.countP Moment.isTurn → (shift.run later).worker.isAlive = false) ∧
      ∀ cause, shift.worker.phase = .crashed cause →
        ∃ (sender : Worker C) (batch : List Command) (world : World Net),
          shift.batches.getLast? = some batch ∧
          (sender.sendBatch batch world).1.phase = .crashed cause) ∧
    (∀ (commands : List Command) (later : List (Moment Net)),
      let shift := begun.run (commands.map .sent ++ .closed :: later)
      (∀ batch ∈ shift.batches.dropLast, batch.length = max size 1) ∧
      (shift.worker.phase = .stopped → shift.batches.flatten = commands ∧
        shift.batches.length = (commands.length + max size 1 - 1) / max size 1)) ∧
    (Connection.Calm C → ∀ moments : List (Moment Net), (begun.run moments).worker.crash? = none) := by
  intro begun
  have positive : 0 < max size 1 := Nat.lt_of_lt_of_le Nat.zero_lt_one (Nat.le_max_right size 1)
  have room' : max size 1 ≤ maxRoom := Nat.max_le.2 ⟨room, by decide⟩
  have sound : begun.Sound number (max size 1) := sound_start number size connection world
  refine ⟨fun moments => ?_, fun commands later => ?_, fun calm =>
    calm_of_connections calm room' positive sound⟩
  · have after := sound.run positive room' moments
    refine ⟨after.conserved.symm, after.filled, sound.submitted positive room', fun stopped => ?_,
      fun closed later => ?_, fun cause => after.crashed⟩
    · obtain ⟨closed, drained, whole⟩ := sound.stopped positive room' rfl rfl stopped
      exact ⟨closed, drained, whole, after.logged stopped⟩
    · exact after.ends positive room' ((sound.closing_iff positive room').2 (Or.inr closed))
  · -- The commands come in before the channel is closed, and the worker only finds it closed.
    have brimful := brimful_sent number size connection world commands
    have split : commands.map Moment.sent ++ .closed :: later =
        (commands.map .sent ++ [.closed]) ++ later := (List.append_cons ..)
    have before := sound.run positive room' (commands.map .sent ++ [.closed])
    have full := (brimful.run before positive room' later).full
    rw [← run_append, ← split] at full
    refine ⟨full, fun stopped => ?_⟩
    obtain ⟨-, -, whole⟩ := sound.stopped positive room' rfl rfl stopped
    have parts := whole.trans (Moment.commands_sent commands later)
    refine ⟨parts, ?_⟩
    rw [← congrArg List.length parts]
    exact length_of_full positive full (sound.run positive room' _).filled

/-- Three commands in batches of two, with the channel closed after the first batch, and with the channel
closed from the start. -/
theorem forms_batches_instance :
    let world : World Tcp.Network := ⟨{ routed := true, servers := [] }, #[]⟩
    let session := Tcp.Session.create "localhost:6379" (.ofSeconds 1)
    let one : Command := ⟨"GET", [[49]], none⟩
    let two : Command := ⟨"GET", [[50]], none⟩
    let three : Command := ⟨"GET", [[51]], none⟩
    let slowly : List (Moment Tcp.Network) :=
      [.sent one, .sent two, .turn, .turn, .turn, .sent three, .turn, .turn, .closed, .turn]
    let quickly : List (Moment Tcp.Network) :=
      [one, two, three].map .sent ++ .closed :: List.replicate 7 .turn
    let begun := start 1 2 session world
    2 ≤ maxRoom ∧ (begun.run slowly).batches = [[one, two], [three]] ∧
    (begun.run slowly).worker.crash? = none ∧ (begun.run slowly).submitted = [one, two, three] ∧
    ((begun.run slowly).run [.turn]).worker.isAlive = false ∧
    (begun.run quickly).worker.phase = .stopped ∧
    (begun.run quickly).batches.flatten = [one, two, three] ∧
    (begun.run quickly).batches.length = (3 + 2 - 1) / 2 := by
  intro world session one two three slowly quickly begun
  have room : 2 ≤ maxRoom := by decide
  obtain ⟨always, closed, calm⟩ := forms_batches (C := Tcp.Session) room 1 session world
  have sent : (begun.run slowly).batches = [[one, two], [three]] := by
    dsimp +zetaDelta only
    decide +kernel
  have stopped : (begun.run quickly).worker.phase = .stopped := by
    dsimp +zetaDelta only
    decide +kernel
  have few : (begun.run slowly).turnsLeft ≤ [(.turn : Moment Tcp.Network)].countP Moment.isTurn := by
    dsimp +zetaDelta only
    decide +kernel
  have closes : .closed ∈ slowly := by simp [slowly]
  obtain ⟨-, -, came, -, ends, -⟩ := always slowly
  have noCrash := calm Tcp.Session.calm slowly
  obtain ⟨-, ended⟩ := closed [one, two, three] (List.replicate 7 .turn)
  have same : begun.run quickly = (start 1 2 session world).run
    ([one, two, three].map .sent ++ .closed :: List.replicate 7 .turn) := rfl
  rw [← same] at ended
  obtain ⟨whole, count⟩ := ended stopped
  exact ⟨room, sent, noCrash, came noCrash, ends closes [.turn] few, stopped, whole, count⟩

/-- A worker for whose batches there is no room crashes with the first command, which is lost. -/
theorem not_forms_batches_of_large_batches :
    ¬∀ (number size : Nat) (connection : Tcp.Session) (world : World Tcp.Network)
      (moments : List (Moment Tcp.Network)),
      let shift := (start number size connection world).run moments
      shift.worker.isAlive = false → shift.batches.flatten = shift.submitted := by
  intro always
  let large := 1 <<< 63
  let world : World Tcp.Network := ⟨{ routed := true, servers := [] }, #[]⟩
  let session := Tcp.Session.create "localhost:6379" (.ofSeconds 1)
  let moments : List (Moment Tcp.Network) := [.sent .ping, .closed, .turn]
  have ended : ((start 1 large session world).run moments).worker.isAlive = false := by
    dsimp +zetaDelta only
    decide +kernel
  have nothing : ((start 1 large session world).run moments).batches = [] := by
    dsimp +zetaDelta only
    decide +kernel
  have lost : ((start 1 large session world).run moments).submitted = [.ping] := by
    dsimp +zetaDelta only
    decide +kernel
  have whole := always 1 large session world moments ended
  rw [nothing, lost] at whole
  cases whole

end Shift

end RespClient.Queue
