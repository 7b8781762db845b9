import RespClient.Proofs.WorkerRun
import RespClient.Queue

/-!
# Runs of a queue

Between its start and its end a queue is used by any number of calls that submit commands, while its
workers go on side by side. A `History` follows such a session. Its events are the single actions
of the calls and of the workers, in any order: a call gets hold of the channel, looks at its
commands, and sends them one by one; a worker takes a command, or finds that there is none, or sends
its batch. A call that finds no room waits, so that its turn changes nothing.

The channel is closed once the queue has let go of it and no call holds it any longer
(`History.closed`). This may be long after the queue was told to close.

`move_cases` says what a worker can do in one step. A crash of a worker is there to stay
(`History.calm_of_step`), so that a session without crashes had none at any time.
-/

namespace RespClient.Queue

variable {C Net : Type}

/-- The commands that wait for a worker, the oldest first. -/
def channel (queue : Queue C) : List Command :=
  (queue.running.map Running.channel).getD []

/-- Whether the workers are told that the channel is closed. -/
def closing (queue : Queue C) : Bool := (queue.running.map Running.closing).getD false

/-- The workers, once the queue was started. -/
def workers (queue : Queue C) : List (Worker C) := (queue.running.map Running.workers).getD []

section Accessors

variable {queue : Queue C} {running : Running C}

theorem channel_of_running (running? : queue.running = some running) :
    queue.channel = running.channel := by
  rw [channel, running?]
  rfl

theorem length_eq_length_channel (queue : Queue C) : queue.length = queue.channel.length := by
  rcases queue with ⟨config, logger, seed, _ | running, workerLog⟩ <;> rfl

theorem closing_of_running (running? : queue.running = some running) :
    queue.closing = running.closing := by
  rw [closing, running?]
  rfl

theorem workers_of_running (running? : queue.running = some running) :
    queue.workers = running.workers := by
  rw [workers, running?]
  rfl

end Accessors

/-! ## Sessions -/

/-- How far a call that submits commands has come. -/
inductive Progress where
  /-- It holds the channel and has not looked at its commands. -/
  | entered
  /-- It has these commands left to send. -/
  | sending (rest : List Command)
  | returned (result : Except Error Unit)

/-- A call that submits commands. -/
structure Submission where
  commands : List Command
  progress : Progress

/-- Whether a call may still send commands. -/
def Submission.holdsChannel (submission : Submission) : Bool :=
  match submission.progress with
  | .entered | .sending _ => true
  | .returned _ => false

/-- How far a queue has come with closing. -/
inductive Gate where
  /-- Calls that begin get hold of the channel. -/
  | accepting
  /-- Calls that begin are refused, and the queue still holds the channel. -/
  | refusing
  /-- The queue has let go of the channel. -/
  | released
  deriving DecidableEq

/-- What happens to a queue while it is open. Calls are named by their number in the order in which
they began, and workers by theirs. -/
inductive Event (Net : Type) where
  /-- A call begins. -/
  | submit (commands : List Command)
  /-- A call goes on. -/
  | proceed (call : Nat)
  /-- The queue is told to close. -/
  | close
  /-- The queue lets go of the channel. -/
  | release
  /-- A worker goes on. -/
  | work (index : Nat)
  | elsewhere (change : World Net → World Net)

/-- A queue that was started, with the calls so far, and with what became of their commands. -/
structure History (C Net : Type) where
  queue : Queue C
  world : World Net
  gate : Gate := .accepting
  submissions : List Submission := []
  /-- The commands that were put into the channel, in order, each with the number of its call. -/
  accepted : List (Nat × Command) := []
  /-- The commands that were taken from the channel, in order, each with the number of the worker. -/
  taken : List (Nat × Command) := []
  /-- The batches that were sent, in order, each with the number of the worker. -/
  batches : List (Nat × List Command) := []

/-- The commands that the next step of a worker takes from the channel. -/
def takes (index : Nat) (queue : Queue C) : List Command :=
  match queue.running with
  | none => []
  | some running =>
    match running.workers[index]? with
    | none => []
    | some worker =>
      match running.find? worker.phase with
      | none => []
      | some (finding, _) => finding.commands

/-- The batches that the next step of a worker sends, one at most. -/
def sends (index : Nat) (queue : Queue C) : List (List Command) :=
  match queue.workers[index]? with
  | none => []
  | some worker =>
    match worker.phase with
    | .ready batch _ => [batch]
    | .waiting | .collecting _ | .stopped | .crashed _ => []

namespace History

/-- Whether the channel is closed: nothing holds it, and nothing will. -/
def closed (history : History C Net) : Bool :=
  history.gate = .released && !history.submissions.any Submission.holdsChannel

/-- Lets the workers see whether the channel is closed. -/
def sync (history : History C Net) : History C Net :=
  let running := history.queue.running.map fun running => { running with closing := history.closed }
  { history with queue := { history.queue with running } }

/-- The session once a call has come so far. -/
def advance (call : Nat) (progress : Progress) (history : History C Net) : History C Net :=
  let submissions := history.submissions.modify call fun submission => { submission with progress }
  { history with submissions }.sync

variable [Connection C Net]

/-- What an event leaves. An event that cannot happen changes nothing. -/
def step (history : History C Net) : Event Net → History C Net
  | .submit commands =>
    let progress :=
      match history.gate with
      | .accepting => .entered
      | .refusing | .released => .returned (.error .queueClosed)
    { history with submissions := history.submissions ++ [⟨commands, progress⟩] }
  | .proceed call =>
    match history.submissions[call]? with
    | some ⟨commands, .entered⟩ =>
      match commands.findIdx? Command.isEmpty with
      | some index => history.advance call (.returned (.error (.emptyCommand index)))
      | none => history.advance call (.sending commands)
    | some ⟨_, .sending []⟩ => history.advance call (.returned (.ok ()))
    | some ⟨_, .sending (command :: rest)⟩ =>
      match history.queue.send command with
      | .error error => history.advance call (.returned (.error error))
      | .ok queue =>
        if history.queue.length < history.queue.config.queueSize then
          { history with queue, accepted := history.accepted ++ [(call, command)] }.advance call
            (.sending rest)
        else history
    | some ⟨_, .returned _⟩ | none => history
  | .close =>
    match history.gate with
    | .accepting => { history with gate := .refusing }
    | .refusing | .released => history
  | .release =>
    match history.gate with
    | .refusing => { history with gate := .released }.sync
    | .accepting | .released => history
  | .work index =>
    match history.queue.move index history.world with
    | none => history
    | some (queue, world) =>
      let taken := history.taken ++ (history.queue.takes index).map (index, ·)
      let batches := history.batches ++ (history.queue.sends index).map (index, ·)
      { history with queue, world, taken, batches }
  | .elsewhere change => { history with world := change history.world }

/-- What events leave, one after the other. -/
def run (history : History C Net) (events : List (Event Net)) : History C Net :=
  events.foldl step history

omit [Connection C Net] in
/-- No worker has crashed. -/
def Calm (history : History C Net) : Prop :=
  ∀ worker ∈ history.queue.workers, worker.crash? = none

end History

/-! ## Starting -/

theorem Config.pos_of_check {config : Config} (valid : config.check = .ok ()) :
    0 < config.queueSize ∧ 0 < config.workers ∧ 0 < config.batchSize := by
  unfold check at valid
  split at valid
  · cases valid
  · next queueSize =>
    split at valid
    · cases valid
    · next workers =>
      split at valid
      · cases valid
      · next batchSize =>
        exact ⟨Nat.pos_of_ne_zero queueSize, Nat.pos_of_ne_zero workers,
          Nat.pos_of_ne_zero batchSize⟩

section Starting

variable [Connection C Net]

/-- The workers of a queue begin by waiting, and there are as many as are asked for. -/
theorem startWorkers_ok {logger : Logger} {batchSize : Nat} {seed : C} {count : Nat} :
    ∀ {number : Nat} {workers workers' : List (Worker C)} {workerLog workerLog' : Array LogEntry}
      {world world' : World Net},
      startWorkers logger batchSize seed number count workers workerLog world =
        (none, workers', workerLog', world') →
      workers'.length = workers.length + count ∧
      ∀ worker ∈ workers', worker ∈ workers ∨
        worker.phase = .waiting ∧ worker.batchSize = max batchSize 1 := by
  induction count with
  | zero =>
    intro number workers workers' workerLog workerLog' world world' starts
    cases starts
    exact ⟨rfl, fun worker there => Or.inl there⟩
  | succ count more =>
    intro number workers workers' workerLog workerLog' world world' starts
    unfold startWorkers at starts
    rcases copies : Connection.sibling seed world with ⟨error | connection, next⟩
    · rw [copies] at starts
      cases starts
    · simp only [copies] at starts
      obtain ⟨length, fresh⟩ := more starts
      refine ⟨?_, fun worker there => ?_⟩
      · rw [length, List.length_append, List.length_singleton]
        omega
      · rcases fresh worker there with old | begins
        · rcases List.mem_append.1 old with older | new
          · exact Or.inl older
          · rw [List.mem_singleton.1 new]
            exact Or.inr ⟨rfl, rfl⟩
        · exact Or.inr begins

/-- A queue is started once it was closed and has what it needs, and if all its workers are. -/
theorem start_ok_iff {queue opened : Queue C} {world world' : World Net} :
    queue.start world = (.ok (), opened, world') ↔
    queue.running = none ∧ queue.config.check = .ok () ∧ queue.config.queueSize ≤ maxRoom ∧
    ∃ logger seed workers workerLog world'', queue.logger = some logger ∧ queue.seed = some seed ∧
      startWorkers logger queue.config.batchSize seed 0 queue.config.workers [] queue.workerLog
        world = (none, workers, workerLog, world'') ∧
      opened = { queue with running := some { workers, logger }, workerLog } ∧
      world' = world''.report (.queueOpened queue.config.queueSize queue.config.workers
        queue.config.batchSize) := by
  constructor
  · intro starts
    unfold start at starts
    split at starts
    · cases starts
    · next notOpen =>
      have closed : queue.running = none := Option.not_isSome_iff_eq_none.1 notOpen
      split at starts
      · cases starts
      · cases starts
      · next logger seed logger? seed? =>
        split at starts
        · cases starts
        · next valid =>
          dsimp only at starts
          split at starts
          · cases starts
          · next room =>
            rcases all : startWorkers logger queue.config.batchSize seed 0 queue.config.workers []
              queue.workerLog world with ⟨_ | ⟨number, error⟩, workers, workerLog, world''⟩
            · simp only [all] at starts
              cases starts
              exact ⟨closed, valid, Nat.le_of_not_lt room, logger, seed, workers, workerLog, world'',
                logger?, seed?, all, rfl, rfl⟩
            · simp only [all] at starts
              cases starts
  · rintro ⟨closed, valid, room, logger, seed, workers, workerLog, world'', logger?, seed?, all,
      rfl, rfl⟩
    have notOpen : ¬ queue.isOpen = true := by simp only [isOpen, closed, Option.isSome_none,
      Bool.false_eq_true, not_false_eq_true]
    simp only [start, if_neg notOpen, logger?, seed?, valid, if_neg (Nat.not_lt_of_le room), all]

end Starting

/-! ## Steps of workers -/

variable [Connection C Net]

/-- What a worker can become in one step, with the channel that it leaves, the commands that it took
from there, and the batches that it sent. -/
inductive Turn (running : Running C) (worker : Worker C) :
    Worker C → List Command → List Command → List (List Command) → Prop where
  | takes {command : Command} {rest : List Command} (there : running.channel = command :: rest)
    (gathers : worker.phase = .waiting ∨ ∃ batch, worker.phase = .collecting batch) :
    Turn running worker
      { worker with phase := Worker.gather worker.batchSize (worker.holding ++ [command]) }
      rest [command] []
  | crashes {after : Worker C} {rest taken : List Command} {sent : List (List Command)}
    (alive : worker.isAlive = true) (shorter : rest.length ≤ running.channel.length)
    (crashed : after.crash?.isSome = true) : Turn running worker after rest taken sent
  | completes {batch : List Command} (collects : worker.phase = .collecting batch)
    (nothing : running.channel = []) :
    Turn running worker { worker with phase := .ready batch running.closing } [] [] []
  | finishes (waits : worker.phase = .waiting) (nothing : running.channel = [])
    (closing : running.closing = true) (world : World Net) :
    Turn running worker (worker.finish world).1 [] [] []
  | performs {batch : List Command} {last : Bool} (ready : worker.phase = .ready batch last)
    (world : World Net) :
    Turn running worker (worker.perform world).1 running.channel [] [batch]

/-- Only workers that are left take turns. -/
theorem Turn.alive {running : Running C} {worker after : Worker C} {rest taken : List Command}
    {sent : List (List Command)} (turn : Turn running worker after rest taken sent) :
    worker.isAlive = true := by
  cases turn with
  | takes there gathers =>
    rcases gathers with waits | ⟨batch, collects⟩
    · rw [Worker.isAlive, waits]
    · rw [Worker.isAlive, collects]
  | crashes alive => exact alive
  | completes collects => rw [Worker.isAlive, collects]
  | finishes waits => rw [Worker.isAlive, waits]
  | performs ready => rw [Worker.isAlive, ready]

/-- One step of a worker is an action of it on its own, with what it finds in the channel. -/
theorem move_acts {index : Nat} {queue queue' : Queue C} {world world' : World Net}
    (moves : queue.move index world = some (queue', world')) :
    ∃ running worker, queue.running = some running ∧ running.workers[index]? = some worker ∧
      ((∃ batch last, worker.phase = .ready batch last ∧
        (queue', world') = queue.act index running worker.perform world) ∨
      ∃ finding rest, running.find? worker.phase = some (finding, rest) ∧
        (queue', world') =
          queue.act index { running with channel := rest } (worker.observe finding) world) := by
  unfold move at moves
  rcases running? : queue.running with _ | running
  · rw [running?] at moves
    cases moves
  · rcases there : running.workers[index]? with _ | worker
    · simp only [running?, Option.bind_eq_bind, Option.bind_some, there] at moves
      cases moves
    · refine ⟨running, worker, rfl, there, ?_⟩
      simp only [running?, Option.bind_eq_bind, Option.bind_some, there] at moves
      split at moves
      · next batch last phase =>
        cases moves
        exact Or.inl ⟨batch, last, phase, rfl⟩
      · rcases finds : running.find? worker.phase with _ | ⟨finding, rest⟩
        · simp only [finds] at moves
          cases moves
        · simp only [finds] at moves
          cases moves
          exact Or.inr ⟨finding, rest, rfl, rfl⟩

omit [Connection C Net] in
/-- A worker that looks at the channel takes the oldest command, or finds that there is none. -/
theorem Running.find?_cases {running : Running C} {phase : Phase} {finding : Finding}
    {rest : List Command} (finds : running.find? phase = some (finding, rest)) :
    (∃ command, finding = .command command ∧ running.channel = command :: rest ∧
      (phase = .waiting ∨ ∃ batch, phase = .collecting batch)) ∨
    running.channel = [] ∧ rest = [] ∧
      ((phase = .waiting ∧ running.closing = true ∧ finding = .closed) ∨
      ∃ batch, phase = .collecting batch ∧
        finding = if running.closing then .closed else .nothing) := by
  rcases running with ⟨_ | ⟨command, others⟩, closing, workers, logger⟩
  · cases phase with
    | waiting =>
      cases closing with
      | false => cases finds
      | true =>
        cases finds
        exact Or.inr ⟨rfl, rfl, Or.inl ⟨rfl, rfl, rfl⟩⟩
    | collecting batch =>
      cases finds
      exact Or.inr ⟨rfl, rfl, Or.inr ⟨batch, rfl, rfl⟩⟩
    | ready | stopped | crashed => cases finds
  · cases phase with
    | waiting =>
      cases finds
      exact Or.inl ⟨command, rfl, rfl, Or.inl rfl⟩
    | collecting batch =>
      cases finds
      exact Or.inl ⟨command, rfl, rfl, Or.inr ⟨batch, rfl⟩⟩
    | ready | stopped | crashed => cases finds

omit [Connection C Net] in
theorem Running.gathers_of_find? {running : Running C} {phase : Phase} {finding : Finding}
    {rest : List Command} (finds : running.find? phase = some (finding, rest)) :
    phase = .waiting ∨ ∃ batch, phase = .collecting batch := by
  rcases find?_cases finds with ⟨-, -, -, gathers⟩ | ⟨-, -, ⟨waits, -⟩ | ⟨batch, collects, -⟩⟩
  · exact gathers
  · exact Or.inl waits
  · exact Or.inr ⟨batch, collects⟩

/-- A worker that looks at the channel takes what it finds, and sends nothing yet. -/
theorem observe_turn {finding : Finding} {rest : List Command} {running : Running C}
    {worker : Worker C} (finds : running.find? worker.phase = some (finding, rest))
    (world : World Net) :
    Turn running worker (worker.observe finding world).1 rest finding.commands [] := by
  rcases Running.find?_cases finds with ⟨command, rfl, found, gathers⟩ |
    ⟨nothing, rfl, ⟨waits, closing, rfl⟩ | ⟨batch, collects, rfl⟩⟩
  · rcases gathers with waits | ⟨batch, collects⟩
    · by_cases large : maxRoom < worker.batchSize
      · have out : worker.observe (.command command) world =
            worker.crash .capacityOverflow world := by
          simp only [Worker.observe, waits, large, if_true]
        have shorter : rest.length ≤ running.channel.length := by
          rw [found]
          exact Nat.le_succ rest.length
        rw [out]
        exact .crashes (by rw [Worker.isAlive, waits]) shorter rfl
      · have out : (worker.observe (.command command) world).1 = { worker with
            phase := Worker.gather worker.batchSize (worker.holding ++ [command]) } := by
          simp only [Worker.observe, Worker.holding, waits, large, if_false, List.nil_append]
        rw [out]
        exact .takes found (Or.inl waits)
    · have out : (worker.observe (.command command) world).1 = { worker with
          phase := Worker.gather worker.batchSize (worker.holding ++ [command]) } := by
        simp only [Worker.observe, Worker.holding, collects]
      rw [out]
      exact .takes found (Or.inr ⟨batch, collects⟩)
  · have out : worker.observe .closed world = worker.finish world := by
      simp only [Worker.observe, waits]
    rw [out]
    exact .finishes waits nothing closing world
  · have out : (worker.observe (if running.closing then .closed else .nothing) world).1 =
        { worker with phase := .ready batch running.closing } := by
      cases running.closing <;> simp only [Worker.observe, collects] <;> rfl
    have none : (if running.closing then Finding.closed else .nothing).commands = [] := by
      cases running.closing <;> rfl
    rw [out, none]
    exact .completes collects nothing

/-- What a worker does in one step, and what of the queue it changes. -/
theorem move_cases {index : Nat} {queue queue' : Queue C} {world world' : World Net}
    (moves : queue.move index world = some (queue', world')) :
    ∃ running worker after rest workerLog,
      queue.running = some running ∧ running.workers[index]? = some worker ∧
      Turn running worker after rest (queue.takes index) (queue.sends index) ∧
      queue' = { queue with
        running := some ({ running with channel := rest }.withWorkers
          (running.workers.set index after))
        workerLog } := by
  obtain ⟨running, worker, running?, there, acts⟩ := move_acts moves
  have here : queue.workers[index]? = some worker := by
    rw [workers_of_running running?]
    exact there
  rcases acts with ⟨batch, last, phase, acts⟩ | ⟨finding, rest, finds, acts⟩
  · have takes : queue.takes index = [] := by
      simp only [takes, running?, there, phase, Running.find?]
    have sends : queue.sends index = [batch] := by
      simp only [sends, here, phase]
    cases acts
    rw [takes, sends]
    exact ⟨running, worker, _, running.channel, _, running?, there,
      .performs phase { world with log := queue.workerLog }, rfl⟩
  · have takes : queue.takes index = finding.commands := by
      simp only [takes, running?, there, finds]
    have sends : queue.sends index = [] := by
      simp only [sends, here]
      rcases Running.gathers_of_find? finds with waits | ⟨batch, collects⟩
      · rw [waits]
      · rw [collects]
    cases acts
    rw [takes, sends]
    exact ⟨running, worker, _, rest, _, running?, there,
      observe_turn finds { world with log := queue.workerLog }, rfl⟩

/-- A worker that goes on leaves the queue open, and the channel as it is with regard to closing. -/
theorem closing_of_move {index : Nat} {queue queue' : Queue C} {world world' : World Net}
    (moves : queue.move index world = some (queue', world')) :
    queue'.isOpen = true ∧ queue'.closing = queue.closing ∧ queue'.config = queue.config := by
  obtain ⟨running, worker, after, rest, workerLog, running?, -, -, rfl⟩ := move_cases moves
  refine ⟨rfl, ?_, rfl⟩
  rw [closing_of_running running?]
  rfl

/-! ## Steps of calls -/

/-- How far a call can come in one step, with the queue that it leaves, and the commands that it has
put into the channel. -/
inductive Submission.Proceeds (queue : Queue C) (submission : Submission) :
    Progress → Queue C → List Command → Prop where
  | refused {index : Nat} (enters : submission.progress = .entered)
    (empty : submission.commands.findIdx? Command.isEmpty = some index) :
    Proceeds queue submission (.returned (.error (.emptyCommand index))) queue []
  | admitted (enters : submission.progress = .entered)
    (named : submission.commands.findIdx? Command.isEmpty = none) :
    Proceeds queue submission (.sending submission.commands) queue []
  | returns (done : submission.progress = .sending []) :
    Proceeds queue submission (.returned (.ok ())) queue []
  | abandoned {command : Command} {rest : List Command} {error : Error}
    (goesOn : submission.progress = .sending (command :: rest))
    (fails : queue.send command = .error error) :
    Proceeds queue submission (.returned (.error error)) queue []
  | sends {command : Command} {rest : List Command} {queue' : Queue C}
    (goesOn : submission.progress = .sending (command :: rest))
    (room : queue.length < queue.config.queueSize) (sends : queue.send command = .ok queue') :
    Proceeds queue submission (.sending rest) queue' [command]

theorem Submission.Proceeds.holdsChannel {queue queue' : Queue C} {submission : Submission}
    {progress : Progress} {sent : List Command}
    (proceeds : submission.Proceeds queue progress queue' sent) :
    submission.holdsChannel = true := by
  cases proceeds with
  | refused enters => rw [Submission.holdsChannel, enters]
  | admitted enters => rw [Submission.holdsChannel, enters]
  | returns done => rw [Submission.holdsChannel, done]
  | abandoned goesOn => rw [Submission.holdsChannel, goesOn]
  | sends goesOn => rw [Submission.holdsChannel, goesOn]

/-- A call that can go on does so, and one that has returned or waits changes nothing. -/
theorem History.proceed_cases (history : History C Net) (call : Nat) :
    history.step (.proceed call) = history ∨
    ∃ submission progress queue sent, history.submissions[call]? = some submission ∧
      submission.Proceeds history.queue progress queue sent ∧
      history.step (.proceed call) = { history with
        queue, accepted := history.accepted ++ sent.map (call, ·) }.advance call progress := by
  have noneSent : history.accepted ++ ([] : List Command).map (call, ·) = history.accepted :=
    List.append_nil history.accepted
  unfold step
  dsimp only
  split
  · next commands found =>
    split
    · next index empty =>
      refine Or.inr ⟨⟨commands, .entered⟩, _, _, [], found, .refused rfl empty, ?_⟩
      rw [noneSent]
    · next named =>
      refine Or.inr ⟨⟨commands, .entered⟩, _, _, [], found, .admitted rfl named, ?_⟩
      rw [noneSent]
  · next commands found =>
    refine Or.inr ⟨⟨commands, .sending []⟩, _, _, [], found, .returns rfl, ?_⟩
    rw [noneSent]
  · next commands command rest found =>
    split
    · next error fails =>
      refine Or.inr ⟨⟨commands, .sending (command :: rest)⟩, _, _, [], found,
        .abandoned rfl fails, ?_⟩
      rw [noneSent]
    · next queue sends =>
      split
      · next room =>
        exact Or.inr ⟨⟨commands, .sending (command :: rest)⟩, _, _, [command], found,
          .sends rfl room sends, rfl⟩
      · exact Or.inl rfl
  · exact Or.inl rfl
  · exact Or.inl rfl

/-! ## Sessions without crashes -/

/-- A worker that takes a turn has not crashed before. -/
theorem Turn.calm {running : Running C} {worker after : Worker C} {rest taken : List Command}
    {sent : List (List Command)} (turn : Turn running worker after rest taken sent)
    (calm : after.crash? = none) : worker.crash? = none := by
  cases turn with
  | takes there gathers =>
    rcases gathers with waits | ⟨batch, collects⟩
    · rw [Worker.crash?, waits]
    · rw [Worker.crash?, collects]
  | crashes alive shorter crashed =>
    rw [calm] at crashed
    cases crashed
  | completes collects => rw [Worker.crash?, collects]
  | finishes waits => rw [Worker.crash?, waits]
  | performs ready => rw [Worker.crash?, ready]

omit [Connection C Net] in
/-- A queue that takes a command has a worker for it, and puts it in last. -/
theorem send_ok {queue queue' : Queue C} {command : Command}
    (sends : queue.send command = .ok queue') :
    ∃ running, queue.running = some running ∧ running.workers.any Worker.isAlive = true ∧
      queue' = { queue with
        running := some { running with channel := running.channel ++ [command] } } := by
  unfold send at sends
  split at sends
  · cases sends
  · next running running? =>
    split at sends
    · next alive =>
      cases sends
      exact ⟨running, running?, alive, rfl⟩
    · cases sends

namespace History

variable {history : History C Net}

omit [Connection C Net] in
theorem workers_sync (history : History C Net) :
    history.sync.queue.workers = history.queue.workers := by
  rcases history with ⟨⟨config, logger, seed, _ | running, workerLog⟩, world⟩ <;> rfl

omit [Connection C Net] in
theorem workers_proceed {queue queue' : Queue C} {submission : Submission} {progress : Progress}
    {sent : List Command} (proceeds : submission.Proceeds queue progress queue' sent) :
    queue'.workers = queue.workers := by
  cases proceeds with
  | refused | admitted | returns | abandoned => rfl
  | sends goesOn room sends =>
    obtain ⟨running, running?, -, rfl⟩ := send_ok sends
    rw [workers_of_running running?]
    rfl

/-- Only steps of workers change the workers. -/
theorem workers_step {event : Event Net} (calls : ∀ index, event ≠ .work index) :
    (history.step event).queue.workers = history.queue.workers := by
  cases event with
  | submit | elsewhere => rfl
  | proceed call =>
    rcases history.proceed_cases call with
      stays | ⟨submission, progress, queue, sent, -, proceeds, out⟩
    · rw [stays]
    · rw [out]
      exact (workers_sync _).trans (workers_proceed proceeds)
  | close => rcases history with ⟨queue, world, _ | _ | _, submissions⟩ <;> rfl
  | release =>
    rcases history with ⟨queue, world, _ | _ | _, submissions⟩
    · rfl
    · exact workers_sync _
    · rfl
  | work index => exact absurd rfl (calls index)

/-- A session without crashes had none before. -/
theorem calm_of_step {event : Event Net} (calm : (history.step event).Calm) : history.Calm := by
  cases event with
  | work index =>
    rcases moves : history.queue.move index history.world with _ | ⟨queue, world⟩
    · simp only [step, moves] at calm
      exact calm
    · simp only [step, moves] at calm
      obtain ⟨running, worker, after, rest, workerLog, running?, there, turn, rfl⟩ :=
        move_cases moves
      have inside := (List.getElem?_eq_some_iff.1 there).1
      have calm' : ∀ other ∈ running.workers.set index after, other.crash? = none := calm
      intro other member
      rw [workers_of_running running?] at member
      obtain ⟨place, other?⟩ := List.mem_iff_getElem?.1 member
      by_cases same : index = place
      · rw [← same, there] at other?
        rw [← Option.some.inj other?]
        exact turn.calm (calm' after (List.mem_set inside after))
      · have stays : (running.workers.set index after)[place]? = some other := by
          rw [List.getElem?_set_ne same]
          exact other?
        exact calm' other (List.mem_of_getElem? stays)
  | submit | proceed | close | release | elsewhere =>
    rw [Calm, workers_step fun _ other => by cases other] at calm
    exact calm

theorem calm_of_run {events : List (Event Net)} (calm : (history.run events).Calm) :
    history.Calm := by
  induction events generalizing history with
  | nil => exact calm
  | cons event later before => exact calm_of_step (before calm)

/-! ### The configuration -/

theorem config_step (history : History C Net) (event : Event Net) :
    (history.step event).queue.config = history.queue.config := by
  cases event with
  | submit commands => rfl
  | proceed call =>
    rcases history.proceed_cases call with
      stays | ⟨submission, progress, queue, sent, -, proceeds, out⟩
    · rw [stays]
    · rw [out]
      cases proceeds with
      | refused | admitted | returns | abandoned => rfl
      | sends goesOn room sends =>
        obtain ⟨running, -, -, rfl⟩ := send_ok sends
        rfl
  | close => rcases history with ⟨queue, world, _ | _ | _, submissions⟩ <;> rfl
  | release => rcases history with ⟨queue, world, _ | _ | _, submissions⟩ <;> rfl
  | work index =>
    rcases moves : history.queue.move index history.world with _ | ⟨queue, world⟩
    · simp only [step, moves]
    · simp only [step, moves]
      exact (closing_of_move moves).2.2
  | elsewhere change => rfl

theorem config_run (history : History C Net) (events : List (Event Net)) :
    (history.run events).queue.config = history.queue.config := by
  induction events generalizing history with
  | nil => rfl
  | cons event later same => exact (same (history.step event)).trans (config_step history event)

end History

end RespClient.Queue
