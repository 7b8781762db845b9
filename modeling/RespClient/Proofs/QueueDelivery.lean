import RespClient.Proofs.QueueConnections
import RespClient.Proofs.QueueSchedules

/-!
# Delivery of commands

Whatever calls submit, and in whatever order calls and workers go on, a queue loses no command and
sends none twice. `delivers_exactly_once` is the main statement: `History.Lossless` holds at every
time, and `History.Delivered` once all workers have ended, which is when closing the queue returns.
-/

namespace RespClient.Queue

variable {C Net : Type}

/-- At every time of a session, nothing was lost or sent twice, and all was done in order. -/
structure History.Lossless (config : Config) (history : History C Net) : Prop where
  /-- The accepted commands are those that were sent, those that workers hold, and those that
  wait. -/
  conserved : (history.accepted.map Prod.snd).Perm
    ((history.batches.map Prod.snd).flatten ++ history.queue.workers.flatMap Worker.holding ++
      history.queue.channel)
  room : history.queue.channel.length ≤ config.queueSize
  held : ∀ worker ∈ history.queue.workers, worker.holding.length ≤ config.batchSize
  sent : ∀ entry ∈ history.batches, entry.2 ≠ [] ∧ entry.2.length ≤ config.batchSize
  /-- Each worker sends commands in the order in which they were put into the channel. -/
  inOrder : ∀ {index : Nat} {worker : Worker C}, history.queue.workers[index]? = some worker →
    ((entriesOf index history.batches).flatten ++ worker.holding).Sublist
      (history.accepted.map Prod.snd)
  /-- A single worker sends all commands in that order. -/
  alone : config.workers = 1 →
    (history.batches.map Prod.snd).flatten ++ history.queue.workers.flatMap Worker.holding ++
      history.queue.channel = history.accepted.map Prod.snd
  /-- A call puts its commands into the channel in order, all of them if it succeeds and none if it
  is refused. -/
  contributed : ∀ {call : Nat} {submission : Submission},
    history.submissions[call]? = some submission →
    submission.Contributes (entriesOf call history.accepted)

/-- At the end of a session, every command was sent in one batch of one worker. -/
structure History.Delivered (config : Config) (history : History C Net) : Prop where
  closed : history.closed = true
  empty : history.queue.channel = []
  /-- Each accepted command has one worker, whose batches are its commands in order. -/
  once : ∃ owners : List Nat, owners.length = history.accepted.length ∧
    (∀ owner ∈ owners, owner < config.workers) ∧
    ∀ index, entriesOf index (owners.zip (history.accepted.map Prod.snd)) =
      (entriesOf index history.batches).flatten

namespace History

variable {history : History C Net}

theorem Orderly.lossless (orderly : history.Orderly) :
    history.Lossless history.queue.config := by
  obtain ⟨sound, -, contributed⟩ := orderly
  exact {
    conserved := by
      rw [sound.conserved]
      exact sound.balanced.append_right history.queue.channel
    room := sound.room
    held := fun worker there => (sound.workers worker there).holding_le
    sent := sound.filled
    inOrder := by
      intro index worker found
      rw [← sound.handled found, sound.conserved]
      exact entriesOf_sublist.trans (List.sublist_append_left _ _)
    alone := by
      intro single
      have staff := sound.staff.trans single
      obtain ⟨worker, only⟩ := List.length_eq_one_iff.1 staff
      have taken : entriesOf 0 history.taken = history.taken.map Prod.snd :=
        entriesOf_eq_map fun entry there => Nat.lt_one_iff.1 (staff ▸ sound.takers entry there)
      have sent : entriesOf 0 history.batches = history.batches.map Prod.snd :=
        entriesOf_eq_map fun entry there => Nat.lt_one_iff.1 (staff ▸ sound.senders entry there)
      have first : history.queue.workers[0]? = some worker := by rw [only]; rfl
      have handled := sound.handled first
      rw [taken, sent] at handled
      rw [sound.conserved, handled, only, List.flatMap_singleton]
    contributed := contributed.contributes }

/-- A worker that has ended without a crash saw the channel closed and empty. -/
theorem Sound.ended (sound : history.Sound) {worker : Worker C}
    (there : worker ∈ history.queue.workers) (ended : worker.isAlive = false) :
    history.queue.closing = true ∧ history.queue.channel = [] ∧ worker.holding = [] := by
  have sound' := sound.workers worker there
  rcases worker with ⟨number, batchSize, connection, phase, batches⟩
  cases phase with
  | waiting | collecting | ready => cases ended
  | stopped => exact ⟨sound'.2.1, sound'.2.2, rfl⟩
  | crashed => exact sound'.2.elim

theorem Orderly.delivered (orderly : history.Orderly)
    (ended : ∀ worker ∈ history.queue.workers, worker.isAlive = false) :
    history.Delivered history.queue.config := by
  obtain ⟨sound, synced, -⟩ := orderly
  have manned := sound.workers_pos
  rw [← sound.staff] at manned
  obtain ⟨worker, there⟩ := List.exists_mem_of_length_pos manned
  obtain ⟨closing, empty, -⟩ := sound.ended there (ended worker there)
  have all : history.accepted.map Prod.snd = history.taken.map Prod.snd := by
    rw [sound.conserved, empty, List.append_nil]
  refine ⟨synced.symm.trans closing, empty, history.taken.map Prod.fst, ?_, ?_, ?_⟩
  · have sameLength := congrArg List.length all
    rw [List.length_map, List.length_map] at sameLength
    rw [List.length_map, sameLength]
  · intro owner taken
    obtain ⟨entry, there, rfl⟩ := List.mem_map.1 taken
    exact sound.staff ▸ sound.takers entry there
  · intro index
    have zipped : (history.taken.map Prod.fst).zip (history.taken.map Prod.snd) = history.taken := by
      rw [← List.unzip_fst, ← List.unzip_snd, List.zip_unzip]
    rw [all, zipped]
    rcases found : history.queue.workers[index]? with _ | worker
    · have outside : history.queue.workers.length ≤ index := List.getElem?_eq_none_iff.1 found
      have noneTaken : entriesOf index history.taken = [] := entriesOf_eq_nil fun entry there =>
        Nat.ne_of_lt (Nat.lt_of_lt_of_le (sound.takers entry there) outside)
      have noneSent : entriesOf index history.batches = [] := entriesOf_eq_nil fun entry there =>
        Nat.ne_of_lt (Nat.lt_of_lt_of_le (sound.senders entry there) outside)
      rw [noneTaken, noneSent]
      rfl
    · have member := List.mem_of_getElem? found
      rw [sound.handled found, (sound.ended member (ended worker member)).2.2, List.append_nil]

variable [Connection C Net]

/-- What a session without crashes has done to the commands, and what it has done in the end. -/
theorem lossless_run {queue opened : Queue C} {world world' : World Net}
    (starts : queue.start world = (.ok (), opened, world')) (events : List (Event Net))
    (calm : (({ queue := opened, world := world' } : History C Net).run events).Calm) :
    let history := ({ queue := opened, world := world' } : History C Net).run events
    history.Lossless queue.config ∧
    ((∀ worker ∈ history.queue.workers, worker.isAlive = false) →
      history.Delivered queue.config) := by
  intro history
  have orderly : history.Orderly := (orderly_of_start starts).run calm
  have configured : history.queue.config = queue.config := by
    refine (config_run _ events).trans ?_
    obtain ⟨-, -, -, logger, seed, workers, workerLog, world'', -, -, -, rfl, -⟩ :=
      start_ok_iff.1 starts
    rfl
  rw [← configured]
  exact ⟨orderly.lossless, orderly.delivered⟩

end History

variable [Connection C Net]

/-- One caller that submits commands and then closes the queue finds all of them delivered, if no
worker has crashed. -/
theorem stop_delivers {queue opened : Queue C} {world world' : World Net}
    (starts : queue.start world = (.ok (), opened, world')) (requests : List (List Command)) :
    ∃ events : List (Event Net),
      let history := ({ queue := opened, world := world' } : History C Net).run events
      history.submissions.map Submission.commands = requests ∧
      (submitAll requests opened world').1.stop (submitAll requests opened world').2 =
        ({ history.queue with running := none },
          reportEnd history.queue.workers history.world) ∧
      (history.Calm → history.Lossless queue.config ∧ history.Delivered queue.config) := by
  obtain ⟨after, ⟨events, -, rfl⟩, ended, sameCommands, stops⟩ :=
    History.leads_session starts requests
  refine ⟨events, sameCommands, stops, fun calm => ?_⟩
  obtain ⟨lossless, delivered⟩ := History.lossless_run starts events calm
  exact ⟨lossless, delivered ended⟩

/-- A queue without crashes loses no command and sends none twice, at every time of a session, in
every order of what its calls and its workers do. Once its workers have ended, every command that was
accepted was sent in one batch of one worker, and every connection that was made for a worker is
closed. (The session is followed with numbered connections, of which the seed has the number 0.) -/
theorem delivers_exactly_once (closes : Connection.Closes C) {queue opened : Queue C}
    {world world' : World Net} (starts : queue.start world = (.ok (), opened, world'))
    (events : List (Event Net)) :
    let history := ({ queue := opened, world := world' } : History C Net).run events
    history.Calm →
    history.Lossless queue.config ∧
    ((∀ worker ∈ history.queue.workers, worker.isAlive = false) →
      history.Delivered queue.config ∧
      ∃ numbered register,
        queue.numbered.start (world.registering queue.seed.toList) = (.ok (), numbered, register) ∧
        let session := ({ queue := numbered, world := register } : History (Numbered C) _).run
          (events.map Event.numbered)
        session.plain = history ∧
        ∀ {number : Nat} {connection : C}, number ≠ 0 →
          session.world.net.states[number]? = some connection →
          Connection.isClosed connection = true) := by
  intro history calm
  obtain ⟨lossless, delivered⟩ := History.lossless_run starts events calm
  refine ⟨lossless, fun ended => ⟨delivered ended, ?_⟩⟩
  -- No worker of the numbered session is left either, so that no connection has a place.
  obtain ⟨numbered, register, starts', sameQueue, sameWorld⟩ := start_numbered starts
  refine ⟨numbered, register, starts', ?_⟩
  intro session
  have same : session.plain = history := by
    refine (History.run_plain _ events).trans ?_
    rw [History.plain, sameQueue, sameWorld]
  have sameWorkers : history.queue.workers = session.queue.workers.map Worker.plain := by
    rw [← same]
    exact workers_plain session.queue
  have calm' : session.Calm := by
    intro worker there
    have there' : worker.plain ∈ history.queue.workers :=
      sameWorkers ▸ List.mem_map_of_mem there
    exact calm worker.plain there'
  have none : session.queue.connections = [] := by
    refine List.flatMap_eq_nil_iff.2 fun worker there => ?_
    have there' : worker.plain ∈ history.queue.workers :=
      sameWorkers ▸ List.mem_map_of_mem there
    have gone : worker.isAlive = false := ended worker.plain there'
    rw [Worker.live, gone, if_neg Bool.false_ne_true]
  have kept : Kept session.world.net.states [0] session.queue.connections :=
    History.connections_kept_run closes calm' (connections_kept_start starts')
  rw [none] at kept
  refine ⟨same, fun {number connection} notSeed found => ?_⟩
  by_contra opened
  have somewhere := kept.accounted found (eq_false_of_ne_true opened)
    fun seed => notSeed (List.mem_singleton.1 seed)
  cases somewhere

/-- The queue is told to close while a call has not sent all of its commands. Another call is refused
for a command without a name, and a third one comes too late. -/
theorem delivers_exactly_once_instance :
    let seed : Scripted.Session := { number := 0, address := "127.0.0.1:6379", script := {} }
    let queue : Queue Scripted.Session :=
      { config := ⟨2, 2, 2⟩, logger := some .keep, seed := some seed }
    let world : World Scripted.Stage := ⟨{ scripts := [], created := 1 }, #[]⟩
    let started := (queue.start world).2
    let get : Command := { name := "GET", args := [] }
    let events : List (Event Scripted.Stage) :=
      [.submit [.ping, get], .proceed 0, .proceed 0, .submit [get, { name := "", args := [] }],
        .proceed 1, .work 0, .close, .submit [.ping], .proceed 0, .release, .work 1, .work 0,
        .proceed 0, .work 0, .work 0, .work 1, .work 1]
    let history := ({ queue := started.1, world := started.2 } : History _ _).run events
    queue.start world = (.ok (), started) ∧
    history.accepted = [(0, .ping), (0, get)] ∧
    history.batches = [(0, [.ping]), (1, [get])] ∧
    history.Delivered queue.config := by
  intro seed queue world started get events history
  have starts : queue.start world = (.ok (), started.1, started.2) := rfl
  have calm : history.Calm := by
    dsimp +zetaDelta only [History.Calm]
    decide +kernel
  have ended : ∀ worker ∈ history.queue.workers, worker.isAlive = false := by
    dsimp +zetaDelta only
    decide +kernel
  have accepted : history.accepted = [(0, .ping), (0, get)] := by
    dsimp +zetaDelta only
    decide +kernel
  have batches : history.batches = [(0, [.ping]), (1, [get])] := by
    dsimp +zetaDelta only
    decide +kernel
  obtain ⟨-, delivered⟩ := delivers_exactly_once Scripted.Session.laws.closes starts events calm
  exact ⟨starts, accepted, batches, (delivered ended).1⟩

end RespClient.Queue
