import RespClient.Proofs.QueueEndings
import RespClient.Proofs.SessionTraffic

/-!
# What workers send over sessions

The workers of a queue have sessions with one server, which takes every connection that is dialed. Whatever it
answers, a batch leaves as a whole, through the session of its worker or through a new one, before its first reply is
read, and a batch that has left is not sent again. So the connections that were accepted share between them the
batches that were sent (`Delivers`), at every time of a session (`Engaged.run`).
-/

namespace RespClient.Queue

open Tcp (Network Session)

/-! ## Batches on the network -/

/-- The new connections of a server have been sent these commands, each of them its share, and nothing else. -/
def Delivers (address : String) (before now : Network) (commands : List Command) : Prop :=
  ∃ shares : List (List Command),
    Network.Gains before now (shares.map fun share => (address, share.flatMap Command.frame)) ∧
    shares.flatten.Perm commands

section Batches

variable {address : String} {timeout : Duration} {before now : Network} {commands : List Command}

theorem Delivers.none (address : String) (net : Network) : Delivers address net net [] :=
  ⟨[], .refl net, .nil⟩

theorem Delivers.size_le (delivers : Delivers address before now commands) :
    before.accepted.size ≤ now.accepted.size := by
  obtain ⟨shares, gains, -⟩ := delivers
  rw [gains.size]
  exact Nat.le_add_right ..

/-- A batch is sent through a connection that is dialed for it. -/
theorem Delivers.dial {channel : Network.Channel} {dialed : Network}
    (delivers : Delivers address before now commands)
    (dials : now.dial address timeout = (.ok channel, dialed)) (batch : List Command) :
    Delivers address before (dialed.send channel.number (batch.flatMap Command.frame))
      (commands ++ batch) := by
  obtain ⟨shares, gains, same⟩ := delivers
  refine ⟨shares ++ [batch], ?_, ?_⟩
  · rw [List.map_append]
    exact gains.trans (.of_dial dials _)
  · rw [List.flatten_append, List.flatten_singleton]
    exact same.append_right batch

/-- A batch is sent through one of the new connections. -/
theorem Delivers.send {number : Nat} (delivers : Delivers address before now commands)
    (early : before.accepted.size ≤ number) (late : number < now.accepted.size)
    (batch : List Command) :
    Delivers address before (now.send number (batch.flatMap Command.frame)) (commands ++ batch) := by
  obtain ⟨shares, gains, same⟩ := delivers
  obtain ⟨place, rfl⟩ := Nat.exists_eq_add_of_le early
  have inside : place < shares.length := by
    have size := gains.size
    rw [List.length_map] at size
    omega
  have there : shares[place]? = some shares[place] := List.getElem?_eq_getElem inside
  have news : (shares.map fun share => (address, share.flatMap Command.frame))[place]? =
      some (address, shares[place].flatMap Command.frame) := by
    rw [List.getElem?_map, there]
    rfl
  refine ⟨shares.set place (shares[place] ++ batch), ?_, ?_⟩
  · rw [List.map_set, List.flatMap_append]
    exact gains.send news _
  · have more : (shares.flatMap id ++ batch).Perm
        ([] ++ (shares.set place (shares[place] ++ batch)).flatMap id) := flatMap_set_perm there rfl
    rw [List.flatMap_id, List.flatMap_id, List.nil_append] at more
    exact more.symm.trans (same.append_right batch)

end Batches

/-! ## Workers with sessions -/

/-- A session with a server, on which nothing is on its way. If it is connected, then by one of the new
connections. -/
structure Attached (address : String) (timeout : Duration) (before now : Network)
    (session : Session) : Prop where
  quiet : session.Quiet
  address : session.address = address
  timeout : session.timeout = timeout
  linked : ∀ {link : Tcp.Link}, session.state = .connected link →
    before.accepted.size ≤ link.number ∧ link.number < now.accepted.size

/-- A server takes all connections, and has been sent these commands through new ones. -/
structure Served (address : String) (timeout : Duration) (before now : Network)
    (commands : List Command) : Prop where
  accepts : now.Accepts address timeout
  delivers : Delivers address before now commands

section Workers

variable {address : String} {timeout : Duration} {before now : Network} {commands : List Command}

/-- A session that has not been used. -/
theorem attached_create (address : String) (timeout : Duration) (before now : Network) :
    Attached address timeout before now (.create address timeout) :=
  ⟨Tcp.Session.quiet_create address timeout, rfl, rfl, nofun⟩

theorem Attached.mono {session : Session} {later : Network}
    (attached : Attached address timeout before now session)
    (grows : now.accepted.size ≤ later.accepted.size) :
    Attached address timeout before later session :=
  { attached with
    linked := fun stage =>
      ⟨(attached.linked stage).1, Nat.lt_of_lt_of_le (attached.linked stage).2 grows⟩ }

theorem Attached.shutdown {session : Session} (attached : Attached address timeout before now session) :
    Attached address timeout before now session.shutdown :=
  ⟨Tcp.Session.quiet_shutdown session, attached.address, attached.timeout, nofun⟩

/-- What is left of a session after an exchange. -/
theorem Attached.of_leaves {session after : Session} {number : Nat} (later : Network)
    (attached : Attached address timeout before now session)
    (leaves : session.Leaves number after) (early : before.accepted.size ≤ number)
    (late : number < later.accepted.size) : Attached address timeout before later after where
  quiet := leaves.quiet
  address := leaves.address.trans attached.address
  timeout := leaves.timeout.trans attached.timeout
  linked stage := by
    rcases leaves.stage with closed | ⟨link, connected, rfl⟩
    · cases closed.symm.trans stage
    · cases connected.symm.trans stage
      exact ⟨early, late⟩

/-- A batch leaves as a whole, whatever the server answers. -/
theorem Attached.exchange {session : Session} {world : World Network} {batch : List Command}
    (attached : Attached address timeout before world.net session)
    (served : Served address timeout before world.net commands)
    (usable : session.isClosed = false) (nonempty : batch ≠ []) :
    let out := RespClient.exchange batch session world
    Served address timeout before out.2.2.2.net (commands ++ batch) ∧
      Attached address timeout before out.2.2.2.net out.2.2.1 ∧
      world.net.accepted.size ≤ out.2.2.2.net.accepted.size := by
  intro out
  rcases attached.quiet.link_cases world with
    ⟨link, linked, -, unsent, stage⟩ | ⟨error, failed, -, stage⟩
  · obtain ⟨result, answered, after, log, exchanges, leaves⟩ :=
      attached.quiet.exchange_of_link nonempty stage unsent
    have out_eq : out = _ := exchanges
    rw [out_eq]
    dsimp only
    rcases stage with ⟨stage, rfl⟩ | ⟨-, dials⟩
    · -- The batch goes to a connection that this session has dialed before.
      obtain ⟨early, late⟩ := attached.linked stage
      have same : (linked.net.send link.number (batch.flatMap Command.frame)).accepted =
        linked.net.accepted := Network.accepted_send ..
      exact ⟨⟨served.accepts.send .., served.delivers.send early late batch⟩,
        attached.of_leaves _ leaves early (same ▸ late), Nat.le_of_eq (congrArg Array.size same.symm)⟩
    · obtain ⟨channel, dialed, rfl⟩ := Tcp.Session.dial_ok dials
      rw [attached.address, attached.timeout] at dialed
      obtain ⟨place, net_eq⟩ := Network.dial_ok dialed
      have size : (linked.net.send channel.number (batch.flatMap Command.frame)).accepted.size =
          world.net.accepted.size + 1 := by
        rw [Network.accepted_send, net_eq, Array.size_push]
      refine ⟨⟨(served.accepts.dialed dialed).send .., served.delivers.dial dialed batch⟩,
        attached.of_leaves _ leaves ?_ ?_, ?_⟩
      · rw [place]
        exact served.delivers.size_le
      · rw [size, place]
        exact Nat.lt_succ_self _
      · rw [size]
        exact Nat.le_succ _
  · rcases stage with ⟨stage, -⟩ | ⟨-, dials⟩
    · rw [Session.isClosed, stage] at usable
      cases usable
    · -- The server takes connections, so that no dial is in vain.
      have missed := Tcp.Session.dial_error dials
      obtain ⟨channel, dialed, reached⟩ := served.accepts.next
      rw [attached.address, attached.timeout, reached] at missed
      cases missed

/-- A closed session is replaced, and nothing is sent for that. -/
theorem Attached.reconnect {worker : Worker Session} {world : World Network}
    (attached : Attached address timeout before world.net worker.connection) :
    (worker.reconnect world).2.net = world.net ∧
      (worker.reconnect world).1.connection.isClosed = false ∧
      Attached address timeout before world.net (worker.reconnect world).1.connection := by
  rcases Worker.reconnect_cases worker world with
    ⟨usable, out⟩ | ⟨-, connection, world', copies, out⟩ | ⟨-, error, world', refuses, -⟩
  · rw [out]
    exact ⟨rfl, usable, attached⟩
  · cases copies
    have same : worker.connection.sibling = .create address timeout := by
      rw [Session.sibling, attached.address, attached.timeout]
    rw [out, same]
    exact ⟨rfl, rfl, attached_create ..⟩
  · cases refuses

/-- A worker that sends a batch sends it as a whole. -/
theorem Attached.sendBatch {worker : Worker Session} {world : World Network} {batch : List Command}
    (attached : Attached address timeout before world.net worker.connection)
    (served : Served address timeout before world.net commands) (nonempty : batch ≠ []) :
    let out := worker.sendBatch batch world
    Served address timeout before out.2.net (commands ++ batch) ∧
      Attached address timeout before out.2.net out.1.connection ∧
      world.net.accepted.size ≤ out.2.net.accepted.size := by
  intro out
  obtain ⟨sameNet, usable, attached'⟩ := attached.reconnect
  rw [← sameNet] at served attached' ⊢
  have exchanged := attached'.exchange served usable nonempty
  have waits := Worker.sendBatch_waits Session.calm batch worker world
  rcases sends : worker.sendBatch batch world with ⟨next, world'⟩
  have out_eq : out = (next, world') := sends
  rw [sends] at waits
  obtain ⟨error?, answered, connection, last, exchanges, rfl, rfl⟩ :=
    Worker.sendBatch_of_waits sends waits
  rw [exchanges] at exchanged
  rw [out_eq, Worker.reportBatch_log]
  exact exchanged

/-- A session on which nothing is on its way is closed without a word. -/
theorem Attached.finish {worker : Worker Session} {world : World Network}
    (attached : Attached address timeout before world.net worker.connection) :
    (worker.finish world).2.net = world.net ∧
      Attached address timeout before world.net (worker.finish world).1.connection := by
  have closes : Connection.close worker.connection world =
      (.ok (), worker.connection.shutdown, world) :=
    congrArg (Prod.mk _) (attached.quiet.close world)
  simp only [Worker.finish, closes]
  exact ⟨rfl, attached.shutdown⟩

/-- What a worker does in one step sends its batch, if it has one to send, and nothing else. -/
theorem Acts.serves {worker : Worker Session} {world : World Network}
    {out : Worker Session × World Network} {sent : List (List Command)}
    (acts : Acts worker world out sent)
    (attached : Attached address timeout before world.net worker.connection)
    (served : Served address timeout before world.net commands) :
    Served address timeout before out.2.net (commands ++ sent.flatten) ∧
      Attached address timeout before out.2.net out.1.connection ∧
      world.net.accepted.size ≤ out.2.net.accepted.size := by
  cases acts with
  | @performs batch last nonempty ready =>
    have sends := attached.sendBatch served nonempty
    rw [List.flatten_singleton]
    obtain ⟨next, world', sent, ⟨-, -, performs⟩ | ⟨-, -, performs⟩ | ⟨cause, -, performs⟩⟩ :=
      Worker.perform_cases ready world
    · rw [sent] at sends
      rw [performs]
      exact sends
    · rw [sent] at sends
      obtain ⟨served', attached', grows⟩ := sends
      obtain ⟨sameNet, attached''⟩ := attached'.finish
      rw [performs, sameNet]
      exact ⟨served', attached'', grows⟩
    · rw [sent] at sends
      rw [performs]
      exact sends
  | changes =>
    rw [List.flatten_nil, List.append_nil]
    exact ⟨served, attached, Nat.le_refl _⟩
  | finishes =>
    obtain ⟨sameNet, attached'⟩ := attached.finish
    rw [List.flatten_nil, List.append_nil, sameNet]
    exact ⟨served, attached', Nat.le_refl _⟩

end Workers

/-! ## Sessions of a queue -/

/-- A session of a queue whose workers are attached to a server, which has been sent their batches. -/
structure Engaged (address : String) (timeout : Duration) (before : Network)
    (history : History Session Network) : Prop where
  smooth : history.Smooth
  attached : ∀ worker ∈ history.queue.workers,
    Attached address timeout before history.world.net worker.connection
  served : Served address timeout before history.world.net (history.batches.map Prod.snd).flatten

section Engaging

variable {address : String} {timeout : Duration} {before : Network}
  {history : History Session Network}

/-- Every event of the queue keeps its workers attached, and what it sends is told by its batches. -/
theorem Engaged.step (engaged : Engaged address timeout before history) {event : Event Network}
    (own : event.isOwn = true) : Engaged address timeout before (history.step event) := by
  obtain ⟨smooth, attached, served⟩ := engaged
  have smooth' := smooth.step Session.calm event
  by_cases calls : ∀ index, event ≠ .work index
  · obtain ⟨sameWorld, sameBatches⟩ := history.world_step own calls
    refine ⟨smooth', ?_, ?_⟩
    · rw [History.workers_step calls, sameWorld]
      exact attached
    · rw [sameWorld, sameBatches]
      exact served
  · obtain ⟨index, rfl⟩ : ∃ index, event = .work index := by simpa using calls
    rcases moves : history.queue.move index history.world with _ | ⟨queue, world⟩
    · simp only [History.step, moves]
      exact ⟨smooth, attached, served⟩
    · obtain ⟨worker, world₀, out, there, sameNet, acts, workers, net⟩ :=
        smooth.orderly.sound.acts_of_move smooth.room moves
      have attached₀ := attached worker (List.mem_of_getElem? there)
      rw [← sameNet] at attached₀ served
      obtain ⟨served', attached', grows⟩ := acts.serves attached₀ served
      simp only [History.step, moves] at smooth' ⊢
      refine ⟨smooth', ?_, ?_⟩
      · -- The worker that moved has a session of its own; for the others the network has only grown.
        intro other member
        change other ∈ queue.workers at member
        change Attached address timeout before world.net other.connection
        rw [workers] at member
        rw [net]
        rcases List.mem_or_eq_of_mem_set member with old | rfl
        · refine (attached other old).mono ?_
          rwa [sameNet] at grows
        · exact attached'
      · change Served address timeout before world.net (List.map Prod.snd (_ ++ _)).flatten
        rw [List.map_append, map_snd_numbered, List.flatten_append, net]
        exact served'

theorem Engaged.run (engaged : Engaged address timeout before history) {events : List (Event Network)}
    (own : ∀ event ∈ events, event.isOwn = true) :
    Engaged address timeout before (history.run events) := by
  induction events generalizing history with
  | nil => exact engaged
  | cons event later more =>
    obtain ⟨first, rest⟩ := List.forall_mem_cons.1 own
    exact more (engaged.step first) rest

end Engaging

/-! ## Starting -/

/-- All workers can be started, with sessions that have not been used. -/
theorem startWorkers_session (logger : Logger) (batchSize : Nat) (seed : Session) (count : Nat) :
    ∀ (number : Nat) (workers : List (Worker Session)) (workerLog : Array LogEntry)
      (world : World Network), ∃ workers' workerLog' world',
      startWorkers logger batchSize seed number count workers workerLog world =
        (none, workers', workerLog', world') ∧ world'.net = world.net ∧
      ∀ worker ∈ workers', worker ∈ workers ∨ worker.connection = seed.sibling := by
  induction count with
  | zero => exact fun _ workers workerLog world => ⟨workers, workerLog, world, rfl, rfl, fun _ => Or.inl⟩
  | succ count more =>
    intro number workers workerLog world
    let started := logged logger (Worker.start number batchSize seed.sibling) workerLog world
    obtain ⟨workers', workerLog', world', starts, sameNet, fresh⟩ :=
      more (number + 1) (workers ++ [started.1]) started.2.1 started.2.2
    refine ⟨workers', workerLog', world', starts, sameNet, fun worker there => ?_⟩
    rcases fresh worker there with old | new
    · rcases List.mem_append.1 old with older | last
      · exact Or.inl older
      · rw [List.mem_singleton.1 last]
        exact Or.inr rfl
    · exact Or.inr new

/-- A queue with sessions starts if its configuration has no fault and there is room for it. -/
theorem exists_start {config : Config} (valid : config.check = .ok ())
    (small : config.queueSize ≤ maxRoom) (room : config.batchSize ≤ maxRoom) (logger : Logger)
    {address : String} {timeout : Duration} {world : World Network}
    (accepts : world.net.Accepts address timeout) :
    let queue : Queue Session :=
      { config, logger := some logger, seed := some (.create address timeout) }
    ∃ opened world', queue.start world = (.ok (), opened, world') ∧
      Engaged address timeout world.net { queue := opened, world := world' } := by
  intro queue
  obtain ⟨workers, workerLog, world', all, sameNet, fresh⟩ := startWorkers_session logger
    config.batchSize (.create address timeout) config.workers 0 [] queue.workerLog world
  have starts : queue.start world = (.ok (), _, _) := start_ok_iff.2 ⟨rfl, valid, small, logger,
    .create address timeout, workers, workerLog, world', rfl, rfl, all, rfl, rfl⟩
  refine ⟨_, _, starts, History.smooth_of_start starts room, fun worker there => ?_, ?_⟩
  · rcases fresh worker there with none | same
    · cases none
    · rw [same]
      exact attached_create ..
  · change Served address timeout world.net world'.net []
    rw [sameNet]
    exact ⟨accepts, .none address world.net⟩

end RespClient.Queue
