import RespClient.Proofs.ConnectionLaws
import RespClient.Proofs.ServedSessions
import RespClient.Proofs.WorkerRun

/-!
# Batches of a worker

How the commands of a worker are cut into batches is a matter of its batch size and of when it finds what
in the queue. As long as its server has a reply for each command that makes no difference to the server or
to the reports on the commands. A batch takes the replies that are next, and leaves the others ahead
(`sendBatch_stocked`), so that batches one after the other are one exchange of all their commands
(`Service.serves`).

`batching_invisible` is the main statement. It needs that there is room for the batches: a worker sets
aside room for a whole batch, and crashes if there is none.
-/

namespace RespClient.Queue.Worker

open Tcp (Network)
open Tcp.Session (Stocked Transmits SentBetween)

/-! ## Runs without a crash -/

section Calm

variable {C Net : Type} [Connection C Net]

theorem exchange_ne_crashed (calm : Connection.Calm C) (commands : List Command) (connection : C)
    (world : World Net) (crash : Crash) :
    (exchange commands connection world).1 ≠ .error (.crashed crash) := by
  by_cases settled : Connection.owed connection = 0
  · obtain ⟨count, replies, result, after, world', out, course⟩ :=
      roundTrip_course commands connection world
    rw [exchange_of_settled settled, out]
    rintro rfl
    cases course with
    | unsent _ _ fails => exact calm.sent _ _ _ _ crash (congrArg Prod.fst fails)
    | unanswered _ _ _ fails => exact calm.received _ _ crash (congrArg Prod.fst fails)
  · rw [exchange, if_pos (Nat.pos_of_ne_zero settled)]
    exact nofun

/-- A worker that has room for its batches does not crash when it looks at the queue. -/
theorem observe_not_crashed {worker : Worker C} (room : worker.batchSize ≤ maxRoom)
    (collects : worker.Collects) (finding : Finding) (world : World Net) (cause : Crash) :
    (worker.observe finding world).1.phase ≠ .crashed cause := by
  have gathers (batch : List Command) : gather worker.batchSize batch ≠ .crashed cause := by
    rcases gather_cases worker.batchSize batch with out | out
    all_goals
      rw [out]
      rintro ⟨⟩
  rcases collects with waits | ⟨batch, -, collects⟩
  · cases finding with
    | command found =>
      simp only [observe, waits, if_neg (Nat.not_lt.2 room)]
      exact gathers [found]
    | nothing =>
      simp only [observe, waits]
      rintro ⟨⟩
    | closed =>
      simp only [observe, waits]
      rintro ⟨⟩
  · cases finding with
    | command found =>
      simp only [observe, collects]
      exact gathers (batch ++ [found])
    | nothing | closed =>
      simp only [observe, collects]
      rintro ⟨⟩

/-- A worker goes on after a batch if its connections do not crash. -/
theorem sendBatch_waits (calm : Connection.Calm C) (batch : List Command) (worker : Worker C)
    (world : World Net) : (worker.sendBatch batch world).1.phase = .waiting := by
  obtain ⟨result, commands, connection, world', exchanges, ⟨cause, rfl, -⟩ | ⟨error?, -, sends⟩⟩ :=
    sendBatch_cases batch worker world
  · exact absurd (congrArg Prod.fst exchanges) (exchange_ne_crashed calm batch _ _ cause)
  · rw [sends]

/-- A worker that has room for its batches does not crash on connections that do not. -/
theorem run_not_crashed (calm : Connection.Calm C) {worker : Worker C}
    (room : worker.batchSize ≤ maxRoom) (collects : worker.Collects) (findings : List Finding)
    (world : World Net) : (run findings worker world).1.crash? = none := by
  have ended : ∀ {worker : Worker C}, worker.phase = .stopped → ∀ (later : List Finding)
      (world : World Net), (run later worker world).1.crash? = none := by
    intro worker stopped later world
    have dead : worker.isAlive = false := by rw [isAlive, stopped]
    rw [(run_of_not_alive dead later world).1, crash?, stopped]
  induction findings generalizing worker world with
  | nil =>
    rcases collects with waits | ⟨batch, -, collects⟩
    · simp only [run, crash?, waits]
    · simp only [run, crash?, collects]
  | cons finding later more =>
    rcases observe_cases finding collects world with
      ⟨phase, -, collects', -, observes⟩ | ⟨batch, last, -, -, -, observes⟩ |
        ⟨rfl, waits, observes⟩ | ⟨cause, crashes⟩
    · rw [(run_of_collects observes collects' later).1]
      have room' : { worker with phase }.batchSize ≤ maxRoom := room
      exact more room' collects' world
    · rw [(run_of_ready observes rfl later).1]
      generalize ready_eq : { worker with phase := .ready batch last } = ready at *
      have ready? : ready.phase = .ready batch last := by rw [← ready_eq]
      have sameSize : (ready.perform world).1.batchSize = worker.batchSize := by
        rw [(perform_phase ready? world).1, ← ready_eq]
      obtain ⟨next, world', sent, ⟨waits, -, performs⟩ | ⟨-, -, performs⟩ | ⟨cause, crashed, -⟩⟩ :=
        perform_cases ready? world
      · rw [performs] at sameSize ⊢
        exact more (sameSize ▸ room) (Or.inl waits) world'
      · rw [performs]
        exact ended rfl later _
      · have waits := sendBatch_waits calm batch ready world
        rw [sent] at waits
        cases waits.symm.trans crashed
    · have dead : (worker.observe .closed world).1.isAlive = false := by
        rw [observes]
        rfl
      rw [(run_of_dies dead later).1, observes]
      rfl
    · exact absurd crashes (observe_not_crashed room collects finding world cause)

end Calm

/-! ## Batches that are served -/

/-- Between two worlds a worker with this number has sent these commands through one connection, and
reported on each by its reply. -/
structure Serves (number sender : Nat) (commands : List Command) (replies : List Reply)
    (world world' : World Network) : Prop where
  complete : replies.length = commands.length
  transmits : Transmits sender (commands.flatMap Command.frame) world world'
  log : world'.log.toList = world.log.toList ++ (answered commands replies).map (outcome number)

theorem Serves.nothing (number sender : Nat) (world : World Network) :
    Serves number sender [] [] world world where
  complete := rfl
  transmits := ⟨rfl, rfl, fun number => by rw [List.flatMap_nil, ite_self, List.append_nil]⟩
  log := (List.append_nil _).symm

theorem Serves.trans {number sender : Nat} {first second : List Command} {front back : List Reply}
    {world world' world'' : World Network} (served : Serves number sender first front world world')
    (later : Serves number sender second back world' world'') :
    Serves number sender (first ++ second) (front ++ back) world world'' where
  complete := by rw [List.length_append, List.length_append, served.complete, later.complete]
  transmits := by
    rw [List.flatMap_append]
    exact served.transmits.trans later.transmits
  log := by
    rw [later.log, served.log, answered_append served.complete, List.map_append, List.append_assoc]

variable {worker : Worker Tcp.Session} {world dialed : World Network} {link : Tcp.Link}

/-- A worker whose connection has a reply ahead for each command of a batch takes these, and leaves the
others ahead. -/
theorem sendBatch_stocked {batch : List Command} {replies : List Reply} {next : Worker Tcp.Session}
    {world' : World Network} (stocked : Stocked worker.connection world link dialed replies)
    (nonempty : batch ≠ []) (enough : batch.length ≤ replies.length)
    (sent : worker.sendBatch batch world = (next, world')) :
    next.number = worker.number ∧
    Serves worker.number link.number batch (replies.take batch.length) dialed world' ∧
    ∃ link', link'.number = link.number ∧ next.connection.state = .connected link' ∧
      Stocked next.connection world' link' world' (replies.drop batch.length) := by
  have complete : (replies.take batch.length).length = batch.length := by
    rw [List.length_take]
    exact Nat.min_eq_left enough
  rw [← List.take_append_drop batch.length replies] at stocked
  obtain ⟨connection, link', before, exchanges, transmits, sameLog, number, stage, ahead⟩ :=
    stocked.exchange nonempty complete
  have kept : worker.reconnect world = (worker, world) :=
    if_neg (ne_true_of_eq_false stocked.notClosed)
  simp only [sendBatch, kept, exchanges] at sent
  cases sent
  rw [reportBatch_log]
  refine ⟨rfl, ⟨complete, transmits.of_net rfl rfl, ?_⟩, link', number, stage, ahead _⟩
  rw [Array.toList_appendList, sameLog, reports, Option.map_none, Option.toList_none, List.append_nil]

/-- A worker ends, and its connection has nothing left to send. -/
theorem finish_stocked {replies : List Reply}
    (stocked : Stocked worker.connection world link world replies)
    (stage : worker.connection.state = .connected link) :
    worker.finish world =
      ({ worker with connection := worker.connection.shutdown, phase := .stopped },
        world.report (.workerStopped worker.number worker.batches)) := by
  have closes : Connection.close worker.connection world =
      (.ok (), worker.connection.shutdown, world) := by
    change (Except.ok (), worker.connection.shutdown, worker.connection.abandon world) = _
    rw [Tcp.Session.abandon, stage]
    exact congrArg (fun left => (Except.ok (), worker.connection.shutdown, left))
      (Tcp.Session.flushed_of_unsent_nil world stocked.unsent)
  simp only [finish, closes]

/-- A worker that does a service to its end has done what it would have done with one batch of all its
commands, if its server has replies for them. -/
theorem Service.serves {findings : List Finding} {after : Worker Tcp.Session}
    {world' : World Network} {dispatches : List (Dispatch Tcp.Session Network)}
    {replies : List Reply} (service : Service findings worker world dispatches after world')
    (closed : .closed ∈ findings) (stocked : Stocked worker.connection world link dialed replies)
    (complete : replies.length = (worker.holding ++ received findings).length)
    (some : worker.connection.isOpen = false → worker.holding ++ received findings ≠ []) :
    ∃ before, Serves worker.number link.number (worker.holding ++ received findings) replies dialed
        before ∧
      world' = before.report (.workerStopped worker.number after.batches) := by
  -- A batch leaves another link, with the same number, on which the rest of the replies are ahead.
  induction service generalizing link dialed replies with
  | pauses => cases closed
  | @takes finding later worker after phase world world' _ goesOn taken more others =>
    have same : holding { worker with phase } ++ received later =
        worker.holding ++ received (finding :: later) := by
      rw [taken, received_cons goesOn, List.append_assoc]
    rw [← same] at complete some ⊢
    exact others (List.mem_of_ne_of_mem goesOn.symm closed) stocked complete some
  | @sends finding later worker ready next after batch world world₁ world' _ goesOn nonempty batch_eq
      ready_eq sent waits more others =>
    have whole : worker.holding ++ received (finding :: later) = batch ++ received later := by
      rw [batch_eq, received_cons goesOn, List.append_assoc]
    rw [whole, List.length_append] at complete
    rw [whole]
    have ready_number : ready.number = worker.number := by rw [ready_eq]
    have stocked' : Stocked ready.connection world link dialed replies := by rwa [ready_eq]
    obtain ⟨sameNumber, served, link', number, stage, ahead⟩ :=
      sendBatch_stocked stocked' nonempty (complete ▸ Nat.le_add_right _ _) sent
    rw [ready_number] at sameNumber served
    have nothing : next.holding = [] := by rw [holding, waits]
    have rest : (replies.drop batch.length).length = (next.holding ++ received later).length := by
      rw [List.length_drop, complete, nothing, List.nil_append, Nat.add_sub_cancel_left]
    have opened := Tcp.Session.isOpen_of_connected stage
    obtain ⟨before, served', out⟩ := others (List.mem_of_ne_of_mem goesOn.symm closed) ahead rest
      (fun notOpened => nomatch opened.symm.trans notOpened)
    rw [sameNumber, number, nothing] at served'
    have both := served.trans served'
    rw [List.take_append_drop] at both
    rw [sameNumber] at out
    exact ⟨before, both, out⟩
  | @sendsLast later worker ready next batch world world₁ nonempty batch_eq ready_eq sent waits =>
    have whole : worker.holding ++ received (.closed :: later) = batch := by
      rw [batch_eq]
      exact List.append_nil _
    rw [whole] at complete ⊢
    have ready_number : ready.number = worker.number := by rw [ready_eq]
    have stocked' : Stocked ready.connection world link dialed replies := by rwa [ready_eq]
    obtain ⟨sameNumber, served, link', -, stage, ahead⟩ :=
      sendBatch_stocked stocked' nonempty (Nat.le_of_eq complete.symm) sent
    rw [ready_number] at sameNumber served
    rw [← complete, List.take_length] at served
    rw [finish_stocked ahead stage, sameNumber]
    exact ⟨_, served, rfl⟩
  | @ends later worker world waits =>
    have whole : worker.holding ++ received (.closed :: later) = [] := by
      rw [holding, waits]
      rfl
    rw [whole] at complete some ⊢
    rcases stocked.opens with ⟨stage, rfl⟩ | ⟨stage, -⟩
    · rw [finish_stocked stocked stage, List.eq_nil_of_length_eq_zero complete]
      exact ⟨_, .nothing _ _ _, rfl⟩
    · exact absurd rfl (some (by rw [Tcp.Session.isOpen, stage]))

/-! ## Whole runs -/

/-- What becomes of a worker with a new session that finds these things in the queue, one after the
other. -/
def serve (number batchSize : Nat) (address : String) (timeout : Duration) (findings : List Finding)
    (world : World Network) : Worker Tcp.Session × World Network :=
  let (worker, world) := start number batchSize (Tcp.Session.create address timeout) world
  run findings worker world

theorem isOutcome_outcome (number : Nat) (command : Command) :
    (outcome number command).isOutcome = true := by
  rcases command with ⟨name, args, _ | reply⟩
  · rfl
  · cases reply <;> rfl

/-- What a worker does to the network and to the log in the end, whatever the batches. -/
structure Delivers (number : Nat) (address : String) (timeout : Duration) (commands : List Command)
    (replies : List Reply) (world : World Network) (after : Worker Tcp.Session × World Network) :
    Prop where
  stopped : after.1.phase = .stopped
  /-- One connection is dialed, and no other. -/
  dialed : after.2.net.accepted = (world.net.dial address timeout).2.accepted
  /-- No other is dialed in vain either. -/
  incidents : after.2.net.incidents = (world.net.dial address timeout).2.incidents
  sent : SentBetween world.net after.2.net (commands.flatMap Command.frame)
  log : after.2.log.toList = world.log.toList ++ [.workerStarted number, .connected address] ++
    (answered commands replies).map (outcome number) ++ [.workerStopped number after.1.batches]

theorem Delivers.outcomes {number : Nat} {address : String} {timeout : Duration}
    {commands : List Command} {replies : List Reply} {world : World Network}
    {after : Worker Tcp.Session × World Network}
    (delivers : Delivers number address timeout commands replies world after) :
    after.2.outcomes = world.outcomes ++ (answered commands replies).map (outcome number) := by
  have all : ∀ entry ∈ (answered commands replies).map (outcome number), entry.isOutcome = true := by
    intro entry there
    obtain ⟨command, -, rfl⟩ := List.mem_map.1 there
    exact isOutcome_outcome number command
  rw [World.outcomes, delivers.log, List.filter_append, List.filter_append, List.filter_append,
    List.filter_eq_self.2 all]
  exact (List.append_nil _).trans (congrArg (· ++ _) (List.append_nil _))

section Runs

variable {number : Nat} {address : String} {timeout : Duration} {world : World Network}
  {commands : List Command} {channel : Network.Channel} {replies : List Reply} {rest : Bytes}

theorem delivers_serve (nonempty : commands ≠ [])
    (dials : (world.net.dial address timeout).1 = .ok channel)
    (read : Reply.readList channel.ending commands.length channel.stream = (.ok replies, rest))
    {batchSize : Nat} (room : batchSize ≤ maxRoom) {findings : List Finding}
    (found : received findings = commands) (closed : .closed ∈ findings) :
    Delivers number address timeout commands replies world
      (serve number batchSize address timeout findings world) := by
  let session := Tcp.Session.create address timeout
  let worker : Worker Tcp.Session := { number, batchSize := max batchSize 1, connection := session }
  let begun := world.report (.workerStarted number)
  have complete := Reply.length_of_readList read
  have room' : worker.batchSize ≤ maxRoom := Nat.max_le.2 ⟨room, by decide⟩
  have collects : worker.Collects := Or.inl rfl
  have service := run_service collects findings begun
    (run_not_crashed Tcp.Session.calm room' collects findings begun)
  rw [← complete] at read
  have stocked : Stocked session begun _ _ replies := Tcp.Session.stocked_create dials read
  have pending : worker.holding ++ received findings = commands := found
  obtain ⟨before, served, out⟩ := service.serves closed stocked
    (by rw [pending]; exact complete) (fun _ => by rw [pending]; exact nonempty)
  rw [pending] at served
  obtain ⟨place, dialed⟩ := Network.dial_ok
    (Prod.ext dials rfl : world.net.dial address timeout = (_, _))
  refine ⟨service.stopped closed, ?_, ?_, ?_, ?_⟩
  · change (run findings worker begun).2.net.accepted = _
    rw [out]
    exact served.transmits.accepted
  · change (run findings worker begun).2.net.incidents = _
    rw [out]
    exact served.transmits.incidents
  · intro other
    change (run findings worker begun).2.net.sentThrough other = _
    rw [out]
    refine (served.transmits.sent other).trans ?_
    rw [← place]
    exact congrArg (· ++ _) (Network.sentThrough_congr (congrArg Network.sent dialed) other)
  · have first : (begun.log.push (.connected address)).toList =
        world.log.toList ++ [.workerStarted number, .connected address] := by
      rw [Array.toList_push]
      change (world.log.push (.workerStarted number)).toList ++ _ = _
      rw [Array.toList_push, List.append_assoc]
      rfl
    change (run findings worker begun).2.log.toList = _
    rw [out, ← first]
    exact (Array.toList_push ..).trans (congrArg (· ++ _) served.log)

/-- The exchange of all commands at once does the same to the network, and gets the same replies. -/
theorem exchange_create (nonempty : commands ≠ [])
    (dials : (world.net.dial address timeout).1 = .ok channel)
    (read : Reply.readList channel.ending commands.length channel.stream = (.ok replies, rest)) :
    ∃ after world', exchange commands (Tcp.Session.create address timeout) world =
        (.ok (), answered commands replies, after, world') ∧
      world'.net.accepted = (world.net.dial address timeout).2.accepted ∧
      SentBetween world.net world'.net (commands.flatMap Command.frame) := by
  have complete := Reply.length_of_readList read
  rw [← complete] at read
  have stocked : Stocked (Tcp.Session.create address timeout) world _ _ replies :=
    Tcp.Session.stocked_create dials read
  rw [← List.append_nil replies] at stocked
  obtain ⟨after, link', world', exchanges, transmits, -⟩ := stocked.exchange nonempty complete
  obtain ⟨place, dialed⟩ := Network.dial_ok
    (Prod.ext dials rfl : world.net.dial address timeout = (_, _))
  refine ⟨after, world', exchanges, transmits.accepted, fun other => ?_⟩
  refine (transmits.sent other).trans ?_
  rw [← place]
  exact congrArg (· ++ _) (Network.sentThrough_congr (congrArg Network.sent dialed) other)

/-- **Batches make no difference.** Take commands, at least one, and a server that is reached and has a reply
ahead for each of them. Every worker with a new session that finds these commands in the queue, in whatever
batches, and for whose batches there is room, ends with one connection dialed, all commands sent through it in
order and reported on in order by their replies, and nothing else sent. So two such workers send the same bytes
and report the same on the commands, whatever their batch sizes are and whenever the commands arrive. One
exchange of all the commands on a new session sends the same bytes through the same connection, and succeeds
with the same replies. -/
theorem batching_invisible (nonempty : commands ≠ [])
    (dials : (world.net.dial address timeout).1 = .ok channel)
    (read : Reply.readList channel.ending commands.length channel.stream = (.ok replies, rest)) :
    (world.net.dial address timeout).2.accepted.size = world.net.accepted.size + 1 ∧
    (∀ {batchSize : Nat}, batchSize ≤ maxRoom → ∀ {findings : List Finding},
      received findings = commands → .closed ∈ findings →
      Delivers number address timeout commands replies world
        (serve number batchSize address timeout findings world)) ∧
    (∀ {batchSize batchSize' : Nat}, batchSize ≤ maxRoom → batchSize' ≤ maxRoom →
      ∀ {findings findings' : List Finding}, received findings = commands →
      received findings' = commands → .closed ∈ findings → .closed ∈ findings' →
      let one := (serve number batchSize address timeout findings world).2
      let other := (serve number batchSize' address timeout findings' world).2
      one.net.accepted = other.net.accepted ∧
      (∀ sender, one.net.sentThrough sender = other.net.sentThrough sender) ∧
      one.outcomes = other.outcomes) ∧
    ∃ after world', exchange commands (Tcp.Session.create address timeout) world =
        (.ok (), answered commands replies, after, world') ∧
      world'.net.accepted = (world.net.dial address timeout).2.accepted ∧
      SentBetween world.net world'.net (commands.flatMap Command.frame) := by
  have delivers {batchSize : Nat} (room : batchSize ≤ maxRoom) {findings : List Finding}
      (found : received findings = commands) (closed : .closed ∈ findings) :
      Delivers number address timeout commands replies world
        (serve number batchSize address timeout findings world) :=
    delivers_serve nonempty dials read room found closed
  refine ⟨?_, delivers, ?_, exchange_create nonempty dials read⟩
  · obtain ⟨-, dialed⟩ := Network.dial_ok
      (Prod.ext dials rfl : world.net.dial address timeout = (_, _))
    exact (congrArg (fun net => net.accepted.size) dialed).trans (Array.size_push ..)
  · intro batchSize batchSize' room room' findings findings' found found' closed closed'
    have one := delivers room found closed
    have other := delivers room' found' closed'
    refine ⟨one.dialed.trans other.dialed.symm, fun sender => ?_, one.outcomes.trans other.outcomes.symm⟩
    rw [one.sent sender, other.sent sender]

end Runs

/-- Two commands in two batches and in one, and the second command fails. -/
theorem batching_invisible_instance :
    let stream := utf8 "+OK\r\n-ERR\r\n"
    let world : World Network :=
      ⟨{ routed := true, servers := [⟨"localhost:6379", [stream], .closed⟩] }, #[]⟩
    let commands : List Command := [⟨"SET", [], none⟩, ⟨"GET", [], none⟩]
    let slowly : List Finding :=
      [.command ⟨"SET", [], none⟩, .nothing, .command ⟨"GET", [], none⟩, .closed]
    let quickly : List Finding :=
      [.command ⟨"SET", [], none⟩, .command ⟨"GET", [], none⟩, .closed]
    let one := serve 1 1 "localhost:6379" (.ofSeconds 1) slowly world
    let other := serve 1 8 "localhost:6379" (.ofSeconds 1) quickly world
    commands ≠ [] ∧ (world.net.dial "localhost:6379" (.ofSeconds 1)).1 = .ok ⟨0, stream, .closed⟩ ∧
    Reply.readList .closed 2 stream = (.ok [.status "OK", .error "ERR"], []) ∧
    one.1.batches = 2 ∧ other.1.batches = 1 ∧
    Delivers 1 "localhost:6379" (.ofSeconds 1) commands [.status "OK", .error "ERR"] world one ∧
    one.2.outcomes = other.2.outcomes ∧
    other.2.outcomes = [.commandSucceeded 1 "SET", .commandFailed 1 "GET" "ERR"] := by
  intro stream world commands slowly quickly one other
  have nonempty : commands ≠ [] := nofun
  have dials : (world.net.dial "localhost:6379" (.ofSeconds 1)).1 = .ok ⟨0, stream, .closed⟩ := rfl
  have read : Reply.readList .closed 2 stream = (.ok [.status "OK", .error "ERR"], []) := by
    dsimp +zetaDelta only
    decide +kernel
  have twice : one.1.batches = 2 := by
    dsimp +zetaDelta only
    decide +kernel
  have once : other.1.batches = 1 := by
    dsimp +zetaDelta only
    decide +kernel
  have lines : other.2.outcomes = [.commandSucceeded 1 "SET", .commandFailed 1 "GET" "ERR"] := by
    dsimp +zetaDelta only
    decide +kernel
  have room : 1 ≤ maxRoom ∧ 8 ≤ maxRoom := by decide
  have found : received slowly = commands := rfl
  have found' : received quickly = commands := rfl
  have closed : .closed ∈ slowly := by simp [slowly]
  have closed' : .closed ∈ quickly := by simp [quickly]
  obtain ⟨-, delivers, agree, -⟩ := batching_invisible nonempty dials read
  obtain ⟨-, -, same⟩ := agree room.1 room.2 found found' closed closed'
  exact ⟨nonempty, dials, read, twice, once, delivers room.1 found closed, same, lines⟩

/-- The batch size does make a difference if there is no room for a batch: the worker crashes with the first
command, where one with batches of a single command is answered. -/
theorem not_batching_invisible_of_large_batches :
    ¬∀ (number : Nat) (address : String) (timeout : Duration) (world : World Network)
      (commands : List Command) (channel : Network.Channel) (replies : List Reply) (rest : Bytes),
      commands ≠ [] → (world.net.dial address timeout).1 = .ok channel →
      Reply.readList channel.ending commands.length channel.stream = (.ok replies, rest) →
      ∀ (batchSize batchSize' : Nat) (findings findings' : List Finding),
      received findings = commands → received findings' = commands →
      .closed ∈ findings → .closed ∈ findings' →
      (serve number batchSize address timeout findings world).2.outcomes =
        (serve number batchSize' address timeout findings' world).2.outcomes := by
  intro always
  let large := 1 <<< 63
  let stream := utf8 "+PONG\r\n"
  let world : World Network :=
    ⟨{ routed := true, servers := [⟨"localhost:6379", [stream], .closed⟩] }, #[]⟩
  let findings : List Finding := [.command .ping, .closed]
  have read : Reply.readList .closed 1 stream = (.ok [.status "PONG"], []) := by
    dsimp +zetaDelta only
    decide +kernel
  have one : (serve 1 1 "localhost:6379" (.ofSeconds 1) findings world).2.outcomes =
      [.commandSucceeded 1 "PING"] := by
    dsimp +zetaDelta only
    decide +kernel
  have other : (serve 1 large "localhost:6379" (.ofSeconds 1) findings world).2.outcomes =
      [] := by
    dsimp +zetaDelta only
    decide +kernel
  have ends : .closed ∈ findings := by simp [findings]
  have same := always 1 "localhost:6379" (.ofSeconds 1) world [.ping] ⟨0, stream, .closed⟩
    [.status "PONG"] [] nofun rfl read 1 large findings findings rfl rfl ends ends
  cases one.symm.trans (same.trans other)

end RespClient.Queue.Worker
