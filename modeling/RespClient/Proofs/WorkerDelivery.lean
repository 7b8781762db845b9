import RespClient.Proofs.RecordedConnections
import RespClient.Proofs.WorkerRun

/-!
# Deliveries of a worker

A `Round` says what has come of a batch: which of its commands were passed to the connection, which
replies were read, and the error with which it ended. `Round.Sound` says that these are the first
commands of the batch, and that each reply is the one to its own command; `Round.lines` is what is to
be reported on it.

`delivers_in_order` is the main statement. Every run of a worker is a list of rounds: together their
batches are the commands that the worker has found, what passes over its connections is what the
rounds say, and so is what it reports.
-/

namespace RespClient

open Connection (Account)

variable {C Net Ticket : Type}

namespace Queue

/-! ## Rounds -/

/-- What has come of a batch. -/
structure Round (Ticket : Type) where
  batch : List Command
  /-- The commands that were passed to the connection. -/
  attempted : List Command
  /-- The tickets of those that the connection accepted. -/
  issued : List Ticket
  replies : List Reply
  error? : Option Error

namespace Round

/-- The first commands of the batch were attempted, all accepted but perhaps the last; the replies are
those to the first of them, and there is one for each command unless the batch ended with an error. -/
structure Sound (account : Account C Ticket) (round : Round Ticket) : Prop where
  first : round.attempted <+: round.batch
  issued_le : round.issued.length ≤ round.attempted.length
  attempted_le : round.attempted.length ≤ round.issued.length + 1
  issuedFor : List.Forall₂ (fun ticket command => account.IssuedFor ticket command.name command.args)
    round.issued (round.batch.take round.issued.length)
  redeemed : List.Forall₂ account.Redeems round.replies (round.issued.take round.replies.length)
  complete : round.error? = none ↔ round.replies.length = round.batch.length

/-- The report on a command by its reply. -/
def line (number : Nat) (name : String) : Option Reply → LogEntry
  | none => .commandNotExecuted number name
  | some (.error text) => .commandFailed number name text
  | some _ => .commandSucceeded number name

/-- The reports on a round: on every command by the reply that was read for it, or that it came with,
and then on the batch if it ended with an error. -/
def lines (number : Nat) (round : Round Ticket) : List LogEntry :=
  round.batch.mapIdx (fun index command =>
    line number command.name (round.replies[index]?.or command.reply)) ++
  (round.error?.map fun error => .batchAborted number round.batch.length error).toList

/-- The reports on a round: on every command by the reply that was read for it in this round, and
then on the batch if it ended with an error. -/
def linesRead (number : Nat) (round : Round Ticket) : List LogEntry :=
  round.batch.mapIdx (fun index command => line number command.name round.replies[index]?) ++
  (round.error?.map fun error => .batchAborted number round.batch.length error).toList

/-- Commands that come without a reply are reported by what was read for them and nothing else. -/
theorem lines_of_unanswered {round : Round Ticket}
    (unanswered : ∀ command ∈ round.batch, command.reply = none) (number : Nat) :
    round.lines number = round.linesRead number := by
  rw [lines, linesRead]
  congr 1
  apply List.ext_getElem?
  intro index
  rw [List.getElem?_mapIdx, List.getElem?_mapIdx]
  cases found : round.batch[index]? with
  | none => rfl
  | some command =>
    have none := unanswered command (List.mem_of_getElem? found)
    rw [Option.map_some, Option.map_some, none, Option.or_none]

end Round

namespace Worker

theorem outcome_eq_line (number : Nat) (command : Command) :
    outcome number command = Round.line number command.name command.reply := by
  rcases command with ⟨name, args, _ | reply⟩
  · rfl
  · cases reply <;> rfl

/-- Commands that have got their replies are reported by these, and others by what they came with. -/
theorem outcomes_answered (number : Nat) (commands : List Command) (replies : List Reply) :
    (answered commands replies).map (outcome number) =
      commands.mapIdx fun index command =>
        Round.line number command.name (replies[index]?.or command.reply) := by
  induction commands generalizing replies with
  | nil => simp [answered]
  | cons command rest others =>
    cases replies with
    | nil =>
      have more := others []
      rw [answered_nil] at more ⊢
      rw [List.map_cons, List.mapIdx_cons, outcome_eq_line, more]
      simp
    | cons reply later =>
      rw [List.mapIdx_cons]
      exact congrArg₂ List.cons (outcome_eq_line number _) (others later)

theorem reports_answered (number : Nat) (round : Round Ticket) :
    reports number (answered round.batch round.replies) round.error? = round.lines number := by
  have sameLength : (answered round.batch round.replies).length = round.batch.length := by
    rw [answered, List.length_append, List.length_zipWith, List.length_drop]
    omega
  rw [reports, outcomes_answered, sameLength, Round.lines]

variable [Connection C Net]

/-! ## What comes of a batch -/

/-- The round is what comes of the batch. -/
structure Dispatch.Comes (dispatch : Dispatch C Net) (round : Round Ticket) : Prop where
  sameBatch : round.batch = dispatch.batch
  sameResult : (exchange dispatch.batch dispatch.ready.1.connection dispatch.ready.2).1 =
    resultOf round.error?

/-- An exchange that does not crash is a round: it is refused, or takes one of the courses. -/
theorem exchange_round {account : Account C Ticket} (laws : account.Lawful) {batch : List Command}
    (nonempty : batch ≠ []) {connection after : Recorded C} {world world' : World (Journal Net)}
    {error? : Option Error} {commands : List Command}
    (exchanges : exchange batch connection world = (resultOf error?, commands, after, world')) :
    ∃ round : Round Ticket, round.batch = batch ∧ round.error? = error? ∧ round.Sound account ∧
      commands = answered batch round.replies ∧ world.Adds world' round.attempted round.replies := by
  by_cases settled : Connection.owed connection = 0
  · have laws' : (Recorded.view.account account).Lawful := Recorded.view.account_lawful laws
    obtain ⟨count, replies, result, after', world'', out, course⟩ :=
      roundTrip_course batch connection world
    rw [exchange_of_settled settled, out] at exchanges
    cases exchanges
    obtain ⟨issued, rfl, issuedFor, redeemed, -⟩ := course.settles laws' settled
    refine ⟨⟨batch, batch.take (issued.length + 1), issued, replies, error?⟩, rfl, rfl, ?_, rfl,
      course.recorded⟩
    have enough : issued.length ≤ batch.length := by
      have sameLength := issuedFor.length_eq
      rw [List.length_take] at sameLength
      omega
    refine ⟨List.take_prefix _ _, ?_, ?_, issuedFor, redeemed, ?_⟩
    · change issued.length ≤ _
      rw [List.length_take]
      omega
    · exact List.length_take_le _ _
    · exact (resultOf_eq_ok error?).symm.trans course.ok_iff
  · have refused : exchange batch connection world = _ := if_pos (Nat.pos_of_ne_zero settled)
    rw [refused] at exchanges
    cases error? with
    | none => cases exchanges
    | some error =>
      cases exchanges
      refine ⟨⟨batch, [], [], [], some _⟩, rfl, rfl, ?_, (answered_nil batch).symm,
        .nothing rfl rfl⟩
      refine ⟨List.nil_prefix, Nat.le_refl _, Nat.zero_le _, .nil, .nil, nofun, fun none => ?_⟩
      exact absurd (List.eq_nil_of_length_eq_zero none.symm) nonempty

/-- Replacing a connection passes nothing over it. -/
theorem reconnect_adds (worker : Worker (Recorded C)) (world : World (Journal Net)) :
    world.Adds (worker.reconnect world).2 [] [] := by
  rcases reconnect_cases worker world with
    ⟨-, out⟩ | ⟨-, connection, world', copies, out⟩ | ⟨-, error, world', copies, out⟩
  · rw [out]
    exact .nothing rfl rfl
  · rw [out]
    exact (Recorded.adds_of_sibling copies).report _
  · rw [out]
    exact (Recorded.adds_of_sibling copies).report _

theorem finish_adds (worker : Worker (Recorded C)) (world : World (Journal Net)) :
    world.Adds (worker.finish world).2 [] [] := by
  rcases closes : Connection.close worker.connection world with ⟨error | ⟨⟩, connection, world'⟩
  · simp only [finish, closes]
    exact ((Recorded.adds_of_close closes).report _).report _
  · simp only [finish, closes]
    exact (Recorded.adds_of_close closes).report _

/-! ## What is reported -/

section Outcomes

variable (discreet : Connection.Discreet C)

include discreet

theorem outcomes_reconnect (worker : Worker C) (world : World Net) :
    (worker.reconnect world).2.outcomes = world.outcomes := by
  have copied := discreet.copied worker.connection world
  rcases reconnect_cases worker world with
    ⟨-, out⟩ | ⟨-, connection, world', copies, out⟩ | ⟨-, error, world', copies, out⟩
  · rw [out]
  · rw [copies] at copied
    rw [out]
    exact (World.outcomes_report rfl world').trans copied
  · rw [copies] at copied
    rw [out]
    exact (World.outcomes_report rfl world').trans copied

theorem outcomes_exchange (batch : List Command) (connection : C) (world : World Net) :
    (exchange batch connection world).2.2.2.outcomes = world.outcomes := by
  let same (_ : C) (other : World Net) : Prop := other.outcomes = world.outcomes
  have before : same connection world := rfl
  exact exchange_keeps same
    (fun name args connection other before =>
      (discreet.sent name args connection other).trans before)
    (fun {connection other} before => (discreet.received connection other).trans before) batch before

theorem outcomes_finish (worker : Worker C) (world : World Net) :
    (worker.finish world).2.outcomes = world.outcomes := by
  have closed := discreet.closed worker.connection world
  rcases closes : Connection.close worker.connection world with ⟨error | ⟨⟩, connection, world'⟩
  · rw [closes] at closed
    simp only [finish, closes]
    exact (World.outcomes_report rfl _).trans ((World.outcomes_report rfl _).trans closed)
  · rw [closes] at closed
    simp only [finish, closes]
    exact (World.outcomes_report rfl _).trans closed

omit discreet [Connection C Net] in
theorem outcomes_reportBatch (number : Nat) (commands : List Command) (error? : Option Error)
    (world : World Net) :
    (reportBatch number commands error? world).outcomes =
      world.outcomes ++ reports number commands error? := by
  have all : ∀ entry ∈ reports number commands error?, entry.isOutcome = true := by
    intro entry there
    rcases List.mem_append.1 there with reported | aborted
    · obtain ⟨command, -, rfl⟩ := List.mem_map.1 reported
      rcases command with ⟨name, args, _ | reply⟩
      · rfl
      · cases reply <;> rfl
    · cases error? with
      | none => cases aborted
      | some error =>
        rw [List.mem_singleton.1 aborted]
        rfl
  rw [reportBatch_log, World.outcomes, World.outcomes, Array.toList_appendList, List.filter_append,
    List.filter_eq_self.2 all]

end Outcomes

/-! ## Runs -/

/-- A worker that goes on after a batch has had a round. -/
theorem sendBatch_round {account : Account C Ticket} (laws : account.Lawful)
    (discreet : Connection.Discreet C) {batch : List Command} (nonempty : batch ≠ [])
    {worker next : Worker (Recorded C)} {world world' : World (Journal Net)}
    (sent : worker.sendBatch batch world = (next, world')) (waits : next.phase = .waiting) :
    next.number = worker.number ∧ next.holding = [] ∧
    ∃ round : Round Ticket, Dispatch.Comes ⟨worker, batch, world⟩ round ∧ round.Sound account ∧
      world.Adds world' round.attempted round.replies ∧
      world'.outcomes = world.outcomes ++ round.lines worker.number := by
  obtain ⟨error?, commands, connection, before, exchanges, rfl, rfl⟩ :=
    sendBatch_of_waits sent waits
  obtain ⟨round, rfl, rfl, sound, rfl, adds⟩ := exchange_round laws nonempty exchanges
  have discreet' := discreet.recorded
  have quiet := outcomes_exchange discreet' round.batch (worker.reconnect world).1.connection
    (worker.reconnect world).2
  rw [exchanges, outcomes_reconnect discreet'] at quiet
  refine ⟨rfl, rfl, round, ⟨rfl, congrArg Prod.fst exchanges⟩, sound, ?_, ?_⟩
  · have adds' := (reconnect_adds worker world).trans adds
    rw [reportBatch_log]
    exact ⟨adds'.sent, adds'.given⟩
  · rw [outcomes_reportBatch, quiet, reports_answered]

/-- A service is a list of rounds. Together their batches are what the worker held and what it has
found, up to what it still holds, and what was sent, read and reported on the way is what the rounds
say. -/
theorem Service.rounds {account : Account C Ticket} (laws : account.Lawful)
    (discreet : Connection.Discreet C) {findings : List Finding}
    {worker after : Worker (Recorded C)} {world world' : World (Journal Net)}
    {dispatches : List (Dispatch (Recorded C) (Journal Net))}
    (service : Service findings worker world dispatches after world') :
    ∃ rounds : List (Round Ticket), List.Forall₂ Dispatch.Comes dispatches rounds ∧
      (∀ round ∈ rounds, round.Sound account) ∧
      worker.holding ++ received findings = rounds.flatMap Round.batch ++ after.holding ∧
      world.Adds world' (rounds.flatMap Round.attempted) (rounds.flatMap Round.replies) ∧
      world'.outcomes = world.outcomes ++ rounds.flatMap (Round.lines worker.number) := by
  induction service with
  | pauses =>
    exact ⟨[], .nil, nofun, List.append_nil _, .nothing rfl rfl, (List.append_nil _).symm⟩
  | takes goesOn taken more others =>
    obtain ⟨rounds, come, sound, balance, adds, reported⟩ := others
    refine ⟨rounds, come, sound, ?_, adds, reported⟩
    rw [received_cons goesOn, ← List.append_assoc, ← taken]
    exact balance
  | sends goesOn nonempty batch_eq ready_eq sent waits more others =>
    obtain ⟨sameNumber, none, round, comes, sound, adds, reported⟩ :=
      sendBatch_round laws discreet nonempty sent waits
    obtain ⟨rounds, come, allSound, balance, adds', reported'⟩ := others
    rw [ready_eq] at sameNumber reported
    refine ⟨round :: rounds, .cons comes come, ?_, ?_, adds.trans adds', ?_⟩
    · intro other there
      rcases List.mem_cons.1 there with rfl | later
      · exact sound
      · exact allSound other later
    · rw [none] at balance
      rw [received_cons goesOn, ← List.append_assoc, ← batch_eq, List.flatMap_cons,
        List.append_assoc, ← balance, comes.sameBatch]
      rfl
    · rw [reported', reported, sameNumber, List.append_assoc]
      rfl
  | @sendsLast later worker ready next batch world world₁ nonempty batch_eq ready_eq sent waits =>
    obtain ⟨sameNumber, none, round, comes, sound, adds, reported⟩ :=
      sendBatch_round laws discreet nonempty sent waits
    rw [ready_eq] at reported
    refine ⟨[round], .cons comes .nil, ?_, ?_, ?_, ?_⟩
    · intro other there
      rw [List.mem_singleton.1 there]
      exact sound
    · have sameBatch : round.batch = worker.holding := comes.sameBatch.trans batch_eq
      rw [List.flatMap_singleton, sameBatch]
      rfl
    · rw [List.flatMap_singleton, List.flatMap_singleton]
      simpa using adds.trans (finish_adds next world₁)
    · rw [outcomes_finish discreet.recorded, reported, List.flatMap_singleton]
  | @ends later worker world waits =>
    have none : worker.holding = [] := by rw [holding, waits]
    refine ⟨[], .nil, nofun, ?_, finish_adds worker world, ?_⟩
    · rw [none]
      rfl
    · rw [outcomes_finish discreet.recorded]
      exact (List.append_nil _).symm

/-- If the commands of a service come without replies, each is reported by the reply that was read for
it in its own round, or as not executed if none was read there. -/
theorem Service.rounds_of_unanswered {account : Account C Ticket} (laws : account.Lawful)
    (discreet : Connection.Discreet C) {findings : List Finding}
    {worker after : Worker (Recorded C)} {world world' : World (Journal Net)}
    {dispatches : List (Dispatch (Recorded C) (Journal Net))}
    (service : Service findings worker world dispatches after world')
    (unanswered : ∀ command ∈ worker.holding ++ received findings, command.reply = none) :
    ∃ rounds : List (Round Ticket), List.Forall₂ Dispatch.Comes dispatches rounds ∧
      (∀ round ∈ rounds, round.Sound account) ∧
      worker.holding ++ received findings = rounds.flatMap Round.batch ++ after.holding ∧
      world.Adds world' (rounds.flatMap Round.attempted) (rounds.flatMap Round.replies) ∧
      world'.outcomes = world.outcomes ++ rounds.flatMap (Round.linesRead worker.number) := by
  obtain ⟨rounds, come, sound, balance, adds, reported⟩ := service.rounds laws discreet
  refine ⟨rounds, come, sound, balance, adds, ?_⟩
  have same : ∀ round ∈ rounds, round.lines worker.number = round.linesRead worker.number := by
    intro round there
    apply Round.lines_of_unanswered
    intro command inBatch
    apply unanswered command
    rw [balance]
    exact List.mem_append_left _ (List.mem_flatMap.2 ⟨round, there, inBatch⟩)
  rw [reported, List.flatMap_congr same]

/-- The commands that were attempted in rounds are among those of their batches, in order. -/
theorem attempted_sublist {account : Account C Ticket} {rounds : List (Round Ticket)}
    (sound : ∀ round ∈ rounds, round.Sound account) :
    (rounds.flatMap Round.attempted).Sublist (rounds.flatMap Round.batch) := by
  induction rounds with
  | nil => exact .slnil
  | cons round others more =>
    have first := (sound round List.mem_cons_self).first.sublist
    exact first.append (more fun other there => sound other (List.mem_cons_of_mem round there))

/-- **Deliveries of a worker.** Take connections that keep a lawful account and only report on
themselves, as sessions over TCP and scripted sessions do, and a run of a worker that does not crash.
Whatever it finds and however its connections fail, the run is a list of rounds, one for each batch.
Each command that the worker has found is in one round, in order, or still held; when the queue was
found closed none is. The commands that were passed to connections, over all connections, are those
that the rounds attempted, and the replies that were read are those of the rounds; so every command is
sent once at most, in order. What is reported is one line for each command, by its own reply, and one
more for a round that ended with an error. (This is told by a record of what passes over the
connections; without it, it is the run itself.) -/
theorem delivers_in_order :
    (Tcp.Session.account.Lawful ∧ Connection.Discreet Tcp.Session) ∧
    (Scripted.Session.account.Lawful ∧ Connection.Discreet Scripted.Session) ∧
    ∀ {C Net Ticket : Type} [Connection C Net] {account : Account C Ticket}, account.Lawful →
      Connection.Discreet C →
    ∀ (number batchSize : Nat) (connection : C) (world : World Net) (findings : List Finding),
      let started := start number batchSize (⟨connection⟩ : Recorded C) world.recording
      let after := run findings started.1 started.2
      let plainly := start number batchSize connection world
      (after.1.map Recorded.connection, after.2.map Journal.net) =
        run findings plainly.1 plainly.2 ∧
      (after.1.crash? = none →
        (.closed ∈ findings → after.1.phase = .stopped) ∧
        ∃ rounds : List (Round Ticket),
          List.Forall₂ Dispatch.Comes (dispatches findings started.1 started.2) rounds ∧
          (∀ round ∈ rounds, round.Sound account) ∧
          received findings = rounds.flatMap Round.batch ++ after.1.holding ∧
          after.2.net.sent = (rounds.flatMap Round.attempted).map Command.request ∧
          after.2.net.sent.Sublist ((received findings).map Command.request) ∧
          after.2.net.given = rounds.flatMap Round.replies ∧
          after.2.outcomes = world.outcomes ++ rounds.flatMap (Round.lines number)) := by
  refine ⟨⟨Tcp.Session.account_lawful, Tcp.Session.discreet⟩,
    ⟨Scripted.Session.account_lawful, Scripted.Session.discreet⟩, ?_⟩
  intro C Net Ticket _ account laws discreet number batchSize connection world findings started after
    plainly
  refine ⟨(run_view Recorded.view findings started.1 started.2).symm, fun calm => ?_⟩
  have service := run_service (Or.inl rfl) findings started.2 calm
  obtain ⟨rounds, come, sound, balance, adds, reported⟩ := service.rounds laws discreet
  have sent : after.2.net.sent = _ := adds.sent
  refine ⟨service.stopped, rounds, come, sound, balance, sent, ?_, adds.given, ?_⟩
  · rw [sent]
    refine List.Sublist.map Command.request ?_
    rw [show received findings = rounds.flatMap Round.batch ++ after.1.holding from balance]
    exact (attempted_sublist sound).trans (List.sublist_append_left _ _)
  · have begun : started.2.outcomes = world.outcomes := World.outcomes_report rfl world.recording
    rw [← begun]
    exact reported

/-- Sessions that give two replies and then are lost: the second batch is not executed, and the third is
sent on a copy, behind which the queue is found closed. -/
theorem delivers_in_order_instance :
    let script : Scripted.Script := { failReplyAfter := some 2, replies := [("GET", .error "ERR")] }
    let session : Scripted.Session := { number := 0, address := "127.0.0.1:6379", script }
    let world : World Scripted.Stage := ⟨{ scripts := [], created := 1 }, #[]⟩
    let get : Command := { name := "GET", args := [] }
    let findings : List Finding :=
      [.command get, .command .ping, .command .ping, .command get, .command .ping, .closed]
    let started := start 7 2 (⟨session⟩ : Recorded Scripted.Session) world.recording
    let after := run findings started.1 started.2
    Scripted.Session.account.Lawful ∧ Connection.Discreet Scripted.Session ∧
    after.1.crash? = none ∧
    after.2.net.sent = [("GET", []), ("PING", []), ("PING", []), ("GET", []), ("PING", [])] ∧
    after.2.net.given = [.error "ERR", .status "PING:", .status "PING:"] ∧
    after.2.outcomes =
      [.commandFailed 7 "GET" "ERR", .commandSucceeded 7 "PING", .commandNotExecuted 7 "PING",
        .commandNotExecuted 7 "GET", .batchAborted 7 2 .connectionClosed,
        .commandSucceeded 7 "PING"] ∧
    ∃ rounds : List (Round Connection.Promise),
      (∀ round ∈ rounds, round.Sound Scripted.Session.account) ∧
      [get, .ping, .ping, get, .ping] = rounds.flatMap Round.batch ∧
      after.2.outcomes = rounds.flatMap (Round.lines 7) := by
  intro script session world get findings started after
  have calm : after.1.crash? = none := by
    dsimp +zetaDelta only
    decide +kernel
  have sent :
      after.2.net.sent = [("GET", []), ("PING", []), ("PING", []), ("GET", []), ("PING", [])] := by
    dsimp +zetaDelta only
    decide +kernel
  have given : after.2.net.given = [.error "ERR", .status "PING:", .status "PING:"] := by
    dsimp +zetaDelta only
    decide +kernel
  have reported : after.2.outcomes =
      [.commandFailed 7 "GET" "ERR", .commandSucceeded 7 "PING", .commandNotExecuted 7 "PING",
        .commandNotExecuted 7 "GET", .batchAborted 7 2 .connectionClosed,
        .commandSucceeded 7 "PING"] := by
    dsimp +zetaDelta only
    decide +kernel
  obtain ⟨-, runs⟩ := delivers_in_order.2.2 Scripted.Session.account_lawful Scripted.Session.discreet 7 2
    session world findings
  obtain ⟨stops, rounds, -, sound, balance, -, -, -, lines⟩ := runs calm
  have stopped : after.1.phase = .stopped := stops (by decide)
  have none : after.1.holding = [] := by rw [holding, stopped]
  refine ⟨Scripted.Session.account_lawful, Scripted.Session.discreet, calm, sent, given, reported,
    rounds, sound, ?_, lines⟩
  exact (balance.trans (congrArg _ none)).trans (List.append_nil _)

end Worker

end Queue

end RespClient
