import Mathlib.Data.List.Chain
import RespClient.Proofs.NumberedConnections
import RespClient.Proofs.WorkerRun

/-!
# Connections of a worker

A worker owns one connection at a time. Before each batch it gives the connection up if it is closed,
for a sibling of it, and it closes the last one when it ends.

`Dispatch.Tidy` says what a batch finds: a connection that owes nothing, which was replaced if it was
closed and if that was not refused. `Dispatch.Precedes` says what one batch leaves to the next.
`connections_tidy` is the main statement.
-/

namespace RespClient

open Connection (Account)

variable {C Net Ticket Origin : Type}

variable [Connection C Net]

/-! ## Exchanges -/

/-- A connection goes on through an exchange. -/
theorem Connection.Replaceable.exchanged {origin : C → Origin}
    (laws : Connection.Replaceable origin) (commands : List Command) (connection : C)
    (world : World Net) :
    Connection.Continues origin connection (exchange commands connection world).2.2.1 := by
  have continues {next after : C} (first : Connection.Continues origin connection next)
      (second : Connection.Continues origin next after) :
      Connection.Continues origin connection after :=
    ⟨second.sameOrigin.trans first.sameOrigin,
      fun closed => second.staysClosed (first.staysClosed closed)⟩
  exact exchange_keeps (fun after _ => Connection.Continues origin connection after)
    (fun name args _ world before => continues before (laws.sent name args _ world))
    (fun {_ world} before => continues before (laws.received _ world)) commands ⟨rfl, id⟩

/-- A connection that owes nothing owes nothing when an exchange on it has ended. -/
theorem Connection.Account.Lawful.settled_of_exchange {account : Account C Ticket} (laws : account.Lawful)
    {batch commands : List Command} {connection after : C} {world world' : World Net}
    {result : Except Failure Unit} (settled : Connection.owed connection = 0)
    (exchanges : exchange batch connection world = (result, commands, after, world'))
    (calm : ∀ crash, result ≠ .error (.crashed crash)) : Connection.owed after = 0 := by
  obtain ⟨count, replies, result', after', world'', out, course⟩ :=
    roundTrip_course batch connection world
  rw [exchange_of_settled settled, out] at exchanges
  cases exchanges
  obtain ⟨-, -, -, -, settled'⟩ := course.settles laws settled
  exact settled' calm

namespace Queue.Worker

/-! ## What a batch finds -/

/-- The batch is sent on a connection that owes nothing and has this origin. It is the one that the
worker had, unless that was closed and could be replaced by a sibling. -/
structure Dispatch.Tidy (origin : C → Origin) (place : Origin) (dispatch : Dispatch C Net) :
    Prop where
  settled : Connection.owed dispatch.ready.1.connection = 0
  sameOrigin : origin dispatch.ready.1.connection = place
  kept : Connection.isClosed dispatch.worker.connection = false →
    dispatch.ready = (dispatch.worker, dispatch.world)
  replaced : Connection.isClosed dispatch.worker.connection = true →
    (∃ fresh world', Connection.sibling dispatch.worker.connection dispatch.world =
        (.ok fresh, world') ∧ Connection.Fit fresh ∧
      dispatch.ready = ({ dispatch.worker with connection := fresh },
        world'.report (.reconnected dispatch.worker.number))) ∨
    ∃ error world', Connection.sibling dispatch.worker.connection dispatch.world =
        (.error error, world') ∧
      dispatch.ready =
        (dispatch.worker, world'.report (.reconnectFailed dispatch.worker.number error))

/-- The next batch finds the connection that this one has left, closed if it was closed. -/
structure Dispatch.Precedes (dispatch next : Dispatch C Net) : Prop where
  left : next.worker.connection =
    (exchange dispatch.batch dispatch.ready.1.connection dispatch.ready.2).2.2.1
  staysClosed : Connection.isClosed dispatch.ready.1.connection = true →
    Connection.isClosed next.worker.connection = true

section Tidy

variable {account : Account C Ticket} {origin : C → Origin}

theorem tidy_of_settled (replaceable : Connection.Replaceable origin)
    (dispatch : Dispatch C Net) (settled : Connection.owed dispatch.worker.connection = 0) :
    dispatch.Tidy origin (origin dispatch.worker.connection) := by
  rcases reconnect_cases dispatch.worker dispatch.world with
    ⟨opened, out⟩ | ⟨closed, fresh, world', copies, out⟩ | ⟨closed, error, world', copies, out⟩
  · have ready : dispatch.ready = (dispatch.worker, dispatch.world) := out
    refine ⟨?_, ?_, fun _ => ready, fun closed => ?_⟩
    · rw [ready]
      exact settled
    · rw [ready]
    · rw [opened] at closed
      cases closed
  · obtain ⟨fit, sameOrigin⟩ := replaceable.copied copies
    have ready : dispatch.ready = _ := out
    refine ⟨?_, ?_, fun opened => ?_, fun _ => Or.inl ⟨fresh, world', copies, fit, ready⟩⟩
    · rw [ready]
      exact fit.owesNothing
    · rw [ready]
      exact sameOrigin
    · rw [closed] at opened
      cases opened
  · have ready : dispatch.ready = _ := out
    refine ⟨?_, ?_, fun opened => ?_, fun _ => Or.inr ⟨error, world', copies, ready⟩⟩
    · rw [ready]
      exact settled
    · rw [ready]
    · rw [closed] at opened
      cases opened

/-- A worker that has sent a batch is left with a connection that owes nothing. -/
theorem settled_of_sent (laws : account.Lawful) (replaceable : Connection.Replaceable origin)
    (dispatch : Dispatch C Net) {next : Worker C} {world' : World Net}
    (settled : Connection.owed dispatch.worker.connection = 0)
    (sent : dispatch.worker.sendBatch dispatch.batch dispatch.world = (next, world'))
    (waits : next.phase = .waiting) :
    Connection.owed next.connection = 0 ∧
      origin next.connection = origin dispatch.worker.connection ∧
      next.connection =
        (exchange dispatch.batch dispatch.ready.1.connection dispatch.ready.2).2.2.1 ∧
      (Connection.isClosed dispatch.ready.1.connection = true →
        Connection.isClosed next.connection = true) := by
  have tidy := tidy_of_settled replaceable dispatch settled
  have continues := replaceable.exchanged dispatch.batch dispatch.ready.1.connection
    dispatch.ready.2
  obtain ⟨error?, commands, connection, before, exchanges, next_eq, -⟩ :=
    sendBatch_of_waits sent waits
  have exchanges' : exchange dispatch.batch dispatch.ready.1.connection dispatch.ready.2 =
      (resultOf error?, commands, connection, before) := exchanges
  rw [exchanges'] at continues ⊢
  subst next_eq
  exact ⟨laws.settled_of_exchange tidy.settled exchanges' (resultOf_ne_crashed error?),
    continues.sameOrigin.trans tidy.sameOrigin, rfl, continues.staysClosed⟩

/-- Every batch of a service that begins on a connection that owes nothing finds such a connection,
and each batch finds what the one before it has left. -/
theorem Service.tidy (laws : account.Lawful) (replaceable : Connection.Replaceable origin)
    {findings : List Finding} {worker after : Worker C} {world world' : World Net}
    {dispatches : List (Dispatch C Net)}
    (service : Service findings worker world dispatches after world')
    (settled : Connection.owed worker.connection = 0) :
    (∀ dispatch ∈ dispatches, dispatch.Tidy origin (origin worker.connection)) ∧
      dispatches.IsChain Dispatch.Precedes ∧
      ∀ dispatch ∈ dispatches.head?, dispatch.worker.connection = worker.connection := by
  induction service with
  | pauses => exact ⟨nofun, .nil, nofun⟩
  | takes goesOn taken more others => exact others settled
  | ends waits => exact ⟨nofun, .nil, nofun⟩
  | @sends finding later worker ready next after batch world world₁ world' dispatches goesOn
      nonempty batch_eq ready_eq sent waits more others =>
    subst ready_eq
    let dispatch : Dispatch C Net := ⟨{ worker with phase := .ready batch false }, batch, world⟩
    have tidy : dispatch.Tidy origin (origin worker.connection) :=
      tidy_of_settled replaceable dispatch settled
    obtain ⟨settled', sameOrigin, left, staysClosed⟩ :=
      settled_of_sent laws replaceable dispatch settled sent waits
    obtain ⟨allTidy, chain, first⟩ := others settled'
    refine ⟨?_, ?_, ?_⟩
    · intro other there
      rcases List.mem_cons.1 there with rfl | later
      · exact tidy
      · rw [show origin worker.connection = origin next.connection from sameOrigin.symm]
        exact allTidy other later
    · refine List.isChain_cons.2 ⟨fun other there => ?_, chain⟩
      have here := first other there
      exact ⟨here.trans left, fun closed => by rw [here]; exact staysClosed closed⟩
    · intro other there
      cases there
      rfl
  | @sendsLast later worker ready next batch world world₁ nonempty batch_eq ready_eq sent waits =>
    subst ready_eq
    refine ⟨?_, List.isChain_singleton _, ?_⟩
    · intro other there
      rw [List.mem_singleton.1 there]
      exact tidy_of_settled replaceable ⟨{ worker with phase := .ready batch true }, batch, world⟩
        settled
    · intro other there
      cases there
      rfl

end Tidy

/-! ## Where the connections are -/

section Kept

variable {worker : Worker (Numbered C)} {excepted : List Nat} {rest : List (Numbered C)}

omit [Connection C Net] in
/-- The connection of a worker that goes on. -/
def live (worker : Worker (Numbered C)) : List (Numbered C) :=
  if worker.isAlive then [worker.connection] else []

theorem reconnect_kept {world : World (Register C Net)}
    (kept : Kept world.net.states excepted (worker.connection :: rest)) :
    Kept (worker.reconnect world).2.net.states excepted
      ((worker.reconnect world).1.connection :: rest) := by
  unfold reconnect
  split
  · next closed =>
    rcases copies : Connection.sibling worker.connection.connection world.plain with
      ⟨error | fresh, world'⟩
    · rw [Numbered.sibling_of_error copies]
      exact kept
    · rw [Numbered.sibling_of_ok copies]
      exact (kept.drop closed).enter fresh
  · exact kept

theorem sendBatch_kept {world : World (Register C Net)}
    (kept : Kept world.net.states excepted (worker.connection :: rest)) (batch : List Command) :
    Kept (worker.sendBatch batch world).2.net.states excepted
      ((worker.sendBatch batch world).1.connection :: rest) := by
  have exchanged := (reconnect_kept kept).exchange batch
  have reported (number : Nat) (commands : List Command) (error? : Option Error)
      (world : World (Register C Net)) :
      (reportBatch number commands error? world).net = world.net := by
    rw [reportBatch_log]
  unfold sendBatch
  dsimp only
  split
  · exact exchanged
  · rw [reported]
    exact exchanged
  · rw [reported]
    exact exchanged

theorem finish_kept (closes : Connection.Closes C) {world : World (Register C Net)}
    (kept : Kept world.net.states excepted (worker.connection :: rest)) :
    Kept (worker.finish world).2.net.states excepted ((worker.finish world).1.live ++ rest) := by
  have closed := Kept.close closes world kept
  have gone : (worker.finish world).1.live = [] := rfl
  rw [gone]
  unfold finish
  dsimp only
  split
  · exact closed
  · exact closed

theorem perform_kept (closes : Connection.Closes C) {world : World (Register C Net)}
    {batch : List Command} {last : Bool} (ready : worker.phase = .ready batch last)
    (kept : Kept world.net.states excepted (worker.connection :: rest))
    (calm : (worker.perform world).1.crash? = none) :
    Kept (worker.perform world).2.net.states excepted
      ((worker.perform world).1.live ++ rest) := by
  have kept' := sendBatch_kept kept batch
  obtain ⟨next, world', sent, ⟨waits, more, performs⟩ | ⟨waits, isLast, performs⟩ |
    ⟨cause, crashed, performs⟩⟩ := perform_cases ready world
  · have alive : next.isAlive = true := by rw [isAlive, waits]
    rw [sent] at kept'
    rw [performs, live, if_pos alive]
    exact kept'
  · rw [sent] at kept'
    rw [performs]
    exact finish_kept closes kept'
  · rw [performs, crash?, crashed] at calm
    cases calm

theorem observe_kept (closes : Connection.Closes C) {world : World (Register C Net)}
    (finding : Finding) (alive : worker.isAlive = true)
    (kept : Kept world.net.states excepted (worker.connection :: rest))
    (calm : (worker.observe finding world).1.crash? = none) :
    Kept (worker.observe finding world).2.net.states excepted
      ((worker.observe finding world).1.live ++ rest) := by
  rcases worker with ⟨number, batchSize, connection, phase, batches⟩
  have gathers (batch : List Command) : Worker.live
      ⟨number, batchSize, connection, gather batchSize batch, batches⟩ = [connection] := by
    unfold gather
    split <;> rfl
  cases phase with
  | waiting =>
    cases finding with
    | command found =>
      by_cases large : maxRoom < batchSize
      · simp only [observe, large, if_true] at calm
        cases calm
      · simp only [observe, large, if_false, gathers]
        exact kept
    | nothing => exact kept
    | closed => exact finish_kept closes kept
  | collecting batch =>
    cases finding with
    | command found =>
      simp only [observe, gathers]
      exact kept
    | nothing | closed => exact kept
  | ready => exact kept
  | stopped | crashed => cases alive

/-- A service keeps every connection that is not closed with its worker, while it goes on. -/
theorem Service.kept (closes : Connection.Closes C) {findings : List Finding}
    {worker after : Worker (Numbered C)} {world world' : World (Register C Net)}
    {dispatches : List (Dispatch (Numbered C) (Register C Net))}
    (service : Service findings worker world dispatches after world')
    (kept : Kept world.net.states excepted (worker.connection :: rest)) :
    Kept world'.net.states excepted (after.live ++ rest) := by
  induction service with
  | @pauses worker world collects =>
    have alive : worker.isAlive = true := by
      rcases collects with waits | ⟨batch, -, collects⟩
      · rw [isAlive, waits]
      · rw [isAlive, collects]
    rw [live, if_pos alive]
    exact kept
  | takes goesOn taken more others => exact others kept
  | @sends finding later worker ready next after batch world world₁ world' dispatches goesOn
      nonempty batch_eq ready_eq sent waits more others =>
    have here : ready.connection = worker.connection := by rw [ready_eq]
    rw [← here] at kept
    have kept' := sendBatch_kept kept batch
    rw [sent] at kept'
    exact others kept'
  | @sendsLast later worker ready next batch world world₁ nonempty batch_eq ready_eq sent waits =>
    have here : ready.connection = worker.connection := by rw [ready_eq]
    rw [← here] at kept
    have kept' := sendBatch_kept kept batch
    rw [sent] at kept'
    exact finish_kept closes kept'
  | ends waits => exact finish_kept closes kept

theorem length_states_finish (worker : Worker (Numbered C)) (world : World (Register C Net)) :
    (worker.finish world).2.net.states.length = world.net.states.length := by
  have closes := Numbered.length_call Connection.close worker.connection world
  unfold finish
  dsimp only
  split
  · exact closes
  · exact closes

theorem length_states_sendBatch {batch : List Command} {worker next : Worker (Numbered C)}
    {world world' : World (Register C Net)} (sent : worker.sendBatch batch world = (next, world'))
    (waits : next.phase = .waiting) :
    world'.net.states.length ≤ world.net.states.length + 1 := by
  have reconnects :
      (worker.reconnect world).2.net.states.length ≤ world.net.states.length + 1 := by
    unfold reconnect
    split
    · rcases copies : Connection.sibling worker.connection.connection world.plain with
        ⟨error | fresh, world''⟩
      · rw [Numbered.sibling_of_error copies]
        exact Nat.le_succ _
      · rw [Numbered.sibling_of_ok copies]
        exact Nat.le_of_eq List.length_append
    · exact Nat.le_succ _
  obtain ⟨error?, commands, connection, before, exchanges, -, rfl⟩ := sendBatch_of_waits sent waits
  have sameLength := Numbered.length_exchange batch (worker.reconnect world).1.connection
    (worker.reconnect world).2
  rw [exchanges] at sameLength
  rw [reportBatch_log]
  exact sameLength.trans_le reconnects

/-- A service makes one connection more for each batch, at most. -/
theorem Service.length_states_le {findings : List Finding} {worker after : Worker (Numbered C)}
    {world world' : World (Register C Net)}
    {dispatches : List (Dispatch (Numbered C) (Register C Net))}
    (service : Service findings worker world dispatches after world') :
    world'.net.states.length ≤ world.net.states.length + dispatches.length := by
  induction service with
  | pauses => exact Nat.le_refl _
  | takes goesOn taken more others => exact others
  | ends waits => exact Nat.le_of_eq (length_states_finish _ _)
  | sends goesOn nonempty batch_eq ready_eq sent waits more others =>
    have one := length_states_sendBatch sent waits
    rw [List.length_cons]
    omega
  | sendsLast nonempty batch_eq ready_eq sent waits =>
    have one := length_states_sendBatch sent waits
    rw [length_states_finish, List.length_singleton]
    exact one

end Kept

/-! ## Runs -/

/-- **Connections of a worker.** Take connections that keep a lawful account and that can be replaced
by their siblings, as sessions over TCP and scripted sessions do, and a worker that starts on one that
owes nothing. If the worker does not crash, every batch is sent on a connection that owes nothing, so
that none is refused. A connection is replaced only if it is closed, once before a batch, by a sibling
of the same origin; if that is refused it stays, closed, and the next batch finds it so. When the
worker has ended, every connection that it had is closed. (These are told apart by their numbers.) -/
theorem connections_tidy :
    (Tcp.Session.account.Lawful ∧ Connection.Replaceable Tcp.Session.origin) ∧
    (Scripted.Session.account.Lawful ∧ Connection.Replaceable Scripted.Session.origin) ∧
    ∀ {C Net Ticket Origin : Type} [Connection C Net] {account : Account C Ticket}
      {origin : C → Origin}, account.Lawful → Connection.Replaceable origin →
    ∀ (number batchSize : Nat) (connection : C) (world : World Net) (findings : List Finding),
      Connection.owed connection = 0 →
      let started := start number batchSize connection world
      let after := run findings started.1 started.2
      after.1.crash? = none →
      let batches := dispatches findings started.1 started.2
      (∀ dispatch ∈ batches, dispatch.Tidy origin (origin connection) ∧
        exchange dispatch.batch dispatch.ready.1.connection dispatch.ready.2 =
          roundTrip dispatch.batch dispatch.ready.1.connection dispatch.ready.2) ∧
      (∀ dispatch ∈ batches.head?, dispatch.worker.connection = connection) ∧
      batches.IsChain Dispatch.Precedes ∧
      (.closed ∈ findings → after.1.phase = .stopped) ∧
      let started' := start number batchSize (⟨0, connection⟩ : Numbered C)
        (world.registering [connection])
      let after' := run findings started'.1 started'.2
      (after'.1.map Numbered.connection, after'.2.plain) = after ∧
      after'.2.net.states.length ≤ batches.length + 1 ∧
      (after.1.phase = .stopped → ∀ {number : Nat} {connection : C},
        after'.2.net.states[number]? = some connection → Connection.isClosed connection = true) := by
  refine ⟨⟨Tcp.Session.account_lawful, Tcp.Session.replaceable⟩,
    ⟨Scripted.Session.account_lawful, Scripted.Session.replaceable⟩, ?_⟩
  intro C Net Ticket Origin _ account origin laws replaceable number batchSize connection world
    findings settled started after calm batches
  have service : Service findings started.1 started.2 batches after.1 after.2 :=
    run_service (Or.inl rfl) findings started.2 calm
  obtain ⟨tidy, chain, first⟩ := service.tidy laws replaceable settled
  refine ⟨fun dispatch there => ⟨tidy dispatch there, ?_⟩, first, chain, service.stopped, ?_⟩
  · exact exchange_of_settled (tidy dispatch there).settled _ _
  · intro started' after'
    have same : (after'.1.map Numbered.connection, after'.2.plain) = after :=
      (run_view Numbered.view findings started'.1 started'.2).symm
    have sameBatches : batches = _ :=
      dispatches_view Numbered.view findings started'.1 started'.2
    have calm' : after'.1.crash? = none := by
      rw [← same] at calm
      exact calm
    have service' := run_service (Or.inl rfl) findings started'.2 calm'
    have kept : Kept [connection] [] [⟨0, connection⟩] := Kept.nil.enter connection
    have kept' := service'.kept replaceable.closes kept
    refine ⟨same, ?_, fun ended => ?_⟩
    · rw [sameBatches, List.length_map, Nat.add_comm]
      exact service'.length_states_le
    · rw [← same] at ended
      have gone : after'.1.live = [] := by
        rw [live, isAlive, show after'.1.phase = .stopped from ended]
        rfl
      rw [gone] at kept'
      intro number connection found
      by_contra opened
      have somewhere := kept'.accounted found (eq_false_of_ne_true opened) List.not_mem_nil
      cases somewhere

/-- Sessions that answer once and then are lost, and that can be copied once. The second batch loses the
first session, the third is sent on a copy, the fourth loses that, and the fifth finds it closed. -/
theorem connections_tidy_instance :
    let script : Scripted.Script := { failReplyAfter := some 1, siblingLimit := some 1 }
    let session : Scripted.Session := { number := 0, address := "127.0.0.1:6379", script }
    let world : World Scripted.Stage := ⟨{ scripts := [], created := 1 }, #[]⟩
    let findings := List.replicate 5 (Finding.command .ping) ++ [.closed]
    let started := start 0 1 session world
    let after := run findings started.1 started.2
    let batches := dispatches findings started.1 started.2
    let numbered := start 0 1 (⟨0, session⟩ : Numbered Scripted.Session) (world.registering [session])
    let register := (run findings numbered.1 numbered.2).2.net.states
    Scripted.Session.account.Lawful ∧ Connection.Replaceable Scripted.Session.origin ∧
    Connection.owed session = 0 ∧ after.1.crash? = none ∧ after.1.phase = .stopped ∧
    batches.map (fun batch => Connection.isClosed batch.worker.connection) =
      [false, false, true, false, true] ∧
    batches.map (fun batch => Connection.isClosed batch.ready.1.connection) =
      [false, false, false, false, true] ∧
    (∀ batch ∈ batches, batch.Tidy Scripted.Session.origin session.origin) ∧
    batches.IsChain Dispatch.Precedes ∧ register.length = 2 ∧
    ∀ {number : Nat} {connection : Scripted.Session}, register[number]? = some connection →
      Connection.isClosed connection = true := by
  intro script session world findings started after batches numbered register
  have calm : after.1.crash? = none := by
    dsimp +zetaDelta only
    decide +kernel
  have found : batches.map (fun batch => Connection.isClosed batch.worker.connection) =
      [false, false, true, false, true] := by
    dsimp +zetaDelta only
    decide +kernel
  have sent : batches.map (fun batch => Connection.isClosed batch.ready.1.connection) =
      [false, false, false, false, true] := by
    dsimp +zetaDelta only
    decide +kernel
  have two : register.length = 2 := by
    dsimp +zetaDelta only
    decide +kernel
  obtain ⟨tidy, -, chain, stops, -, -, closed⟩ :=
    connections_tidy.2.2 Scripted.Session.account_lawful Scripted.Session.replaceable 0 1 session
      world findings rfl calm
  have stopped : after.1.phase = .stopped := stops (by decide)
  exact ⟨Scripted.Session.account_lawful, Scripted.Session.replaceable, rfl, calm, stopped, found,
    sent, fun batch there => (tidy batch there).1, chain, two, closed stopped⟩

end Queue.Worker

end RespClient
