import RespClient.Proofs.PipeliningLaws
import RespClient.Proofs.WorkerRun

/-!
# Views of connections

A type of connections may keep more about each connection, or about the network, than another one,
and make the same calls. A `Connection.View` shows what the other one would have: what is seen of a
call is the call on what is seen. Then the same holds of all that is done by such calls: of exchanges
(`View.exchange`), and of workers (`Worker.run_view`). An account of what is seen is one of what it is
seen of (`View.account_lawful`).
-/

namespace RespClient

variable {C D Net Mirror : Type}

/-- The world with what `f` makes of its network. -/
def World.map (f : Mirror → Net) (world : World Mirror) : World Net := ⟨f world.net, world.log⟩

/-- A call on what is seen of a connection and its world is what is seen of another call. -/
def Call.Shows {ε α : Type} (bare : D → C) (net : Mirror → Net) (action : Call D Mirror ε α)
    (action' : Call C Net ε α) : Prop :=
  ∀ (connection : D) (world : World Mirror), action' (bare connection) (world.map net) =
    ((action connection world).1, bare (action connection world).2.1,
      (action connection world).2.2.map net)

theorem Call.Shows.of_calls {ε α : Type} {bare : D → C} {net : Mirror → Net}
    {action : Call D Mirror ε α} {action' : Call C Net ε α} (shows : Call.Shows bare net action action')
    {connection after : D} {world world' : World Mirror} {result : Except ε α}
    (calls : action connection world = (result, after, world')) :
    action' (bare connection) (world.map net) = (result, bare after, world'.map net) := by
  have shown := shows connection world
  rw [calls] at shown
  exact shown

/-- Shows connections of one type, and their network, as those of another. -/
structure Connection.View (D C : Type) {Mirror Net : Type} [Connection D Mirror]
    [Connection C Net] where
  bare : D → C
  net : Mirror → Net
  owed : ∀ connection : D, Connection.owed (bare connection) = Connection.owed connection
  isOpen : ∀ connection : D, Connection.isOpen (bare connection) = Connection.isOpen connection
  isClosed : ∀ connection : D,
    Connection.isClosed (bare connection) = Connection.isClosed connection
  create : ∀ (address : String) (timeout : Duration) (world : World Mirror),
    Connection.create address timeout (world.map net) =
      (bare (Connection.create address timeout world).1,
        (Connection.create (C := D) address timeout world).2.map net)
  ask : ∀ (name : String) (args : List Bytes),
    Call.Shows bare net (Connection.ask name args) (Connection.ask name args)
  send : ∀ (name : String) (args : List Bytes),
    Call.Shows bare net (Connection.send name args) (Connection.send name args)
  receive : Call.Shows bare net Connection.receive Connection.receive
  probe : Call.Shows bare net Connection.probe Connection.probe
  close : Call.Shows bare net Connection.close Connection.close
  sibling : ∀ (connection : D) (world : World Mirror),
    Connection.sibling (bare connection) (world.map net) =
      ((Connection.sibling connection world).1.map bare,
        (Connection.sibling connection world).2.map net)
  abandon : ∀ (connection : D) (world : World Mirror),
    Connection.abandon (bare connection) (world.map net) =
      (Connection.abandon connection world).map net

variable [Connection D Mirror] [Connection C Net] (view : Connection.View D C)

namespace Connection.View

/-! ## Exchanges -/

theorem sendAll (commands : List Command) :
    Call.Shows view.bare view.net (RespClient.sendAll commands) (RespClient.sendAll commands) := by
  induction commands with
  | nil => exact fun _ _ => rfl
  | cons command rest others =>
    intro connection world
    have shown := view.send command.name command.args connection world
    rcases sends : Connection.send command.name command.args connection world with
      ⟨failure | ⟨⟩, after, world'⟩
    · rw [sends] at shown
      simp only [RespClient.sendAll, sends, shown]
    · rw [sends] at shown
      simp only [RespClient.sendAll, sends, shown]
      exact others after world'

theorem receiveAll (commands : List Command) (connection : D) (world : World Mirror) :
    RespClient.receiveAll commands (view.bare connection) (world.map view.net) =
      ((RespClient.receiveAll commands connection world).1,
        (RespClient.receiveAll commands connection world).2.1,
        view.bare (RespClient.receiveAll commands connection world).2.2.1,
        (RespClient.receiveAll commands connection world).2.2.2.map view.net) := by
  induction commands generalizing connection world with
  | nil => rfl
  | cons command rest others =>
    have shown := view.receive connection world
    rcases receives : Connection.receive connection world with ⟨failure | reply, after, world'⟩
    · rw [receives] at shown
      simp only [RespClient.receiveAll, receives, shown]
    · rw [receives] at shown
      simp only [RespClient.receiveAll, receives, shown, others]

/-- What is seen of an exchange is the exchange on what is seen of its connection. -/
theorem exchange (commands : List Command) (connection : D) (world : World Mirror) :
    RespClient.exchange commands (view.bare connection) (world.map view.net) =
      ((RespClient.exchange commands connection world).1,
        (RespClient.exchange commands connection world).2.1,
        view.bare (RespClient.exchange commands connection world).2.2.1,
        (RespClient.exchange commands connection world).2.2.2.map view.net) := by
  unfold RespClient.exchange
  rw [view.owed]
  dsimp only
  split
  · rfl
  · rw [roundTrip, roundTrip, view.sendAll]
    rcases RespClient.sendAll commands connection world with ⟨failure | ⟨⟩, after, world'⟩
    · rfl
    · exact view.receiveAll commands after world'

end Connection.View

/-! ## Accounts -/

namespace Connection.View

variable {Ticket : Type}

/-- The account of what is seen of a connection. -/
def account (account : Account C Ticket) : Account D Ticket where
  Owes connection tickets := account.Owes (view.bare connection) tickets
  IssuedFor := account.IssuedFor
  Redeems := account.Redeems

theorem account_lawful {account : Account C Ticket} (laws : account.Lawful) :
    (view.account account).Lawful where
  owed_eq owes := (view.owed _).symm.trans (laws.owed_eq owes)
  settled none := laws.settled ((view.owed _).trans none)
  accepted owes sends := laws.accepted owes ((view.send _ _).of_calls sends)
  redeemed owes receives := laws.redeemed owes (view.receive.of_calls receives)
  refused owes sends := by
    obtain ⟨none, closes⟩ := laws.refused owes ((view.send _ _).of_calls sends)
    exact ⟨(view.owed _).symm.trans none, fun some => (view.isClosed _).symm.trans (closes some)⟩
  lost owes some receives := by
    obtain ⟨none, closed⟩ := laws.lost owes some (view.receive.of_calls receives)
    exact ⟨(view.owed _).symm.trans none, (view.isClosed _).symm.trans closed⟩

end Connection.View

/-! ## Workers -/

namespace Queue.Worker

/-- The worker with another connection in place of its own. -/
def map (f : D → C) (worker : Worker D) : Worker C :=
  { worker with connection := f worker.connection }

theorem reportBatch_map (f : Mirror → Net) (number : Nat) (commands : List Command)
    (error? : Option Error) (world : World Mirror) :
    reportBatch number commands error? (world.map f) =
      (reportBatch number commands error? world).map f := by
  rw [reportBatch_log, reportBatch_log]
  rfl

theorem reconnect_view (worker : Worker D) (world : World Mirror) :
    (worker.map view.bare).reconnect (world.map view.net) =
      ((worker.reconnect world).1.map view.bare, (worker.reconnect world).2.map view.net) := by
  have shown := view.sibling worker.connection world
  have sameClosed : Connection.isClosed (worker.map view.bare).connection =
    Connection.isClosed worker.connection := view.isClosed worker.connection
  have here : (worker.map view.bare).connection = view.bare worker.connection := rfl
  unfold reconnect
  rw [sameClosed, here, shown]
  split
  · rcases Connection.sibling worker.connection world with ⟨error | fresh, world'⟩
    · rfl
    · rfl
  · rfl

theorem finish_view (worker : Worker D) (world : World Mirror) :
    (worker.map view.bare).finish (world.map view.net) =
      ((worker.finish world).1.map view.bare, (worker.finish world).2.map view.net) := by
  have shown := view.close worker.connection world
  have here : (worker.map view.bare).connection = view.bare worker.connection := rfl
  unfold finish
  rw [here, shown]
  rcases Connection.close worker.connection world with ⟨error | ⟨⟩, after, world'⟩
  · rfl
  · rfl

theorem crash_view (cause : Crash) (worker : Worker D) (world : World Mirror) :
    (worker.map view.bare).crash cause (world.map view.net) =
      ((worker.crash cause world).1.map view.bare, (worker.crash cause world).2.map view.net) := by
  have shown := view.abandon worker.connection world
  unfold crash
  rw [show (worker.map view.bare).connection = view.bare worker.connection from rfl, shown]
  rfl

theorem sendBatch_view (batch : List Command) (worker : Worker D) (world : World Mirror) :
    (worker.map view.bare).sendBatch batch (world.map view.net) =
      ((worker.sendBatch batch world).1.map view.bare,
        (worker.sendBatch batch world).2.map view.net) := by
  rcases reconnects : worker.reconnect world with ⟨ready, world'⟩
  have reconnects' := reconnect_view view worker world
  rw [reconnects] at reconnects'
  have shown : exchange batch (ready.map view.bare).connection (world'.map view.net) = _ :=
    view.exchange batch ready.connection world'
  simp only [sendBatch, reconnects, reconnects', shown]
  rcases exchange batch ready.connection world' with
    ⟨(error | cause) | ⟨⟩, commands, connection, world''⟩
  · simp only [reportBatch_map]
    rfl
  · exact crash_view view cause { ready with connection } world''
  · simp only [reportBatch_map]
    rfl

theorem perform_view (worker : Worker D) (world : World Mirror) :
    (worker.map view.bare).perform (world.map view.net) =
      ((worker.perform world).1.map view.bare, (worker.perform world).2.map view.net) := by
  cases phase : worker.phase with
  | ready batch last =>
    have phase' : (worker.map view.bare).phase = .ready batch last := phase
    have sameLife : ((worker.sendBatch batch world).1.map view.bare).isAlive =
      (worker.sendBatch batch world).1.isAlive := rfl
    rw [perform_of_ready phase, perform_of_ready phase', sendBatch_view, sameLife]
    split
    · exact finish_view view _ _
    · rfl
  | waiting | collecting | stopped | crashed =>
    have phase' : (worker.map view.bare).phase = _ := phase
    simp only [perform, phase, phase']

theorem observe_view (finding : Finding) (worker : Worker D) (world : World Mirror) :
    (worker.map view.bare).observe finding (world.map view.net) =
      ((worker.observe finding world).1.map view.bare,
        (worker.observe finding world).2.map view.net) := by
  rcases worker with ⟨number, batchSize, connection, phase, batches⟩
  cases phase with
  | waiting =>
    cases finding with
    | command found =>
      have crashes := crash_view view .capacityOverflow
        ⟨number, batchSize, connection, .waiting, batches⟩ world
      by_cases large : maxRoom < batchSize
      · simp only [observe, map, large, if_true]
        exact crashes
      · simp only [observe, map, large, if_false]
    | nothing => rfl
    | closed => exact finish_view view ⟨number, batchSize, connection, .waiting, batches⟩ world
  | collecting => cases finding <;> rfl
  | ready | stopped | crashed => rfl

/-- What is seen of the run of a worker is the run of what is seen of it. -/
theorem run_view (findings : List Finding) (worker : Worker D) (world : World Mirror) :
    run findings (worker.map view.bare) (world.map view.net) =
      ((run findings worker world).1.map view.bare,
        (run findings worker world).2.map view.net) := by
  induction findings generalizing worker world with
  | nil => rfl
  | cons finding rest later =>
    simp only [run, observe_view, perform_view]
    exact later _ _

/-- The batch as the worker that is seen sends it. -/
def Dispatch.map (f : D → C) (g : Mirror → Net) (dispatch : Dispatch D Mirror) : Dispatch C Net :=
  ⟨dispatch.worker.map f, dispatch.batch, dispatch.world.map g⟩

/-- The batches of what is seen of a worker are those that are seen of the worker's batches. -/
theorem dispatches_view (findings : List Finding) (worker : Worker D) (world : World Mirror) :
    dispatches findings (worker.map view.bare) (world.map view.net) =
      (dispatches findings worker world).map (Dispatch.map view.bare view.net) := by
  induction findings generalizing worker world with
  | nil => rfl
  | cons finding rest later =>
    simp only [dispatches, observe_view, perform_view]
    rw [later]
    have samePhase : ((worker.observe finding world).1.map view.bare).phase =
      (worker.observe finding world).1.phase := rfl
    rw [samePhase]
    rcases (worker.observe finding world).1.phase with _ | batch | ⟨batch, last⟩ | _ | cause
    all_goals rfl

end Queue.Worker

end RespClient
