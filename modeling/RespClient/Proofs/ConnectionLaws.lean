import RespClient.Proofs.SessionRun
import RespClient.Scripted

/-!
# Laws of connections

What pools and queues rely on when they use connections of an arbitrary type. `Connection.Laws` is
what pools assume, and `Connection.Steady` if they are to keep the connections of exchanges that
succeed; workers assume `Connection.Replaceable` of the connections that they replace, and
`Connection.Discreet` of what connections report. Sessions over TCP and scripted sessions keep all
four: see `laws`, `steady`, `replaceable` and `discreet` in `Tcp.Session` and in `Scripted.Session`.
Only scripts can make a call crash; sessions over TCP are `Connection.Calm`.
-/

namespace RespClient

variable {C Net : Type} [Connection C Net]

/-- A connection is fit for use if it is not closed and owes no replies. -/
structure Connection.Fit (connection : C) : Prop where
  notClosed : Connection.isClosed connection = false
  owesNothing : Connection.owed connection = 0

variable (C) in
/-- What is assumed of a type of connections. -/
structure Connection.Laws : Prop where
  /-- A new connection is fit for use. -/
  created : ∀ (address : String) (timeout : Duration) (world : World Net),
    Connection.Fit (Connection.create (C := C) address timeout world).1
  /-- A connection without debts is fit for use once its server has answered. -/
  probed : ∀ {connection connection' : C} {world world' : World Net},
    Connection.owed connection = 0 →
    Connection.probe connection world = (.ok (), connection', world') →
    Connection.Fit connection'
  /-- A connection is closed after it was told to close, even if it objects. -/
  closed : ∀ (connection : C) (world : World Net),
    Connection.isClosed (Connection.close connection world).2.1 = true

variable (C) in
/-- Connections of this type are closed after they were told to close, even if they object. -/
def Connection.Closes : Prop := ∀ (connection : C) (world : World Net),
  Connection.isClosed (Connection.close connection world).2.1 = true

theorem Connection.Laws.closes (laws : Connection.Laws C) : Connection.Closes C := laws.closed

variable (C) in
/-- Connections of this type are not closed by calls that succeed, nor closed before them. -/
structure Connection.Steady : Prop where
  sent : ∀ {name : String} {args : List Bytes} {connection after : C} {world world' : World Net},
    Connection.send name args connection world = (.ok (), after, world') →
    Connection.isClosed after = false
  received : ∀ {connection after : C} {world world' : World Net} {reply : Reply},
    Connection.receive connection world = (.ok reply, after, world') →
    Connection.isClosed after = false

variable (C) in
/-- Calls on connections of this type may fail, and do not crash. -/
structure Connection.Calm : Prop where
  sent : ∀ (name : String) (args : List Bytes) (connection : C) (world : World Net) (crash : Crash),
    (Connection.send name args connection world).1 ≠ .error (.crashed crash)
  received : ∀ (connection : C) (world : World Net) (crash : Crash),
    (Connection.receive connection world).1 ≠ .error (.crashed crash)

variable {Origin : Type}

/-- A connection after a call on it: for the same server, and still closed if it was. -/
structure Connection.Continues (origin : C → Origin) (before after : C) : Prop where
  sameOrigin : origin after = origin before
  staysClosed : Connection.isClosed before = true → Connection.isClosed after = true

/-- What is assumed of connections that are replaced by their siblings. The origin of a connection is
what it was made from. -/
structure Connection.Replaceable (origin : C → Origin) : Prop where
  closes : Connection.Closes C
  copied : ∀ {connection fresh : C} {world world' : World Net},
    Connection.sibling connection world = (.ok fresh, world') →
    Connection.Fit fresh ∧ origin fresh = origin connection
  sent : ∀ (name : String) (args : List Bytes) (connection : C) (world : World Net),
    Connection.Continues origin connection (Connection.send name args connection world).2.1
  received : ∀ (connection : C) (world : World Net),
    Connection.Continues origin connection (Connection.receive connection world).2.1

/-- The report says what became of a command or of a batch. -/
def LogEntry.isOutcome : LogEntry → Bool
  | .commandSucceeded .. | .commandFailed .. | .commandNotExecuted .. | .batchAborted .. => true
  | _ => false

/-- The reports on what became of commands and batches. -/
def World.outcomes {Net : Type} (world : World Net) : List LogEntry :=
  world.log.toList.filter LogEntry.isOutcome

theorem World.outcomes_report {Net : Type} {entry : LogEntry} (other : entry.isOutcome = false)
    (world : World Net) : (world.report entry).outcomes = world.outcomes := by
  rw [outcomes, report, Array.toList_push, List.filter_append, List.filter_cons, other]
  exact List.append_nil _

variable (C) in
/-- Connections of this type leave it to their holder to report what became of commands. -/
structure Connection.Discreet : Prop where
  sent : ∀ (name : String) (args : List Bytes) (connection : C) (world : World Net),
    (Connection.send name args connection world).2.2.outcomes = world.outcomes
  received : ∀ (connection : C) (world : World Net),
    (Connection.receive connection world).2.2.outcomes = world.outcomes
  closed : ∀ (connection : C) (world : World Net),
    (Connection.close connection world).2.2.outcomes = world.outcomes
  copied : ∀ (connection : C) (world : World Net),
    (Connection.sibling connection world).2.outcomes = world.outcomes

/-! ## Sessions over TCP -/

/-- Sessions over TCP keep the laws of connections. -/
theorem Tcp.Session.laws : Connection.Laws Tcp.Session where
  created _ _ _ := ⟨rfl, rfl⟩
  probed {session after world world'} none probes := by
    change session.owed = 0 at none
    change session.probe world = (.ok (), after, world') at probes
    rcases Tcp.Session.probe_cases session world with
      ⟨opened, out⟩ | ⟨error, sent, world'', -, -, out⟩ | ⟨sent, world'', -, asks, out⟩ |
        ⟨reply, sent, world'', -, -, -, out⟩
    · rw [out] at probes
      cases probes
      refine ⟨?_, none⟩
      rcases session with ⟨address, timeout, _ | link | _, owed⟩
      · cases opened
      · rfl
      · cases opened
    · rw [out] at probes
      cases probes
    · rw [out] at probes
      cases probes
      obtain ⟨⟨link, stage, -⟩, none'⟩ := Tcp.Session.connected_of_ask_ok asks
      refine ⟨?_, none'⟩
      change Tcp.Session.isClosed after = false
      rw [Tcp.Session.isClosed, stage]
    · rw [out] at probes
      cases probes
  closed _ _ := rfl

/-- Sessions over TCP are connected after calls that succeed. -/
theorem Tcp.Session.steady : Connection.Steady Tcp.Session where
  sent {name args session after world world'} sends := by
    change reported (session.send name args world) = (.ok (), after, world') at sends
    rcases send_cases name args session world with
      ⟨link, -, out⟩ | ⟨-, out⟩ | ⟨link, dialed, -, -, out⟩ | ⟨error, dialed, -, -, out⟩
    all_goals
      rw [out] at sends
      cases sends
    · rfl
    · rfl
  received {session after world world' reply} receives := by
    change reported (session.receive world) = (.ok reply, after, world') at receives
    rcases receive_cases session world with
      ⟨-, out⟩ | ⟨-, -, out⟩ | ⟨link, reply', input, -, -, -, out⟩ | ⟨link, error, input, -, -, -, out⟩
    all_goals
      rw [out] at receives
      cases receives
    rfl

/-- Calls on sessions over TCP do not crash. -/
theorem Tcp.Session.calm : Connection.Calm Tcp.Session where
  sent name args session world crash := by
    change (session.send name args world).1.mapError _ ≠ _
    cases (session.send name args world).1 <;> exact nofun
  received session world crash := by
    change (session.receive world).1.mapError _ ≠ _
    cases (session.receive world).1 <;> exact nofun

/-- What a session over TCP is made from. -/
def Tcp.Session.origin (session : Tcp.Session) : String × Duration :=
  (session.address, session.timeout)

/-- Sessions over TCP can be replaced by their siblings. -/
theorem Tcp.Session.replaceable : Connection.Replaceable Tcp.Session.origin where
  closes := Tcp.Session.laws.closes
  copied {session fresh world world'} copies := by
    change (Except.ok session.sibling, world) = (Except.ok fresh, world') at copies
    cases copies
    exact ⟨⟨rfl, rfl⟩, rfl⟩
  sent name args session world := by
    change Connection.Continues origin session (session.send name args world).2.1
    rcases send_cases name args session world with
      ⟨link, stage, out⟩ | ⟨stage, out⟩ | ⟨link, dialed, stage, -, out⟩ | ⟨error, dialed, stage, -, out⟩
    all_goals rw [out]
    · refine ⟨rfl, fun closed => ?_⟩
      cases stage.symm.trans (isClosed_iff.1 closed)
    · exact ⟨rfl, id⟩
    · refine ⟨rfl, fun closed => ?_⟩
      cases stage.symm.trans (isClosed_iff.1 closed)
    · exact ⟨rfl, fun _ => rfl⟩
  received session world := by
    change Connection.Continues origin session (session.receive world).2.1
    rcases receive_cases session world with
      ⟨-, out⟩ | ⟨-, -, out⟩ | ⟨link, reply, input, -, stage, -, out⟩ | ⟨link, error, input, -, -, -, out⟩
    all_goals rw [out]
    · exact ⟨rfl, id⟩
    · exact ⟨rfl, id⟩
    · refine ⟨rfl, fun closed => ?_⟩
      cases stage.symm.trans (isClosed_iff.1 closed)
    · exact ⟨rfl, fun _ => rfl⟩

theorem Tcp.Session.outcomes_dial (session : Session) (world : World Network) :
    (session.dial world).2.outcomes = world.outcomes := by
  unfold dial
  split
  · rfl
  · exact World.outcomes_report rfl _

/-- Sessions over TCP only report on themselves. -/
theorem Tcp.Session.discreet : Connection.Discreet Tcp.Session where
  sent name args session world := by
    change (session.send name args world).2.2.outcomes = world.outcomes
    have dials := outcomes_dial session world
    rcases send_cases name args session world with
      ⟨link, -, out⟩ | ⟨-, out⟩ | ⟨link, world', -, dialed, out⟩ | ⟨error, world', -, dialed, out⟩
    all_goals rw [out]
    all_goals
      rw [dialed] at dials
      exact dials
  received session world := by
    change (session.receive world).2.2.outcomes = world.outcomes
    rcases receive_cases session world with
      ⟨-, out⟩ | ⟨-, -, out⟩ | ⟨link, reply, input, -, -, -, out⟩ | ⟨link, error, input, -, -, -, out⟩
    all_goals rw [out]
    · rfl
    · exact World.outcomes_report rfl _
  closed session world := by
    change (session.abandon world).outcomes = world.outcomes
    unfold abandon
    split
    · rfl
    · rfl
    · rfl
  copied _ _ := rfl

/-! ## Scripted sessions -/

/-- Scripted sessions keep the laws of connections. -/
theorem Scripted.Session.laws : Connection.Laws Scripted.Session where
  created _ _ _ := ⟨rfl, rfl⟩
  probed {session after world world'} none probes := by
    change session.owed.length = 0 at none
    change session.probe world = (.ok (), after, world') at probes
    unfold Scripted.Session.probe at probes
    rcases session with ⟨number, address, script, phase, owed, taken, replied⟩
    cases phase with
    | idle =>
      dsimp only at probes
      split at probes
      · cases probes
      · cases probes
        exact ⟨rfl, none⟩
    | opened =>
      cases probes
      exact ⟨rfl, none⟩
    | closed => cases probes
  closed session world := by
    change decide ((session.close world).2.1.phase = .closed) = true
    unfold Scripted.Session.close
    split
    · next already => exact decide_eq_true already
    · dsimp only
      split <;> rfl

/-- Scripted sessions are not closed after calls that succeed. -/
theorem Scripted.Session.steady : Connection.Steady Scripted.Session where
  sent {name args session after world world'} sends := by
    change session.send name args world = (.ok (), after, world') at sends
    unfold send at sends
    split at sends
    · cases sends
    · split at sends
      · cases sends
      · split at sends
        · cases sends
        · cases sends
          rfl
  received {session after world world' reply} receives := by
    change session.receive world = (.ok reply, after, world') at receives
    unfold receive at receives
    split at receives
    · cases receives
    · next opened =>
      split at receives
      · cases receives
      · split at receives
        · cases receives
        · cases receives
          exact decide_eq_false opened

/-- What a scripted session is made from. -/
def Scripted.Session.origin (session : Scripted.Session) : String × Scripted.Script :=
  (session.address, session.script)

/-- Scripted sessions can be replaced by their siblings. -/
theorem Scripted.Session.replaceable : Connection.Replaceable Scripted.Session.origin where
  closes := Scripted.Session.laws.closes
  copied {session fresh world world'} copies := by
    change session.sibling world = (.ok fresh, world') at copies
    unfold sibling at copies
    dsimp only at copies
    split at copies
    · cases copies
    · cases copies
      exact ⟨⟨rfl, rfl⟩, rfl⟩
  sent name args session world := by
    change Connection.Continues origin session (session.send name args world).2.1
    unfold send
    split
    · exact ⟨rfl, id⟩
    · next opened =>
      have notClosed : Connection.isClosed session ≠ true := fun closed =>
        opened (of_decide_eq_true closed)
      split
      · exact ⟨rfl, id⟩
      · split
        · exact ⟨rfl, fun _ => rfl⟩
        · exact ⟨rfl, fun closed => absurd closed notClosed⟩
  received session world := by
    change Connection.Continues origin session (session.receive world).2.1
    unfold receive
    split
    · exact ⟨rfl, id⟩
    · next opened =>
      have notClosed : Connection.isClosed session ≠ true := fun closed =>
        opened (of_decide_eq_true closed)
      split
      · exact ⟨rfl, fun _ => rfl⟩
      · split
        · exact ⟨rfl, id⟩
        · exact ⟨rfl, fun closed => absurd closed notClosed⟩

/-- Scripted sessions report nothing. -/
theorem Scripted.Session.discreet : Connection.Discreet Scripted.Session where
  sent name args session world := by
    change (session.send name args world).2.2.outcomes = world.outcomes
    unfold send
    split
    · rfl
    · split
      · rfl
      · split <;> rfl
  received session world := by
    change (session.receive world).2.2.outcomes = world.outcomes
    unfold receive
    split
    · rfl
    · split
      · rfl
      · split <;> rfl
  closed session world := by
    change (session.close world).2.2.outcomes = world.outcomes
    unfold close
    split
    · rfl
    · dsimp only
      split <;> rfl
  copied session world := by
    change (session.sibling world).2.outcomes = world.outcomes
    unfold sibling
    dsimp only
    split <;> rfl

end RespClient
