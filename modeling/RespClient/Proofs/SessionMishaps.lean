import RespClient.Proofs.ReplyErrors
import RespClient.Proofs.ServedSessions
import RespClient.Tcp.Mishaps

/-!
# Calls that fail

A call on a session ends in one of three ways: it succeeds and leaves the session connected, or it fails
and closes it, or it is refused and changes nothing at all. That is so whatever the server sends, whatever
mishaps strike the call, and wherever in it they do.

Each call has one statement that lists how it ends: `sendUnder_cases`, `receiveUnder_cases`,
`askUnder_cases` and `probeUnder_cases`. They also tell the class of the error with which a call fails: it
concerns the connection, with two exceptions (`Unresolved`, `Contradicted`). `Operation.under_cases` joins
them, and `fails_closed_or_refused` is the main statement.
-/

namespace RespClient.Tcp

namespace Session

open Connection (Receives)

/-! ## Sessions between calls -/

/-- Only a connected session owes replies. -/
def Tidy (session : Session) : Prop := session.isOpen = false → session.owed = 0

/-- A session that is closed for good. -/
structure Ended (session : Session) : Prop where
  closed : session.isClosed = true
  owesNothing : session.owed = 0

theorem Tidy.of_isOpen {session : Session} (opened : session.isOpen = true) : Tidy session :=
  fun notOpened => nomatch opened.symm.trans notOpened

theorem Ended.tidy {session : Session} (ended : Ended session) : Tidy session :=
  fun _ => ended.owesNothing

/-- A session that is not connected yet owes nothing. -/
theorem Tidy.owed_of_idle {session : Session} (tidy : Tidy session) (stage : session.state = .idle) :
    session.owed = 0 := tidy (by rw [isOpen, stage])

theorem Tidy.owed_of_closed {session : Session} (tidy : Tidy session)
    (stage : session.state = .closed) : session.owed = 0 := tidy (by rw [isOpen, stage])

theorem ended_shutdown (session : Session) : Ended session.shutdown := ⟨rfl, rfl⟩

/-- The session has to dial, and its host has no address. -/
def Unresolved (mishaps : Mishaps) (session : Session) : Prop :=
  session.state = .idle ∧ mishaps.dialing = some .unresolved

/-- The server answers a probe, and does not say what it should. -/
def Contradicted (mishaps : Mishaps) (session : Session) (world : World Network) : Prop :=
  session.isOpen = false ∧
    ∃ reply, (session.askUnder mishaps "PING" [] world).1 = .ok reply ∧ reply ≠ .status "PONG"

variable {mishaps : Mishaps} {session : Session} {world : World Network}

/-! ## What each call can come to -/

/-- A mishap while dialing is met by idle sessions only. -/
theorem sendUnder_of_dialing {mishap : DialMishap} (stage : session.state = .idle)
    (strikes : mishaps.dialing = some mishap) (name : String) (args : List Bytes)
    (world : World Network) :
    session.sendUnder mishaps name args world =
      (.error (mishap.error session.address), { session with state := .closed },
        mishap.strike session world) := by
  simp only [sendUnder, stage, strikes]

/-- A command is queued as without mishaps, or a mishap keeps it from being queued. -/
theorem sendUnder_of_not_dialing (quiet : session.state = .idle → mishaps.dialing = none)
    (name : String) (args : List Bytes) (world : World Network) :
    session.sendUnder mishaps name args world = session.send name args world ∨
    ∃ cause after world', session.sendUnder mishaps name args world =
      (.error (.io cause), after, world') ∧ Ended after := by
  have undialed : ∀ mishap, ¬(session.state = .idle ∧ mishaps.dialing = some mishap) := by
    rintro mishap ⟨stage, strikes⟩
    cases strikes.symm.trans (quiet stage)
  unfold sendUnder
  split
  · next stage strikes => exact absurd ⟨stage, strikes⟩ (undialed _)
  · split
    · next link linked world' mishap _ _ =>
      exact Or.inr ⟨mishap.cause, _, _, rfl, linked.ended_shutdown⟩
    · exact Or.inl rfl

/-- A command is queued on a link, or the session is closed. -/
theorem sendUnder_cases (tidy : Tidy session) (mishaps : Mishaps) (name : String)
    (args : List Bytes) (world : World Network) :
    (∃ after world', ¬Unresolved mishaps session ∧
        session.sendUnder mishaps name args world = (.ok (), after, world') ∧
        after.isOpen = true ∧ after.owed = session.owed + 1) ∨
    (∃ after world', Unresolved mishaps session ∧
        session.sendUnder mishaps name args world =
          (.error (DialMishap.noAddress session.address), after, world') ∧ Ended after) ∨
    ∃ error after world', ¬Unresolved mishaps session ∧
      session.sendUnder mishaps name args world = (.error error, after, world') ∧
      Ended after ∧ error.concernsConnection = true := by
  by_cases strikes : session.state = .idle ∧ ∃ mishap, mishaps.dialing = some mishap
  · obtain ⟨stage, mishap, strikes⟩ := strikes
    have out := sendUnder_of_dialing stage strikes name args world
    have ended : Ended { session with state := .closed } := ⟨rfl, tidy.owed_of_idle stage⟩
    cases mishap with
    | unresolved => exact Or.inr (Or.inl ⟨_, _, ⟨stage, strikes⟩, out, ended⟩)
    | unreached cause | unusable cause =>
      refine Or.inr (Or.inr ⟨.io cause, _, _, ?_, out, ended, rfl⟩)
      rintro ⟨-, other⟩
      cases strikes.symm.trans other
  · have quiet : session.state = .idle → mishaps.dialing = none := by
      intro stage
      apply Option.eq_none_iff_forall_ne_some.2
      exact fun mishap found => strikes ⟨stage, mishap, found⟩
    have resolved : ¬Unresolved mishaps session := by
      rintro ⟨stage, found⟩
      cases found.symm.trans (quiet stage)
    rcases sendUnder_of_not_dialing quiet name args world with
      same | ⟨cause, after, world', out, ended⟩
    · rw [same]
      rcases send_cases name args session world with
        ⟨link, stage, out⟩ | ⟨stage, out⟩ | ⟨link, world', stage, -, out⟩ |
          ⟨error, world', stage, dialed, out⟩
      · exact Or.inl ⟨_, _, resolved, out, rfl, rfl⟩
      · refine Or.inr (Or.inr ⟨_, _, _, resolved, out, ⟨?_, tidy.owed_of_closed stage⟩, rfl⟩)
        exact isClosed_iff.2 stage
      · exact Or.inl ⟨_, _, resolved, out, rfl, rfl⟩
      · obtain ⟨⟨cause, rfl⟩, -⟩ := Network.dial_error (dial_error dialed)
        exact Or.inr (Or.inr ⟨_, _, _, resolved, out, ⟨rfl, tidy.owed_of_idle stage⟩, rfl⟩)
    · exact Or.inr (Or.inr ⟨_, _, _, resolved, out, ended, rfl⟩)

/-- A reply is refused if none is owed; else it is received, or the session is closed. -/
theorem receiveUnder_cases (tidy : Tidy session) (mishaps : Mishaps) (world : World Network) :
    (session.owed = 0 ∧ session.receiveUnder mishaps world =
        (.error (.protocol .nothingPending), session, world)) ∨
    (∃ reply after world', session.owed ≠ 0 ∧
        session.receiveUnder mishaps world = (.ok reply, after, world') ∧ after.isOpen = true) ∨
    ∃ error after world', session.owed ≠ 0 ∧
      session.receiveUnder mishaps world = (.error error, after, world') ∧
      Ended after ∧ error.concernsConnection = true := by
  have plain : session.receiveUnder mishaps world = session.receive world ∨
      ∃ cause after world', session.owed ≠ 0 ∧ session.receiveUnder mishaps world =
        (.error (.io cause), after, world') ∧ Ended after := by
    unfold receiveUnder
    split
    · split
      · exact Or.inl rfl
      · next link mishap _ _ owes =>
        exact Or.inr ⟨mishap.cause, _, _, owes, rfl, session.ended_shutdown⟩
    · exact Or.inl rfl
  rcases plain with same | ⟨cause, after, world', owes, out, ended⟩
  · rw [same]
    rcases receive_cases session world with
      ⟨none, out⟩ | ⟨owes, notOpened, out⟩ | ⟨link, reply, input, owes, -, -, out⟩ |
        ⟨link, error, input, owes, -, read, out⟩
    · exact Or.inl ⟨none, out⟩
    · exact absurd (tidy notOpened) owes
    · exact Or.inr (Or.inl ⟨_, _, _, owes, out, rfl⟩)
    · exact Or.inr (Or.inr ⟨_, _, _, owes, out, session.ended_shutdown,
        Reply.concernsConnection_of_readFrom read⟩)
  · exact Or.inr (Or.inr ⟨_, _, _, owes, out, ended, rfl⟩)

/-- A command is refused if replies are owed; else it is answered, or the session is closed. -/
theorem askUnder_cases (tidy : Tidy session) (mishaps : Mishaps) (name : String)
    (args : List Bytes) (world : World Network) :
    (0 < session.owed ∧ session.askUnder mishaps name args world =
        (.error (.protocol (.repliesUnread session.owed)), session, world)) ∨
    (∃ reply after world', session.owed = 0 ∧ ¬Unresolved mishaps session ∧
        session.askUnder mishaps name args world = (.ok reply, after, world') ∧
        after.isOpen = true) ∨
    (∃ after world', session.owed = 0 ∧ Unresolved mishaps session ∧
        session.askUnder mishaps name args world =
          (.error (DialMishap.noAddress session.address), after, world') ∧ Ended after) ∨
    ∃ error after world', session.owed = 0 ∧ ¬Unresolved mishaps session ∧
      session.askUnder mishaps name args world = (.error error, after, world') ∧
      Ended after ∧ error.concernsConnection = true := by
  unfold askUnder
  by_cases owes : 0 < session.owed
  · exact Or.inl ⟨owes, if_pos owes⟩
  · rw [if_neg owes]
    have none : session.owed = 0 := Nat.eq_zero_of_not_pos owes
    refine Or.inr ?_
    rcases sendUnder_cases tidy mishaps name args world with
      ⟨next, world', resolved, out, opened, more⟩ | ⟨after, world', unresolved, out, ended⟩ |
        ⟨error, after, world', resolved, out, ended, concerns⟩
    · rw [out]
      rcases receiveUnder_cases (.of_isOpen opened) mishaps world' with
        ⟨nothing, -⟩ | ⟨reply, after, world'', -, out', opened'⟩ |
          ⟨error, after, world'', -, out', ended, concerns⟩
      · omega
      · exact Or.inl ⟨_, _, _, none, resolved, out', opened'⟩
      · exact Or.inr (Or.inr ⟨_, _, _, none, resolved, out', ended, concerns⟩)
    · rw [out]
      exact Or.inr (Or.inl ⟨_, _, none, unresolved, rfl, ended⟩)
    · rw [out]
      exact Or.inr (Or.inr ⟨_, _, _, none, resolved, rfl, ended, concerns⟩)

/-- A probe finds the session connected or its server answering, or the session is closed. -/
theorem probeUnder_cases (tidy : Tidy session) (mishaps : Mishaps) (world : World Network) :
    (∃ after world', ¬Unresolved mishaps session ∧ ¬Contradicted mishaps session world ∧
        session.probeUnder mishaps world = (.ok (), after, world') ∧ after.isOpen = true) ∨
    (∃ reply after world', Contradicted mishaps session world ∧
        session.probeUnder mishaps world =
          (.error (.unexpectedReply .pong reply), after, world') ∧ Ended after) ∨
    (∃ after world', Unresolved mishaps session ∧
        session.probeUnder mishaps world =
          (.error (DialMishap.noAddress session.address), after, world') ∧ Ended after) ∨
    ∃ error after world', ¬Unresolved mishaps session ∧ ¬Contradicted mishaps session world ∧
      session.probeUnder mishaps world = (.error error, after, world') ∧
      Ended after ∧ error.concernsConnection = true := by
  by_cases opened : session.isOpen = true
  · refine Or.inl ⟨session, world, ?_, ?_, if_pos opened, opened⟩
    · rintro ⟨stage, -⟩
      rw [isOpen, stage] at opened
      cases opened
    · rintro ⟨notOpened, -⟩
      cases opened.symm.trans notOpened
  · have notOpened : session.isOpen = false := eq_false_of_ne_true opened
    unfold probeUnder
    rw [if_neg opened]
    rcases askUnder_cases tidy mishaps "PING" [] world with
      ⟨owes, -⟩ | ⟨reply, next, world', -, resolved, out, opened'⟩ |
        ⟨after, world', -, unresolved, out, ended⟩ |
          ⟨error, after, world', -, resolved, out, ended, concerns⟩
    · have none := tidy notOpened
      omega
    · by_cases same : reply = .status "PONG"
      · subst same
        refine Or.inl ⟨next, world', resolved, ?_, ?_, opened'⟩
        · rintro ⟨-, other, answers, differs⟩
          rw [out] at answers
          cases answers
          exact differs rfl
        · rw [out]
          rfl
      · have contradicts : Contradicted mishaps session world :=
          ⟨notOpened, reply, by rw [out], same⟩
        let error : Error := .unexpectedReply .pong reply.summary
        refine Or.inr (Or.inl ⟨reply.summary, next.shutdown, (next.giveUp error world').2,
          contradicts, ?_, next.ended_shutdown⟩)
        rw [out]
        split
        · next failed => cases failed
        · next pong =>
          cases pong
          exact absurd rfl same
        · next answers =>
          cases answers
          rfl
    · refine Or.inr (Or.inr (Or.inl ⟨after, world', unresolved, ?_, ended⟩))
      rw [out]
    · refine Or.inr (Or.inr (Or.inr ⟨error, after, world', resolved, ?_, ?_, ended, concerns⟩))
      · rintro ⟨-, reply, answers, -⟩
        rw [out] at answers
        cases answers
      · rw [out]

/-! ## Calls in general -/

/-- What a call answers, with a reply if it is one that gives replies. -/
def withReply (outcome : Except Error Reply × Session × World Network) :
    Except Error (Option Reply) × Session × World Network := (outcome.1.map some, outcome.2)

/-- What a call answers that gives no reply. -/
def withoutReply (outcome : Except Error Unit × Session × World Network) :
    Except Error (Option Reply) × Session × World Network := (outcome.1.map fun _ => none, outcome.2)

namespace Operation

/-- The outcome of a call. -/
def call (session : Session) (world : World Network) :
    Operation → Except Error (Option Reply) × Session × World Network
  | .ask name args => withReply (session.ask name args world)
  | .send name args => withoutReply (session.send name args world)
  | .receive => withReply (session.receive world)
  | .probe => withoutReply (session.probe world)
  | .close => (.ok none, session.close world)

/-- The outcome of a call under mishaps. -/
def under (mishaps : Mishaps) (session : Session) (world : World Network) :
    Operation → Except Error (Option Reply) × Session × World Network
  | .ask name args => withReply (session.askUnder mishaps name args world)
  | .send name args => withoutReply (session.sendUnder mishaps name args world)
  | .receive => withReply (session.receiveUnder mishaps world)
  | .probe => withoutReply (session.probeUnder mishaps world)
  | .close => (.ok none, session.closeUnder mishaps world)

/-- A call that no mishap strikes is the call itself. -/
theorem under_none (operation : Operation) (session : Session) (world : World Network) :
    operation.under {} session world = operation.call session world := by
  cases operation with
  | ask name args => exact congrArg withReply (askUnder_none name args session world)
  | send name args => exact congrArg withoutReply (sendUnder_none name args session world)
  | receive => exact congrArg withReply (receiveUnder_none session world)
  | probe => exact congrArg withoutReply (probeUnder_none session world)
  | close => exact congrArg (Prod.mk (Except.ok none)) (closeUnder_none session world)

/-- The session refuses the call: a question while it owes replies, or waiting while it owes none. -/
def RefusedBy (session : Session) : Operation → Prop
  | .ask .. => 0 < session.owed
  | .receive => session.owed = 0
  | .send .. | .probe | .close => False

/-- The two failures of a call that do not count as failures of the connection, although it is closed. -/
def Misnamed (mishaps : Mishaps) (session : Session) (world : World Network)
    (operation : Operation) : Prop :=
  Unresolved mishaps session ∨ (operation = .probe ∧ Contradicted mishaps session world)

/-- Only a probe is contradicted. -/
theorem misnamed_iff_of_ne_probe {operation : Operation} (notProbe : operation ≠ .probe) :
    operation.Misnamed mishaps session world ↔ Unresolved mishaps session :=
  ⟨fun named => named.resolve_right fun contradicted => notProbe contradicted.1, Or.inl⟩

/-- The failure of a call that is not a probe is misnamed only for want of an address. -/
theorem concerns_iff_not_misnamed {operation : Operation} {error : Error}
    (notProbe : operation ≠ .probe) (resolved : ¬Unresolved mishaps session)
    (concerns : error.concernsConnection = true) :
    error.concernsConnection = true ↔ ¬operation.Misnamed mishaps session world := by
  rw [misnamed_iff_of_ne_probe notProbe]
  exact ⟨fun _ => resolved, fun _ => concerns⟩

/-- A call is refused, or succeeds and leaves the session connected, or fails and closes it. -/
theorem under_cases (tidy : Tidy session) (mishaps : Mishaps) (world : World Network)
    {operation : Operation} (notClose : operation ≠ .close) :
    (∃ violation, operation.RefusedBy session ∧
        operation.under mishaps session world = (.error (.protocol violation), session, world)) ∨
    (∃ reply? after world', ¬operation.RefusedBy session ∧
        operation.under mishaps session world = (.ok reply?, after, world') ∧
        after.isOpen = true) ∨
    ∃ error after world', ¬operation.RefusedBy session ∧
      operation.under mishaps session world = (.error error, after, world') ∧ Ended after ∧
      (error.concernsConnection = true ↔ ¬operation.Misnamed mishaps session world) := by
  cases operation with
  | ask name args =>
    have notProbe : Operation.ask name args ≠ .probe := nofun
    rcases askUnder_cases tidy mishaps name args world with
      ⟨owes, out⟩ | ⟨reply, after, world', none, -, out, opened⟩ |
        ⟨after, world', none, unresolved, out, ended⟩ |
          ⟨error, after, world', none, resolved, out, ended, concerns⟩
    · exact Or.inl ⟨_, owes, congrArg withReply out⟩
    · exact Or.inr (Or.inl ⟨_, _, _, Nat.not_lt.2 (Nat.le_of_eq none), congrArg withReply out, opened⟩)
    · refine Or.inr (Or.inr ⟨_, _, _, Nat.not_lt.2 (Nat.le_of_eq none), congrArg withReply out, ended,
        nofun, fun named => absurd (Or.inl unresolved) named⟩)
    · exact Or.inr (Or.inr ⟨_, _, _, Nat.not_lt.2 (Nat.le_of_eq none), congrArg withReply out, ended,
        concerns_iff_not_misnamed notProbe resolved concerns⟩)
  | send name args =>
    have notProbe : Operation.send name args ≠ .probe := nofun
    rcases sendUnder_cases tidy mishaps name args world with
      ⟨after, world', -, out, opened, -⟩ | ⟨after, world', unresolved, out, ended⟩ |
        ⟨error, after, world', resolved, out, ended, concerns⟩
    · exact Or.inr (Or.inl ⟨_, _, _, not_false, congrArg withoutReply out, opened⟩)
    · exact Or.inr (Or.inr ⟨_, _, _, not_false, congrArg withoutReply out, ended, nofun,
        fun named => absurd (Or.inl unresolved) named⟩)
    · exact Or.inr (Or.inr ⟨_, _, _, not_false, congrArg withoutReply out, ended,
        concerns_iff_not_misnamed notProbe resolved concerns⟩)
  | receive =>
    have notProbe : Operation.receive ≠ .probe := nofun
    rcases receiveUnder_cases tidy mishaps world with
      ⟨none, out⟩ | ⟨reply, after, world', owes, out, opened⟩ |
        ⟨error, after, world', owes, out, ended, concerns⟩
    · exact Or.inl ⟨_, none, congrArg withReply out⟩
    · exact Or.inr (Or.inl ⟨_, _, _, owes, congrArg withReply out, opened⟩)
    · have resolved : ¬Unresolved mishaps session := fun ⟨stage, _⟩ => owes (tidy.owed_of_idle stage)
      exact Or.inr (Or.inr ⟨_, _, _, owes, congrArg withReply out, ended,
        concerns_iff_not_misnamed notProbe resolved concerns⟩)
  | probe =>
    rcases probeUnder_cases tidy mishaps world with
      ⟨after, world', -, -, out, opened⟩ | ⟨reply, after, world', contradicts, out, ended⟩ |
        ⟨after, world', unresolved, out, ended⟩ |
          ⟨error, after, world', resolved, agrees, out, ended, concerns⟩
    · exact Or.inr (Or.inl ⟨_, _, _, not_false, congrArg withoutReply out, opened⟩)
    · exact Or.inr (Or.inr ⟨_, _, _, not_false, congrArg withoutReply out, ended, nofun,
        fun named => absurd (Or.inr ⟨rfl, contradicts⟩) named⟩)
    · exact Or.inr (Or.inr ⟨_, _, _, not_false, congrArg withoutReply out, ended, nofun,
        fun named => absurd (Or.inl unresolved) named⟩)
    · refine Or.inr (Or.inr ⟨_, _, _, not_false, congrArg withoutReply out, ended, fun _ => ?_,
        fun _ => concerns⟩)
      rintro (unresolved | ⟨-, contradicts⟩)
      · exact resolved unresolved
      · exact agrees contradicts
  | close => exact absurd rfl notClose

end Operation

/-! ## Sessions that can be reached -/

/-- The sessions that calls leave, one after the other, each under any mishaps and in any world. -/
inductive Reachable : Session → Prop where
  | create (address : String) (timeout : Duration) : Reachable (create address timeout)
  | call {session : Session} (before : Reachable session) (mishaps : Mishaps)
      (world : World Network) (operation : Operation) :
    Reachable (operation.under mishaps session world).2.1

/-- A session that can be reached owes replies only if it is connected. -/
theorem Reachable.tidy {session : Session} (reachable : Reachable session) : Tidy session := by
  induction reachable with
  | create address timeout => exact fun _ => rfl
  | call _ mishaps world operation tidy =>
    by_cases closes : operation = .close
    · subst closes
      refine Ended.tidy ?_
      change Ended (closeUnder mishaps _ world).1
      unfold closeUnder
      split
      · exact ended_shutdown _
      · exact ended_shutdown _
    · rcases Operation.under_cases tidy mishaps world closes with
        ⟨violation, -, out⟩ | ⟨reply?, after, world', -, out, opened⟩ |
          ⟨error, after, world', -, out, ended, -⟩
      · rw [out]
        exact tidy
      · rw [out]
        exact .of_isOpen opened
      · rw [out]
        exact ended.tidy

/-! ## Main statement -/

/-- **Failures of a session.** Take a session that calls have left, under any mishaps and in any worlds, and
any call on it but closing it, in any world and under any mishaps. If the call succeeds it leaves the session
connected. If it fails it leaves the session closed and nothing owed, unless it was refused: a question while
replies are owed, or waiting for a reply while none is owed. Such a call is always refused, and leaves the
session and the world as they were, what was sent and what is unread included; and as many of the replies that
are owed as there are in the stream can still be received, in order. Under no mishaps these are the calls of
the session itself. -/
theorem fails_closed_or_refused {session : Session} (reachable : Reachable session)
    (mishaps : Mishaps) (world : World Network) {operation : Operation}
    (notClose : operation ≠ .close) :
    let (result, after, world') := operation.under mishaps session world
    (∀ reply?, result = .ok reply? → after.isOpen = true ∧ ¬operation.RefusedBy session) ∧
    (∀ error, result = .error error →
      (after.isClosed = true ∧ after.owed = 0) ∨ operation.RefusedBy session) ∧
    (operation.RefusedBy session →
      (∃ violation, result = .error (.protocol violation)) ∧ after = session ∧ world' = world ∧
      ∀ link, after.state = .connected link → ∀ (count : Nat) (replies : List Reply) (rest : Bytes),
        count ≤ after.owed →
        Reply.readList link.ending count link.input.unread = (.ok replies, rest) →
        ∃ last link' world'', Receives replies after world' last world'' ∧
          last.owed = after.owed - count ∧ last.state = .connected link' ∧
          link'.input.unread = rest) ∧
    operation.under {} session world = operation.call session world := by
  rcases Operation.under_cases reachable.tidy mishaps world notClose with
    ⟨violation, refused, out⟩ | ⟨reply?, after, world', accepted, out, opened⟩ |
      ⟨error, after, world', accepted, out, ended, -⟩
  · rw [out]
    refine ⟨nofun, fun _ _ => Or.inr refused, fun _ => ⟨⟨violation, rfl⟩, rfl, rfl, ?_⟩,
      operation.under_none session world⟩
    intro link stage count replies rest enough read
    obtain ⟨link', received, -, -, unread, -⟩ := receives_of_readList stage enough read world
    exact ⟨_, link', _, received, rfl, rfl, unread⟩
  · rw [out]
    exact ⟨fun _ _ => ⟨opened, accepted⟩, nofun, fun refused => absurd refused accepted,
      operation.under_none session world⟩
  · rw [out]
    exact ⟨nofun, fun _ _ => Or.inl ⟨ended.closed, ended.owesNothing⟩,
      fun refused => absurd refused accepted, operation.under_none session world⟩

/-- A session with two replies to receive refuses a question, and can still receive them; or it is closed,
since three bytes leave and no more. -/
theorem fails_closed_or_refused_instance :
    let server : Server := ⟨"localhost:6379", [utf8 ":1\r\n:2\r\n"], .closed⟩
    let start : World Network := ⟨{ routed := true, servers := [server] }, #[]⟩
    let first := (Operation.send "GET" []).under {} (create "localhost:6379" (.ofSeconds 1)) start
    let second := (Operation.send "GET" []).under {} first.2.1 first.2.2
    let lost : Mishaps := { receiving := some (.sending 3 ⟨.brokenPipe, "broken pipe"⟩) }
    let refusal := (Operation.ask "GET" []).under {} second.2.1 second.2.2
    let failure := Operation.receive.under lost second.2.1 second.2.2
    Reachable second.2.1 ∧
    refusal.1 = .error (.protocol (.repliesUnread 2)) ∧ refusal.2 = second.2 ∧
    (∃ last link' world'',
      Receives [.integer 1, .integer 2] refusal.2.1 refusal.2.2 last world'' ∧
      last.owed = 0 ∧ last.state = .connected link' ∧ link'.input.unread = []) ∧
    failure.1 = .error (.io ⟨.brokenPipe, "broken pipe"⟩) ∧
    failure.2.2.net.received server.name = [utf8 "*1\r"] ∧
    failure.2.1.isClosed = true ∧ failure.2.1.owed = 0 := by
  intro server start first second lost refusal failure
  have reachable : Reachable second.2.1 :=
    ((Reachable.create "localhost:6379" (.ofSeconds 1)).call {} start (.send "GET" [])).call {}
      first.2.2 (.send "GET" [])
  have asks : Operation.ask "GET" [] ≠ .close := nofun
  have receives : Operation.receive ≠ .close := nofun
  obtain ⟨-, -, refused, -⟩ := fails_closed_or_refused reachable {} second.2.2 asks
  obtain ⟨-, fails, -⟩ := fails_closed_or_refused reachable lost second.2.2 receives
  have owes : Operation.RefusedBy second.2.1 (.ask "GET" []) := Nat.succ_pos 1
  obtain ⟨-, sameSession, sameWorld, readable⟩ := refused owes
  have stream : Reply.readList .closed 2 (utf8 ":1\r\n:2\r\n") =
      (.ok [.integer 1, .integer 2], []) := by
    decide +kernel
  obtain ⟨last, link', world'', received, settled, stage, unread⟩ :=
    readable _ rfl 2 _ _ (Nat.le_refl 2) stream
  have failed : failure.1 = .error (.io ⟨.brokenPipe, "broken pipe"⟩) := rfl
  have left : failure.2.2.net.received server.name = [utf8 "*1\r"] := by
    dsimp +zetaDelta only
    decide +kernel
  obtain ⟨closed, none⟩ := (fails _ failed).resolve_right nofun
  exact ⟨reachable, rfl, Prod.ext sameSession sameWorld,
    ⟨last, link', world'', received, settled, stage, unread⟩, failed, left, closed, none⟩

end Session

end RespClient.Tcp
