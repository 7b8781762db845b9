import RespClient.Proofs.SessionMishaps

/-!
# Classes of errors

`Error.concernsConnection` goes by the error alone. Whether the session of a call that failed can still be
used is another matter: a call that is refused fails with an error that concerns the connection, and the
session goes on; a server that contradicts a probe and a host without an address fail the call with errors
that do not, and the session is closed. `concernsConnection_iff_isClosed_iff` says that these are the only
calls for which the class of the error tells the wrong thing.
-/

namespace RespClient.Tcp.Session

/-- The failures of a call whose errors are in the wrong class: a refusal by a session that goes on, and the
failures that are misnamed. -/
def Operation.Misjudged (mishaps : Mishaps) (session : Session) (world : World Network)
    (operation : Operation) : Prop :=
  (operation.RefusedBy session ∧ session.isClosed = false) ∨
    operation.Misnamed mishaps session world

variable {mishaps : Mishaps} {session : Session} {world : World Network} {operation : Operation}

/-- A closed session does not misname the failures of the calls that it refuses. -/
theorem Operation.not_misnamed_of_refusedBy (refused : operation.RefusedBy session)
    (closed : session.isClosed = true) : ¬operation.Misnamed mishaps session world := by
  rintro (⟨stage, -⟩ | ⟨rfl, -⟩)
  · rw [isClosed, stage] at closed
    cases closed
  · exact refused

/-- **Classes of errors.** Take a session that calls have left, under any mishaps and in any worlds, and a call
on it, other than closing it, that fails. Its error concerns the connection exactly if the session is closed
afterwards, unless the call is one of those that are misjudged: refused by a session that is not closed, in
which case the error concerns the connection, or made for a host without an address or a probe that the server
contradicts, in which case it does not. -/
theorem concernsConnection_iff_isClosed_iff (reachable : Reachable session)
    (notClose : operation ≠ .close) {error : Error} {after : Session} {world' : World Network}
    (fails : operation.under mishaps session world = (.error error, after, world')) :
    ((error.concernsConnection = true ↔ after.isClosed = true) ↔
      ¬operation.Misjudged mishaps session world) ∧
    (operation.RefusedBy session → error.concernsConnection = true ∧ after = session) ∧
    (¬operation.RefusedBy session → after.isClosed = true ∧
      (error.concernsConnection = true ↔ ¬operation.Misnamed mishaps session world)) := by
  rcases Operation.under_cases reachable.tidy mishaps world notClose with
    ⟨violation, refused, out⟩ | ⟨reply?, next, world'', -, out, -⟩ |
      ⟨cause, next, world'', accepted, out, ended, concerns⟩
  · rw [out] at fails
    cases fails
    refine ⟨?_, fun _ => ⟨rfl, rfl⟩, fun accepted => absurd refused accepted⟩
    constructor
    · rintro same (⟨-, notClosed⟩ | misnamed)
      · cases notClosed.symm.trans (same.1 rfl)
      · exact Operation.not_misnamed_of_refusedBy refused (same.1 rfl) misnamed
    · intro judged
      refine ⟨fun _ => ?_, fun _ => rfl⟩
      apply eq_true_of_ne_false
      exact fun notClosed => judged (Or.inl ⟨refused, notClosed⟩)
  · rw [out] at fails
    cases fails
  · rw [out] at fails
    cases fails
    refine ⟨?_, fun refused => absurd refused accepted, fun _ => ⟨ended.closed, concerns⟩⟩
    constructor
    · rintro same (⟨refused, -⟩ | misnamed)
      · exact accepted refused
      · exact concerns.1 (same.2 ended.closed) misnamed
    · intro judged
      have named : ¬operation.Misnamed mishaps session world := fun misnamed => judged (Or.inr misnamed)
      exact ⟨fun _ => ended.closed, fun _ => concerns.2 named⟩

/-- A server that closes the connection without a reply fails a probe with an error of the right class; one
that contradicts the probe fails it with an error of the wrong class. -/
theorem concernsConnection_iff_isClosed_iff_instance :
    let world (stream : String) : World Network :=
      ⟨{ routed := true, servers := [⟨"localhost:6379", [utf8 stream], .closed⟩] }, #[]⟩
    let probe (stream : String) :=
      Operation.probe.under {} (create "localhost:6379" (.ofSeconds 1)) (world stream)
    Reachable (create "localhost:6379" (.ofSeconds 1)) ∧ Operation.probe ≠ .close ∧
    (probe "").1 = .error .connectionClosed ∧ (probe "").2.1.isClosed = true ∧
    ¬Operation.probe.Misjudged {} (create "localhost:6379" (.ofSeconds 1)) (world "") ∧
    (probe "+HELLO\r\n").1 =
      .error (.unexpectedReply .pong (Reply.summary (.status "HELLO"))) ∧
    (probe "+HELLO\r\n").2.1.isClosed = true ∧
    Operation.probe.Misjudged {} (create "localhost:6379" (.ofSeconds 1)) (world "+HELLO\r\n") := by
  intro world probe
  have reachable := Reachable.create "localhost:6379" (.ofSeconds 1)
  have silent : (probe "").1 = .error .connectionClosed := by
    dsimp +zetaDelta only
    decide +kernel
  have contradicts : (probe "+HELLO\r\n").1 =
      .error (.unexpectedReply .pong (Reply.summary (.status "HELLO"))) := by
    dsimp +zetaDelta only
    decide +kernel
  have probes : Operation.probe ≠ .close := nofun
  obtain ⟨judged, -, accepted⟩ :=
    concernsConnection_iff_isClosed_iff reachable probes
      (Prod.ext silent rfl : probe "" = (_, _, _))
  obtain ⟨judged', -, accepted'⟩ :=
    concernsConnection_iff_isClosed_iff reachable probes
      (Prod.ext contradicts rfl : probe "+HELLO\r\n" = (_, _, _))
  obtain ⟨closed, -⟩ := accepted not_false
  obtain ⟨closed', -⟩ := accepted' not_false
  refine ⟨reachable, nofun, silent, closed, judged.1 ⟨fun _ => closed, fun _ => rfl⟩, contradicts,
    closed', ?_⟩
  by_contra rightly
  cases (judged'.2 rightly).2 closed'

/-- The class of an error does not tell whether the session is closed: a session without debts refuses to
wait for a reply, with an error that concerns the connection, and goes on. -/
theorem not_concernsConnection_iff_isClosed :
    ¬∀ {session : Session}, Reachable session → ∀ {operation : Operation}, operation ≠ .close →
      ∀ {world world' : World Network} {error : Error} {after : Session},
        operation.call session world = (.error error, after, world') →
        (error.concernsConnection = true ↔ after.isClosed = true) := by
  intro always
  let session := create "localhost:6379" (.ofSeconds 1)
  let world : World Network := ⟨{ routed := true, servers := [] }, #[]⟩
  have refusal : Operation.receive.call session world =
      (.error (.protocol .nothingPending), session, world) := rfl
  have reachable : Reachable session := .create "localhost:6379" (.ofSeconds 1)
  have receives : Operation.receive ≠ .close := nofun
  have same := always reachable receives refusal
  cases same.1 rfl

end RespClient.Tcp.Session
