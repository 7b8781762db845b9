import RespClient.Proofs.SessionRun

/-!
# Replies belong to the commands they answer

The number of owed replies, the place in the stream of the server and the bytes that were sent stay
in step through every run of a session: a reply that is consumed is the one at the place of its
command, and no command is lost on the way to the server.

`Aligned` is the invariant, by the stage of the session. It is kept by `send` and `receive`
(`Aligned.send`, `Aligned.receive`), and by whatever closes the session (`Aligned.shutdown`); the
other calls are made of these.
-/

namespace RespClient.Tcp.Session

/-! ## The invariant -/

/-- Between two networks, exactly these bytes were sent, all through the connection that was the
next to be dialed. -/
def SentBetween (before after : Network) (bytes : Bytes) : Prop :=
  ∀ number, after.sentThrough number =
    before.sentThrough number ++ if number = before.accepted.size then bytes else []

/-- The stream that the server has for the next connection ends like this, and has these replies
first and these bytes behind them. -/
def LeadStream (start : World Network) (address : String) (timeout : Duration) (ending : Ending)
    (replies : List Reply) (rest : Bytes) : Prop :=
  ∃ channel, (start.net.dial address timeout).1 = .ok channel ∧ channel.ending = ending ∧
    Reply.readList ending replies.length channel.stream = (.ok replies, rest)

/-- A session is in step with its history since it was created in the world `start`. -/
inductive Aligned (address : String) (timeout : Duration) (start : World Network) :
    History → Prop where
  | idle : Aligned address timeout start ⟨create address timeout, start, [], []⟩
  | connected {link : Link} {owed : Nat} {world : World Network} {accepted : List Command}
      {consumed : List Reply} (number : link.number = start.net.accepted.size)
      (place : LeadStream start address timeout link.ending consumed link.input.unread)
      (balance : accepted.length = consumed.length + owed)
      (sent : SentBetween start.net (flushed link world).net (accepted.flatMap Command.frame)) :
    Aligned address timeout start
      ⟨⟨address, timeout, .connected link, owed⟩, world, accepted, consumed⟩
  | closed {world : World Network} {accepted : List Command} {consumed : List Reply}
      (place : consumed = [] ∨
        ∃ ending rest, LeadStream start address timeout ending consumed rest)
      (sent : SentBetween start.net world.net (accepted.flatMap Command.frame)) :
    Aligned address timeout start ⟨⟨address, timeout, .closed, 0⟩, world, accepted, consumed⟩

/-! ## Bytes on the way -/

/-- Nothing was sent if the pieces that were sent are the same. -/
theorem SentBetween.of_sent_eq {before after : Network} (same : after.sent = before.sent) :
    SentBetween before after [] := by
  intro number
  rw [ite_self, List.append_nil]
  exact Network.sentThrough_congr same number

/-- Frames that are queued behind others leave behind them. -/
theorem SentBetween.queued {before : Network} {link : Link} {world : World Network}
    {bytes piece : Bytes} (sent : SentBetween before (flushed link world).net bytes)
    (number : link.number = before.accepted.size) :
    SentBetween before (flushed { link with unsent := link.unsent ++ [piece] } world).net
      (bytes ++ piece) := by
  intro other
  have earlier := sent other
  simp only [flushed, Network.sentThrough_send, number] at earlier ⊢
  rw [List.flatten_append, List.flatten_singleton]
  by_cases same : other = before.accepted.size
  · rw [if_pos same] at earlier ⊢
    rw [if_pos same] at earlier ⊢
    rw [← List.append_assoc, earlier, List.append_assoc]
  · rw [if_neg same] at earlier ⊢
    rw [if_neg same] at earlier ⊢
    exact earlier

/-- Once its frames have left, there is nothing more to leave on a link. -/
theorem flushed_of_unsent_nil {link : Link} (world : World Network) (none : link.unsent = []) :
    flushed link world = world := by
  unfold flushed
  rw [none]
  rfl

/-! ## What keeps a session in step -/

section Steps

variable {address : String} {timeout : Duration} {start world : World Network}
  {session : Session} {accepted : List Command} {consumed : List Reply}

/-- Sending keeps a session in step. -/
theorem Aligned.send (name : String) (args : List Bytes)
    (aligned : Aligned address timeout start ⟨session, world, accepted, consumed⟩) :
    Aligned address timeout start
      ⟨(session.send name args world).2.1, (session.send name args world).2.2,
        accepted ++ acceptedBySend name args session world, consumed⟩ := by
  unfold acceptedBySend
  cases aligned with
  | idle =>
    rcases send_cases name args (create address timeout) start with
      ⟨link, stage, -⟩ | ⟨stage, -⟩ | ⟨link, world', -, dialed, sends⟩ |
        ⟨error, world', -, dialed, sends⟩
    · cases stage
    · cases stage
    · obtain ⟨channel, found, rfl⟩ := dial_ok dialed
      obtain ⟨number, net_eq⟩ := Network.dial_ok found
      have unchanged : world'.net.sent = start.net.sent := by rw [net_eq]
      have nothing : SentBetween start.net
          (flushed ⟨channel.number, { unread := channel.stream }, channel.ending, []⟩ world').net [] := by
        rw [flushed_of_unsent_nil world' rfl]
        exact .of_sent_eq unchanged
      rw [sends]
      refine .connected number ⟨channel, congrArg Prod.fst found, rfl, Reply.readList_zero _ _⟩ rfl ?_
      simpa [Command.frame] using nothing.queued number
    · obtain ⟨-, incidents, net_eq⟩ := Network.dial_error (dial_error dialed)
      have unchanged : world'.net.sent = start.net.sent := by rw [net_eq]
      rw [sends]
      exact .closed (Or.inl rfl) (.of_sent_eq unchanged)
  | @connected link owed _ _ _ number place balance sent =>
    rcases send_cases name args ⟨address, timeout, .connected link, owed⟩ world with
      ⟨link', stage, sends⟩ | ⟨stage, -⟩ | ⟨-, -, stage, -⟩ | ⟨-, -, stage, -⟩
    · cases stage
      rw [sends]
      refine .connected number place ?_ ?_
      · simp only [List.length_append, List.length_singleton, balance]
        omega
      · rw [List.flatMap_append]
        simpa [Command.frame] using sent.queued number
    all_goals cases stage
  | closed place sent =>
    rw [show Session.send name args _ world = (.error .connectionClosed, _, world) from rfl,
      List.append_nil]
    exact .closed place sent

/-- Closing keeps a session in step, if what is on the way leaves before. -/
theorem Aligned.shutdown {world' : World Network}
    (aligned : Aligned address timeout start ⟨session, world, accepted, consumed⟩)
    (left : world'.net = (session.abandon world).net) :
    Aligned address timeout start ⟨session.shutdown, world', accepted, consumed⟩ := by
  cases aligned with
  | idle =>
    refine .closed (Or.inl rfl) ?_
    rw [left]
    exact SentBetween.of_sent_eq rfl
  | connected number place balance sent =>
    refine .closed (Or.inr ⟨_, _, place⟩) ?_
    rw [left]
    exact sent
  | closed place sent =>
    refine .closed place ?_
    rw [left]
    exact sent

/-- Receiving keeps a session in step. -/
theorem Aligned.receive
    (aligned : Aligned address timeout start ⟨session, world, accepted, consumed⟩) :
    Aligned address timeout start
      ⟨(session.receive world).2.1, (session.receive world).2.2, accepted,
        consumed ++ answer (session.receive world).1⟩ := by
  rcases receive_cases session world with
    ⟨-, receives⟩ | ⟨-, -, receives⟩ | ⟨link, reply, input, owes, stage, read, receives⟩ |
      ⟨link, error, input, -, stage, -, receives⟩
  · rw [receives, answer, List.append_nil]
    exact aligned
  · rw [receives, answer, List.append_nil]
    exact aligned
  · rw [receives]
    cases aligned with
    | idle => cases stage
    | closed => cases stage
    | @connected _ owed _ _ _ number place balance sent =>
      cases stage
      obtain ⟨channel, found, ending, front⟩ := place
      have next := Reply.read_unread link.ending link.input
      rw [read] at next
      refine .connected number ⟨channel, found, ending, ?_⟩ ?_ ?_
      · rw [answer, List.length_append]
        exact Reply.readList_concat front next
      · simp only [answer, List.length_append, List.length_singleton]
        dsimp only at owes
        omega
      · rw [flushed_of_unsent_nil _ rfl]
        exact sent
  · rw [receives, answer, List.append_nil]
    refine aligned.shutdown ?_
    rw [abandon, stage]
    rfl

/-- Asking keeps a session in step. -/
theorem Aligned.ask (name : String) (args : List Bytes)
    (aligned : Aligned address timeout start ⟨session, world, accepted, consumed⟩) :
    Aligned address timeout start
      ⟨(session.ask name args world).2.1, (session.ask name args world).2.2,
        accepted ++ acceptedByAsk name args session world,
        consumed ++ answer (session.ask name args world).1⟩ := by
  have sent := aligned.send name args
  unfold acceptedByAsk
  rcases ask_cases name args session world with
    ⟨owes, asks⟩ | ⟨error, after, world', none, sends, asks⟩ | ⟨after, world', none, sends, asks⟩
  · rw [asks, if_pos owes, answer, List.append_nil, List.append_nil]
    exact aligned
  · rw [sends] at sent
    rw [asks, if_neg (by omega), answer, List.append_nil]
    exact sent
  · rw [sends] at sent
    rw [asks, if_neg (by omega)]
    exact sent.receive

/-- Probing keeps a session in step. -/
theorem Aligned.probe
    (aligned : Aligned address timeout start ⟨session, world, accepted, consumed⟩) :
    Aligned address timeout start
      ⟨(session.probe world).2.1, (session.probe world).2.2,
        accepted ++ Operation.probe.accepts session world,
        consumed ++ Operation.probe.consumes session world⟩ := by
  have asked := aligned.ask "PING" []
  unfold Operation.accepts Operation.consumes
  rcases probe_cases session world with
    ⟨opened, probes⟩ | ⟨error, after, world', opened, asks, probes⟩ |
      ⟨after, world', opened, asks, probes⟩ | ⟨reply, after, world', opened, -, asks, probes⟩
  · rw [probes, if_pos opened, if_pos opened, List.append_nil, List.append_nil]
    exact aligned
  all_goals
    rw [asks] at asked
    rw [probes, opened, if_neg Bool.false_ne_true, if_neg Bool.false_ne_true, asks]
  · exact asked
  · exact asked
  · -- The reply has been consumed, and nothing is on the way when the session is given up.
    obtain ⟨⟨link, stage, none⟩, -⟩ := connected_of_ask_ok asks
    refine asked.shutdown ?_
    rw [abandon, stage]
    show world'.net = (flushed link world').net
    rw [flushed_of_unsent_nil world' none]

/-- Every call keeps a session in step. -/
theorem Aligned.step {history : History} (operation : Operation)
    (aligned : Aligned address timeout start history) :
    Aligned address timeout start (history.step operation) := by
  rcases history with ⟨session, world, accepted, consumed⟩
  cases operation with
  | ask name args => exact aligned.ask name args
  | send name args =>
    have sent := aligned.send name args
    simp only [History.step, Operation.perform, Operation.accepts, Operation.consumes,
      List.append_nil]
    exact sent
  | receive =>
    have received := aligned.receive
    simp only [History.step, Operation.perform, Operation.accepts, Operation.consumes,
      List.append_nil]
    exact received
  | probe => exact aligned.probe
  | close =>
    simp only [History.step, Operation.perform, Operation.accepts, Operation.consumes,
      List.append_nil]
    exact aligned.shutdown rfl

/-- Every run keeps a session in step. -/
theorem Aligned.run (address : String) (timeout : Duration) (start : World Network)
    (operations : List Operation) :
    Aligned address timeout start ((History.fresh address timeout start).run operations) :=
  History.run_induction .idle (fun operation aligned => aligned.step operation) operations

end Steps

/-! ## What a session in step promises -/

section Promises

variable {address : String} {timeout : Duration} {start : World Network} {history : History}

/-- Replies are owed only on a link. -/
theorem Aligned.isOpen_of_owed (aligned : Aligned address timeout start history)
    (owes : history.session.owed ≠ 0) : history.session.isOpen = true := by
  cases aligned with
  | idle => exact absurd rfl owes
  | connected => rfl
  | closed => exact absurd rfl owes

/-- On a link, as many commands were accepted as replies were consumed and are owed, and the unread
bytes are the stream of the server behind the consumed replies. -/
theorem Aligned.place_of_connected {link : Link} (aligned : Aligned address timeout start history)
    (stage : history.session.state = .connected link) :
    history.accepted.length = history.consumed.length + history.session.owed ∧
      LeadStream start address timeout link.ending history.consumed link.input.unread := by
  cases aligned with
  | idle => cases stage
  | connected _ place balance =>
    cases stage
    exact ⟨balance, place⟩
  | closed => cases stage

/-- What has left once the session is dropped are the frames of the accepted commands. -/
theorem Aligned.sentBetween_abandon (aligned : Aligned address timeout start history) :
    SentBetween start.net (history.session.abandon history.world).net
      (history.accepted.flatMap Command.frame) := by
  cases aligned with
  | idle => exact .of_sent_eq rfl
  | connected _ _ _ sent => exact sent
  | closed _ sent => exact sent

/-- The replies that were consumed lead the stream of the server. -/
theorem Aligned.leadStream (aligned : Aligned address timeout start history) :
    history.consumed = [] ∨
      ∃ ending rest, LeadStream start address timeout ending history.consumed rest := by
  cases aligned with
  | idle => exact Or.inl rfl
  | connected _ place => exact Or.inr ⟨_, _, place⟩
  | closed place => exact place

end Promises

/-! ## Main statement -/

/-- **Pipelining stays aligned.** Take any calls on a new session, in any world. Replies are owed
only while the session is connected. While it is connected, as many commands were accepted as
replies were consumed and are owed, and what is unread is the stream of the server without the
replies that were consumed; these always were the first of the stream, in order. Once the session is
closed or dropped, exactly the frames of the accepted commands were sent, in order. A closed session
owes nothing and stays closed. So a session that reports to be closed when a reply is waited for has
read the end of the stream, and did not find itself without a link. -/
theorem pipelining_aligned (address : String) (timeout : Duration) (start : World Network)
    (operations : List Operation) :
    let history := (History.fresh address timeout start).run operations
    let session := history.session
    (0 < session.owed → session.isOpen = true) ∧
    (∀ link, session.state = .connected link →
      history.accepted.length = history.consumed.length + session.owed ∧
      LeadStream start address timeout link.ending history.consumed link.input.unread) ∧
    (history.consumed = [] ∨
      ∃ ending rest, LeadStream start address timeout ending history.consumed rest) ∧
    SentBetween start.net (session.abandon history.world).net
      (history.accepted.flatMap Command.frame) ∧
    (session.isClosed = true →
      session.owed = 0 ∧
      SentBetween start.net history.world.net (history.accepted.flatMap Command.frame) ∧
      ∀ later, (history.run later).session.isClosed = true) ∧
    ((session.receive history.world).1 = .error .connectionClosed →
      ∃ link, session.state = .connected link ∧
        (Reply.readFrom link.ending link.input).1 = .error .connectionClosed) := by
  intro history session
  have aligned : Aligned address timeout start history := .run address timeout start operations
  refine ⟨fun owes => aligned.isOpen_of_owed (Nat.ne_of_gt owes),
    fun link stage => aligned.place_of_connected stage, aligned.leadStream,
    aligned.sentBetween_abandon, ?_, ?_⟩
  · intro closed
    have stage : history.session.state = .closed := isClosed_iff.1 closed
    have sent := aligned.sentBetween_abandon
    refine ⟨?_, ?_, History.isClosed_run closed⟩
    · refine Nat.eq_zero_of_not_pos fun owes => ?_
      have opened := aligned.isOpen_of_owed (Nat.ne_of_gt owes)
      rw [isOpen, stage] at opened
      cases opened
    · rwa [abandon, stage] at sent
  · intro reports
    rcases receive_cases session history.world with
      ⟨-, out⟩ | ⟨owes, notOpened, -⟩ | ⟨link, reply, input, -, -, -, out⟩ |
        ⟨link, error, input, -, stage, read, out⟩
    · rw [out] at reports
      cases reports
    · rw [aligned.isOpen_of_owed owes] at notOpened
      cases notOpened
    · rw [out] at reports
      cases reports
    · rw [out] at reports
      cases reports
      exact ⟨link, stage, by rw [read]⟩

end RespClient.Tcp.Session
