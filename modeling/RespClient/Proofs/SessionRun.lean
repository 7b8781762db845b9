import RespClient.Command
import RespClient.Tcp.Session

/-!
# Runs of a session

A session takes calls one after the other. `History` keeps what it has done so far: the commands
that it accepted for sending and the replies that it consumed. A command counts as accepted once it
is queued, also if its reply fails to arrive later; the command that a probe sends and the reply to
it count like any others.

Each call has one statement that lists everything it can do: `link_cases`, `send_cases`,
`receive_cases`, `ask_cases` and `probe_cases`. Facts about runs are proved from these.
-/

namespace RespClient.Tcp.Session

/-! ## Calls and histories -/

/-- The calls on a session. -/
inductive Operation where
  | ask (name : String) (args : List Bytes)
  | send (name : String) (args : List Bytes)
  | receive
  | probe
  | close
  deriving DecidableEq, Repr

/-- A session in its world, with the commands that it has accepted and the replies that it has
consumed. -/
structure History where
  session : Session
  world : World Network
  accepted : List Command := []
  consumed : List Reply := []
  deriving Repr

/-- The command that a call of `send` makes a session accept. -/
def acceptedBySend (name : String) (args : List Bytes) (session : Session)
    (world : World Network) : List Command :=
  match (session.send name args world).1 with
  | .ok () => [{ name, args }]
  | .error _ => []

/-- The command that a call of `ask` makes a session accept. -/
def acceptedByAsk (name : String) (args : List Bytes) (session : Session)
    (world : World Network) : List Command :=
  if 0 < session.owed then [] else acceptedBySend name args session world

/-- The reply with which a call answers. -/
def answer : Except Error Reply → List Reply
  | .ok reply => [reply]
  | .error _ => []

namespace Operation

/-- The session and the world after a call. -/
def perform (session : Session) (world : World Network) :
    Operation → Session × World Network
  | .ask name args => (session.ask name args world).2
  | .send name args => (session.send name args world).2
  | .receive => (session.receive world).2
  | .probe => (session.probe world).2
  | .close => session.close world

/-- The commands that a call makes a session accept. -/
def accepts (session : Session) (world : World Network) : Operation → List Command
  | .ask name args => acceptedByAsk name args session world
  | .send name args => acceptedBySend name args session world
  | .probe => if session.isOpen then [] else acceptedByAsk "PING" [] session world
  | .receive | .close => []

/-- The replies that a call makes a session consume. -/
def consumes (session : Session) (world : World Network) : Operation → List Reply
  | .ask name args => answer (session.ask name args world).1
  | .receive => answer (session.receive world).1
  | .probe => if session.isOpen then [] else answer (session.ask "PING" [] world).1
  | .send .. | .close => []

end Operation

namespace History

/-- The history of a session that was just created. -/
def fresh (address : String) (timeout : Duration) (world : World Network) : History :=
  { session := create address timeout, world }

/-- The history after one more call. -/
def step (history : History) (operation : Operation) : History where
  session := (operation.perform history.session history.world).1
  world := (operation.perform history.session history.world).2
  accepted := history.accepted ++ operation.accepts history.session history.world
  consumed := history.consumed ++ operation.consumes history.session history.world

/-- The history after more calls. -/
def run (history : History) (operations : List Operation) : History := operations.foldl step history

/-- What holds of a history and is kept by every call holds after every run. -/
theorem run_induction {holds : History → Prop} {history : History} (start : holds history)
    (kept : ∀ {history} (operation : Operation), holds history → holds (history.step operation))
    (operations : List Operation) : holds (history.run operations) := by
  induction operations generalizing history with
  | nil => exact start
  | cons operation later more => exact more (kept operation start)

end History

/-! ## What each call can do -/

variable {session : Session} {world : World Network}

/-- A session dials as the network does. Its link has the stream of the server to read, and nothing on
its way. -/
theorem dial_ok {world' : World Network} {link : Link}
    (dialed : session.dial world = (.ok link, world')) :
    ∃ channel, world.net.dial session.address session.timeout = (.ok channel, world'.net) ∧
      link = ⟨channel.number, { unread := channel.stream }, channel.ending, []⟩ := by
  unfold dial at dialed
  rcases found : world.net.dial session.address session.timeout with ⟨error | channel, net⟩
  · rw [found] at dialed
    cases dialed
  · rw [found] at dialed
    cases dialed
    exact ⟨channel, rfl, rfl⟩

/-- A session dials in vain as the network does. -/
theorem dial_error {world' : World Network} {error : Error}
    (dialed : session.dial world = (.error error, world')) :
    world.net.dial session.address session.timeout = (.error error, world'.net) := by
  unfold dial at dialed
  rcases found : world.net.dial session.address session.timeout with ⟨cause | channel, net⟩
  · rw [found] at dialed
    cases dialed
    rfl
  · rw [found] at dialed
    cases dialed

/-- A link is there, or it is dialed, or there is none. -/
theorem link_cases (session : Session) (world : World Network) :
    (∃ link, session.state = .connected link ∧
        session.link world = (.ok link, session, world)) ∨
    (session.state = .closed ∧
        session.link world = (.error .connectionClosed, session, world)) ∨
    (∃ link world', session.state = .idle ∧ session.dial world = (.ok link, world') ∧
        session.link world = (.ok link, { session with state := .connected link }, world')) ∨
    (∃ error world', session.state = .idle ∧ session.dial world = (.error error, world') ∧
        session.link world = (.error error, { session with state := .closed }, world')) := by
  unfold link
  cases stage : session.state with
  | idle =>
    rcases dialed : session.dial world with ⟨error | link, world'⟩
    · exact Or.inr (Or.inr (Or.inr ⟨error, world', rfl, rfl, rfl⟩))
    · exact Or.inr (Or.inr (Or.inl ⟨link, world', rfl, rfl, rfl⟩))
  | connected link => exact Or.inl ⟨link, rfl, rfl⟩
  | closed => exact Or.inr (Or.inl ⟨rfl, rfl⟩)

/-- The session that has queued one more frame behind those of a link. -/
def queued (session : Session) (link : Link) (name : String) (args : List Bytes) : Session :=
  { session with
    state := .connected { link with unsent := link.unsent ++ [frame name args] }
    owed := session.owed + 1 }

/-- A command is queued on the link, or there is no link to queue it on. -/
theorem send_cases (name : String) (args : List Bytes) (session : Session)
    (world : World Network) :
    (∃ link, session.state = .connected link ∧
        session.send name args world = (.ok (), session.queued link name args, world)) ∨
    (session.state = .closed ∧
        session.send name args world = (.error .connectionClosed, session, world)) ∨
    (∃ link world', session.state = .idle ∧ session.dial world = (.ok link, world') ∧
        session.send name args world = (.ok (), session.queued link name args, world')) ∨
    (∃ error world', session.state = .idle ∧ session.dial world = (.error error, world') ∧
        session.send name args world =
          (.error error, { session with state := .closed }, world')) := by
  unfold send
  rcases session.link_cases world with ⟨link, stage, linked⟩ | ⟨stage, linked⟩ |
    ⟨link, world', stage, dialed, linked⟩ | ⟨error, world', stage, dialed, linked⟩
  · rw [linked]
    exact Or.inl ⟨link, stage, rfl⟩
  · rw [linked]
    exact Or.inr (Or.inl ⟨stage, rfl⟩)
  · rw [linked]
    exact Or.inr (Or.inr (Or.inl ⟨link, world', stage, dialed, rfl⟩))
  · rw [linked]
    exact Or.inr (Or.inr (Or.inr ⟨error, world', stage, dialed, rfl⟩))

/-- The world after the frames of a link have left. -/
def flushed (link : Link) (world : World Network) : World Network :=
  { world with net := world.net.send link.number link.unsent.flatten }

/-- A reply is waited for in vain, or read from the link behind the frames that it was waiting
for. -/
theorem receive_cases (session : Session) (world : World Network) :
    (session.owed = 0 ∧
        session.receive world = (.error (.protocol .nothingPending), session, world)) ∨
    (session.owed ≠ 0 ∧ session.isOpen = false ∧
        session.receive world = (.error .connectionClosed, session, world)) ∨
    (∃ link reply input, session.owed ≠ 0 ∧ session.state = .connected link ∧
        Reply.readFrom link.ending link.input = (.ok reply, input) ∧
        session.receive world =
          (.ok reply, { session with
            state := .connected { link with unsent := [], input }
            owed := session.owed - 1 }, flushed link world)) ∨
    (∃ link error input, session.owed ≠ 0 ∧ session.state = .connected link ∧
        Reply.readFrom link.ending link.input = (.error error, input) ∧
        session.receive world =
          (.error error, session.shutdown,
            (flushed link world).report (.givenUp session.address error))) := by
  unfold receive
  by_cases none : session.owed = 0
  · exact Or.inl ⟨none, if_pos none⟩
  · rw [if_neg none]
    refine Or.inr ?_
    cases stage : session.state with
    | idle => exact Or.inl ⟨none, by rw [isOpen, stage], rfl⟩
    | closed => exact Or.inl ⟨none, by rw [isOpen, stage], rfl⟩
    | connected link =>
      refine Or.inr ?_
      rcases read : Reply.readFrom link.ending link.input with ⟨error | reply, input⟩
      · refine Or.inr ⟨link, error, input, none, rfl, read, ?_⟩
        simp only [flush, read]
        rfl
      · refine Or.inl ⟨link, reply, input, none, rfl, read, ?_⟩
        simp only [flush, read]
        rfl

/-- A command is refused, or sent in vain, or its reply is received. -/
theorem ask_cases (name : String) (args : List Bytes) (session : Session)
    (world : World Network) :
    (0 < session.owed ∧ session.ask name args world =
        (.error (.protocol (.repliesUnread session.owed)), session, world)) ∨
    (∃ error after world', session.owed = 0 ∧
        session.send name args world = (.error error, after, world') ∧
        session.ask name args world = (.error error, after, world')) ∨
    (∃ after world', session.owed = 0 ∧
        session.send name args world = (.ok (), after, world') ∧
        session.ask name args world = after.receive world') := by
  unfold ask
  by_cases owes : 0 < session.owed
  · exact Or.inl ⟨owes, if_pos owes⟩
  · rw [if_neg owes]
    refine Or.inr ?_
    have none : session.owed = 0 := Nat.eq_zero_of_not_pos owes
    rcases sends : session.send name args world with ⟨error | ⟨⟩, after, world'⟩
    · exact Or.inl ⟨error, after, world', none, rfl, rfl⟩
    · exact Or.inr ⟨after, world', none, rfl, rfl⟩

/-- A session that has received a reply is connected, has nothing on its way, and owes one reply
less. -/
theorem connected_of_receive_ok {after : Session} {world' : World Network} {reply : Reply}
    (receives : session.receive world = (.ok reply, after, world')) :
    (∃ link, after.state = .connected link ∧ link.unsent = []) ∧
      after.owed = session.owed - 1 := by
  rcases receive_cases session world with
    ⟨-, out⟩ | ⟨-, -, out⟩ | ⟨link, reply', input, -, -, -, out⟩ | ⟨link, error, input, -, -, -, out⟩
  all_goals
    rw [out] at receives
    cases receives
  exact ⟨⟨_, rfl, rfl⟩, rfl⟩

/-- A session that has queued a command owes one reply more. -/
theorem owed_of_send_ok {after : Session} {world' : World Network} {name : String}
    {args : List Bytes} (sends : session.send name args world = (.ok (), after, world')) :
    after.owed = session.owed + 1 := by
  rcases send_cases name args session world with
    ⟨link, -, out⟩ | ⟨-, out⟩ | ⟨link, dialed, -, -, out⟩ | ⟨error, dialed, -, -, out⟩
  all_goals
    rw [out] at sends
    cases sends
  · rfl
  · rfl

/-- A session whose command was answered is connected, has nothing on its way, and owes nothing. -/
theorem connected_of_ask_ok {after : Session} {world' : World Network} {reply : Reply}
    {name : String} {args : List Bytes}
    (asks : session.ask name args world = (.ok reply, after, world')) :
    (∃ link, after.state = .connected link ∧ link.unsent = []) ∧ after.owed = 0 := by
  rcases ask_cases name args session world with
    ⟨-, out⟩ | ⟨error, sent, world'', -, -, out⟩ | ⟨sent, world'', none, sends, out⟩
  · rw [out] at asks
    cases asks
  · rw [out] at asks
    cases asks
  · rw [out] at asks
    obtain ⟨connected, fewer⟩ := connected_of_receive_ok asks
    have more := owed_of_send_ok sends
    exact ⟨connected, by omega⟩

/-- A probe has nothing to do, or fails as a question does, or is answered as it should be or
otherwise. -/
theorem probe_cases (session : Session) (world : World Network) :
    (session.isOpen = true ∧ session.probe world = (.ok (), session, world)) ∨
    (∃ error after world', session.isOpen = false ∧
        session.ask "PING" [] world = (.error error, after, world') ∧
        session.probe world = (.error error, after, world')) ∨
    (∃ after world', session.isOpen = false ∧
        session.ask "PING" [] world = (.ok (.status "PONG"), after, world') ∧
        session.probe world = (.ok (), after, world')) ∨
    (∃ reply after world', session.isOpen = false ∧ reply ≠ .status "PONG" ∧
        session.ask "PING" [] world = (.ok reply, after, world') ∧
        session.probe world =
          (.error (.unexpectedReply .pong reply.summary),
            after.giveUp (.unexpectedReply .pong reply.summary) world')) := by
  unfold probe
  by_cases opened : session.isOpen = true
  · exact Or.inl ⟨opened, if_pos opened⟩
  · rw [if_neg opened]
    refine Or.inr ?_
    have notOpened : session.isOpen = false := eq_false_of_ne_true opened
    split
    · next error after world' asks =>
      exact Or.inl ⟨error, after, world', notOpened, asks, rfl⟩
    · next after world' asks =>
      exact Or.inr (Or.inl ⟨after, world', notOpened, asks, rfl⟩)
    · next reply after world' other asks =>
      refine Or.inr (Or.inr ⟨reply, after, world', notOpened, ?_, asks, rfl⟩)
      rintro rfl
      exact other rfl

/-! ## Closed sessions -/

/-- A closed session takes no command. -/
theorem send_of_closed (stage : session.state = .closed) (name : String) (args : List Bytes)
    (world : World Network) :
    session.send name args world = (.error .connectionClosed, session, world) := by
  rcases send_cases name args session world with
    ⟨link, other, -⟩ | ⟨-, out⟩ | ⟨link, world', other, -⟩ | ⟨error, world', other, -⟩
  · cases stage.symm.trans other
  · exact out
  · cases stage.symm.trans other
  · cases stage.symm.trans other

/-- A closed session gives no reply. -/
theorem receive_of_closed (stage : session.state = .closed) (world : World Network) :
    ∃ error, session.receive world = (.error error, session, world) := by
  rcases receive_cases session world with
    ⟨-, out⟩ | ⟨-, -, out⟩ | ⟨link, -, -, -, other, -⟩ | ⟨link, -, -, -, other, -⟩
  · exact ⟨_, out⟩
  · exact ⟨_, out⟩
  · cases stage.symm.trans other
  · cases stage.symm.trans other

/-- A closed session answers no command. -/
theorem ask_of_closed (stage : session.state = .closed) (name : String) (args : List Bytes)
    (world : World Network) :
    ∃ error, session.ask name args world = (.error error, session, world) := by
  have sends := send_of_closed stage name args world
  rcases ask_cases name args session world with
    ⟨-, out⟩ | ⟨error, after, world', -, out, asks⟩ | ⟨after, world', -, out, -⟩
  · exact ⟨_, out⟩
  · cases sends.symm.trans out
    exact ⟨_, asks⟩
  · cases sends.symm.trans out

/-- A closed session cannot be probed. -/
theorem probe_of_closed (stage : session.state = .closed) (world : World Network) :
    ∃ error, session.probe world = (.error error, session, world) := by
  obtain ⟨error, asks⟩ := ask_of_closed stage "PING" [] world
  rcases probe_cases session world with
    ⟨opened, -⟩ | ⟨cause, after, world', -, out, probes⟩ | ⟨after, world', -, out, -⟩ |
      ⟨reply, after, world', -, -, out, -⟩
  · rw [isOpen, stage] at opened
    cases opened
  · cases asks.symm.trans out
    exact ⟨_, probes⟩
  · cases asks.symm.trans out
  · cases asks.symm.trans out

/-- Only the closed state is closed. -/
theorem isClosed_iff : session.isClosed = true ↔ session.state = .closed := by
  unfold isClosed
  cases session.state with
  | idle => exact ⟨nofun, nofun⟩
  | connected link => exact ⟨nofun, nofun⟩
  | closed => exact ⟨fun _ => rfl, fun _ => rfl⟩

/-- A closed session stays closed. -/
theorem isClosed_perform (closed : session.isClosed = true) (operation : Operation) :
    (operation.perform session world).1.isClosed = true := by
  have stage := isClosed_iff.1 closed
  cases operation with
  | ask name args =>
    obtain ⟨error, out⟩ := ask_of_closed stage name args world
    rw [Operation.perform, out]
    exact closed
  | send name args =>
    rw [Operation.perform, send_of_closed stage name args world]
    exact closed
  | receive =>
    obtain ⟨error, out⟩ := receive_of_closed stage world
    rw [Operation.perform, out]
    exact closed
  | probe =>
    obtain ⟨error, out⟩ := probe_of_closed stage world
    rw [Operation.perform, out]
    exact closed
  | close => rfl

/-- A closed session stays closed, whatever it is asked to do. -/
theorem History.isClosed_run {history : History} (closed : history.session.isClosed = true)
    (later : List Operation) : (history.run later).session.isClosed = true :=
  run_induction closed (fun operation closed => isClosed_perform closed operation) later

end RespClient.Tcp.Session
