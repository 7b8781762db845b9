import RespClient.Proofs.ServedSessions

/-!
# Pipelined and one at a time

An exchange sends all its commands before it reads the first reply; `askAll` asks the commands one
after the other instead. On a session over TCP that owes nothing the two come to the same.

The exchange has always sent more than `askAll` has by then: `Ahead` says by which bytes, and that
nothing else differs. Reading keeps the two in step (`receive_and_ask`), and each reply that both
read takes the frame of one command off the lead. `exchange_agrees` is the main statement.
-/

namespace RespClient

variable {C Net : Type} [Connection C Net]

/-- Asks commands one after the other, and gives them their replies, up to the first that fails. -/
def askAll : List Command → C → World Net → Except Failure Unit × List Command × C × World Net
  | [], connection, world => (.ok (), [], connection, world)
  | command :: rest, connection, world =>
    match Connection.ask command.name command.args connection world with
    | (.error failure, connection, world) =>
      (.error failure, command :: rest, connection, world)
    | (.ok reply, connection, world) =>
      let (result, rest, connection, world) := askAll rest connection world
      (result, { command with reply := some reply } :: rest, connection, world)

end RespClient

namespace RespClient.Tcp.Session

/-- What an exchange or a series of questions leaves: the result, the commands, the session and the
world. -/
abbrev Outcome := Except Failure Unit × List Command × Session × World Network

/-! ## Being ahead -/

/-- Through the connection with a number, `front` has sent these bytes more than `behind`; otherwise
they are the same. -/
structure Ahead (bytes : Bytes) (number : Nat) (front behind : World Network) : Prop where
  log : front.log = behind.log
  network : { front.net with sent := behind.net.sent } = behind.net
  sent : ∀ other, front.net.sentThrough other =
    behind.net.sentThrough other ++ if other = number then bytes else []

/-- A batch comes to the same as the commands one at a time, in a world that differs from theirs
only in what has been sent: the same if the batch succeeds, and otherwise no less. -/
structure Agrees (batch single : Outcome) : Prop where
  result : batch.1 = single.1
  commands : batch.2.1 = single.2.1
  session : batch.2.2.1 = single.2.2.1
  log : batch.2.2.2.log = single.2.2.2.log
  network : { batch.2.2.2.net with sent := single.2.2.2.net.sent } = single.2.2.2.net
  sent_of_ok : batch.1 = .ok () → ∀ number,
    batch.2.2.2.net.sentThrough number = single.2.2.2.net.sentThrough number
  sent_prefix : ∀ number,
    single.2.2.2.net.sentThrough number <+: batch.2.2.2.net.sentThrough number

theorem Agrees.refl (outcome : Outcome) : Agrees outcome outcome :=
  ⟨rfl, rfl, rfl, rfl, rfl, fun _ _ => rfl, fun _ => List.prefix_rfl⟩

/-- A command that was answered alike on both sides makes no difference. -/
theorem Agrees.cons {batch single : Outcome} (agrees : Agrees batch single) (command : Command) :
    Agrees (batch.1, command :: batch.2.1, batch.2.2) (single.1, command :: single.2.1, single.2.2) :=
  { agrees with commands := congrArg (command :: ·) agrees.commands }

section Ahead

variable {bytes : Bytes} {number : Nat} {front behind : World Network}

theorem Ahead.agrees_of_ok (ahead : Ahead [] number front behind) (commands : List Command)
    (session : Session) :
    Agrees (.ok (), commands, session, front) (.ok (), commands, session, behind) := by
  have same (other : Nat) : front.net.sentThrough other = behind.net.sentThrough other := by
    rw [ahead.sent other, ite_self, List.append_nil]
  exact ⟨rfl, rfl, rfl, ahead.log, ahead.network, fun _ => same,
    fun other => ⟨[], by rw [List.append_nil, same other]⟩⟩

theorem Ahead.agrees_of_error (ahead : Ahead bytes number front behind) (failure : Failure)
    (commands : List Command) (session : Session) (entry : LogEntry) :
    Agrees (.error failure, commands, session, front.report entry)
      (.error failure, commands, session, behind.report entry) :=
  ⟨rfl, rfl, rfl, congrArg (·.push entry) ahead.log, ahead.network, nofun,
    fun other => ⟨_, (ahead.sent other).symm⟩⟩

/-- Flushing takes the lead forward by what one side flushes more than the other. -/
theorem Ahead.flushed {link : Link} {early late : List Bytes} {lead : Bytes}
    (ahead : Ahead bytes link.number front behind)
    (more : bytes ++ early.flatten = late.flatten ++ lead) :
    Ahead lead link.number (flushed { link with unsent := early } front)
      (flushed { link with unsent := late } behind) := by
  refine ⟨ahead.log, ?_, fun other => ?_⟩
  · have network := ahead.network
    simp only [Session.flushed, Network.send]
    grind
  · simp only [Session.flushed, Network.sentThrough_send]
    rw [ahead.sent other]
    by_cases same : other = link.number
    · simp only [if_pos same, List.append_assoc, more]
    · simp only [if_neg same, List.append_nil]

end Ahead

/-! ## In step -/

section Steps

variable {address : String} {timeout : Duration}

theorem receive_of_ok {ending : Ending} {input input' : Input} {reply : Reply}
    (read : Reply.readFrom ending input = (.ok reply, input')) (number owed : Nat)
    (unsent : List Bytes) (world : World Network) :
    receive ⟨address, timeout, .connected ⟨number, input, ending, unsent⟩, owed + 1⟩ world =
      (.ok reply, ⟨address, timeout, .connected ⟨number, input', ending, []⟩, owed⟩,
        flushed ⟨number, input, ending, unsent⟩ world) := by
  rcases receive_cases ⟨address, timeout, .connected ⟨number, input, ending, unsent⟩, owed + 1⟩
    world with ⟨none, -⟩ | ⟨-, notOpened, -⟩ | ⟨link, reply', input'', -, stage, read', out⟩ |
      ⟨link, error, input'', -, stage, read', -⟩
  · cases none
  · cases notOpened
  · cases stage
    cases read.symm.trans read'
    exact out
  · cases stage
    cases read.symm.trans read'

theorem receive_of_error {ending : Ending} {input input' : Input} {error : Error}
    (read : Reply.readFrom ending input = (.error error, input')) (number owed : Nat)
    (unsent : List Bytes) (world : World Network) :
    receive ⟨address, timeout, .connected ⟨number, input, ending, unsent⟩, owed + 1⟩ world =
      (.error error, ⟨address, timeout, .closed, 0⟩,
        (flushed ⟨number, input, ending, unsent⟩ world).report (.givenUp address error)) := by
  rcases receive_cases ⟨address, timeout, .connected ⟨number, input, ending, unsent⟩, owed + 1⟩
    world with ⟨none, -⟩ | ⟨-, notOpened, -⟩ | ⟨link, reply, input'', -, stage, read', -⟩ |
      ⟨link, error', input'', -, stage, read', out⟩
  · cases none
  · cases notOpened
  · cases stage
    cases read.symm.trans read'
  · cases stage
    cases read.symm.trans read'
    exact out

/-- A batch of which all is sent and a series of questions stay in step over one command, if they do
so over the rest. What is queued may differ, as long as the lead is right once it is flushed. -/
theorem agrees_cons (link : Link) {early late : List Bytes} {front behind : World Network}
    (command : Command) (rest : List Command)
    (ahead : Ahead (rest.flatMap Command.frame) link.number
      (flushed { link with unsent := early } front)
      (flushed { link with unsent := late ++ [command.frame] } behind))
    (others : ∀ (link : Link) {front behind : World Network}, link.unsent = [] →
      Ahead (rest.flatMap Command.frame) link.number front behind →
      Agrees (receiveAll rest ⟨address, timeout, .connected link, rest.length⟩ front)
        (askAll rest ⟨address, timeout, .connected link, 0⟩ behind)) :
    Agrees
      (receiveAll (command :: rest)
        ⟨address, timeout, .connected { link with unsent := early }, rest.length + 1⟩ front)
      (askAll (command :: rest)
        ⟨address, timeout, .connected { link with unsent := late }, 0⟩ behind) := by
  rcases link with ⟨number, input, ending, unsent⟩
  -- To ask on a link is to queue the command and to receive.
  have asks : ask command.name command.args
        ⟨address, timeout, .connected ⟨number, input, ending, late⟩, 0⟩ behind =
      receive ⟨address, timeout, .connected ⟨number, input, ending, late ++ [command.frame]⟩, 0 + 1⟩
        behind := rfl
  simp only [receiveAll, askAll, Connection.receive, Connection.ask, asks]
  rcases read : Reply.readFrom ending input with ⟨error | reply, input'⟩
  · rw [receive_of_error read, receive_of_error read]
    exact ahead.agrees_of_error _ _ _ _
  · rw [receive_of_ok read, receive_of_ok read]
    exact (others ⟨number, input', ending, []⟩ rfl ahead).cons
      { command with reply := some reply }

/-- A batch that is flushed, with replies to come for all its commands, and the same commands asked
one after the other. -/
theorem receiveAll_agrees (commands : List Command) (link : Link) {front behind : World Network}
    (none : link.unsent = [])
    (ahead : Ahead (commands.flatMap Command.frame) link.number front behind) :
    Agrees
      (receiveAll commands ⟨address, timeout, .connected link, commands.length⟩ front)
      (askAll commands ⟨address, timeout, .connected link, 0⟩ behind) := by
  induction commands generalizing link front behind with
  | nil => exact ahead.agrees_of_ok [] _
  | cons command rest others =>
    rcases link with ⟨number, input, ending, unsent⟩
    cases none
    refine agrees_cons ⟨number, input, ending, []⟩ command rest ?_ others
    refine ahead.flushed ?_
    simp

/-! ## By the stage of the session -/

theorem agrees_connected (commands : List Command) (link : Link) (world : World Network) :
    Agrees (exchange commands (⟨address, timeout, .connected link, 0⟩ : Session) world)
      (askAll commands ⟨address, timeout, .connected link, 0⟩ world) := by
  rw [exchange_of_settled rfl, roundTrip,
    sendAll_of_sends (sends_of_connected commands rfl world), Nat.zero_add]
  dsimp only [queueAll]
  cases commands with
  | nil =>
    rw [List.map_nil, List.append_nil]
    exact .refl _
  | cons command rest =>
    have level : Ahead [] link.number world world :=
      ⟨rfl, rfl, fun other => by rw [ite_self, List.append_nil]⟩
    refine agrees_cons link command rest (level.flushed ?_) (receiveAll_agrees rest)
    simp [List.flatMap_def]

/-- A session that dials for its first command goes on as if it had been connected before. -/
theorem send_of_dial_ok {link : Link} {world world' : World Network}
    (dialed : dial ⟨address, timeout, .idle, 0⟩ world = (.ok link, world')) (name : String)
    (args : List Bytes) :
    send name args ⟨address, timeout, .idle, 0⟩ world =
      send name args ⟨address, timeout, .connected link, 0⟩ world' := by
  simp only [send, Session.link, dialed]

theorem send_of_dial_error {error : Error} {world world' : World Network}
    (dialed : dial ⟨address, timeout, .idle, 0⟩ world = (.error error, world')) (name : String)
    (args : List Bytes) :
    send name args ⟨address, timeout, .idle, 0⟩ world =
      (.error error, ⟨address, timeout, .closed, 0⟩, world') := by
  simp only [send, Session.link, dialed]

/-- A session that cannot send its first command fails alike on both sides. -/
theorem agrees_of_send_error {session after : Session} {world world' : World Network}
    {command : Command} {error : Error} (none : session.owed = 0)
    (sends : session.send command.name command.args world = (.error error, after, world'))
    (rest : List Command) :
    Agrees (exchange (command :: rest) session world) (askAll (command :: rest) session world) := by
  have batch : exchange (command :: rest) session world =
      (.error (.reported error), command :: rest, after, world') := by
    rw [exchange_of_settled none]
    simp only [roundTrip, sendAll, Connection.send, sends]
    rfl
  have single : askAll (command :: rest) session world =
      (.error (.reported error), command :: rest, after, world') := by
    have asks : session.ask command.name command.args world = (.error error, after, world') := by
      rw [ask, if_neg (Nat.not_lt.2 (Nat.le_of_eq none)), sends]
    simp only [askAll, Connection.ask, asks]
    rfl
  rw [batch, single]
  exact .refl _

end Steps

/-! ## Main statement -/

/-- **Pipelined is as one at a time.** On a session that owes nothing, at whatever stage and in
whatever world, an exchange ends with the same result, the same replies and the same session as the
commands asked one after the other up to the first failure; a session that ends connected has the
same bytes left to read. The worlds in which they end differ in nothing but what was sent: the same
bytes if the exchange succeeds, and otherwise bytes of which those sent one at a time are the
beginning. -/
theorem exchange_agrees_askAll (commands : List Command) (session : Session)
    (world : World Network) (none : session.owed = 0) :
    Agrees (exchange commands session world) (askAll commands session world) := by
  rcases session with ⟨address, timeout, state, owed⟩
  cases none
  cases commands with
  | nil => exact .refl _
  | cons command rest =>
    cases state with
    | connected link => exact agrees_connected (command :: rest) link world
    | closed => exact agrees_of_send_error rfl (send_of_closed rfl _ _ world) rest
    | idle =>
      rcases dialed : dial ⟨address, timeout, .idle, 0⟩ world with ⟨error | link, world'⟩
      · exact agrees_of_send_error rfl (send_of_dial_error dialed _ _) rest
      · -- Only the first command dials, and from then on both sides are connected alike.
        have queues := send_of_dial_ok dialed command.name command.args
        have batch : exchange (command :: rest) (⟨address, timeout, .idle, 0⟩ : Session) world =
            exchange (command :: rest) (⟨address, timeout, .connected link, 0⟩ : Session) world' := by
          rw [exchange_of_settled rfl, exchange_of_settled rfl]
          simp only [roundTrip, sendAll, Connection.send, queues]
        have asks : ask command.name command.args ⟨address, timeout, .idle, 0⟩ world =
            ask command.name command.args ⟨address, timeout, .connected link, 0⟩ world' := by
          simp only [ask, queues, Nat.lt_irrefl, if_false]
        have single : askAll (command :: rest) (⟨address, timeout, .idle, 0⟩ : Session) world =
            askAll (command :: rest) (⟨address, timeout, .connected link, 0⟩ : Session) world' := by
          simp only [askAll, Connection.ask, asks]
        rw [batch, single]
        exact agrees_connected (command :: rest) link world'

/-- A server that answers one of two commands and closes the connection. -/
theorem exchange_agrees_askAll_instance :
    let server : Server := ⟨"localhost:6379", [utf8 "+OK\r\n"], .closed⟩
    let world : World Network := ⟨{ routed := true, servers := [server] }, #[]⟩
    let session := create "localhost:6379" ⟨5, 0⟩
    let commands : List Command := [⟨"SET", [utf8 "key", utf8 "value"], none⟩, .ping]
    session.owed = 0 ∧
      (exchange commands session world).2.1.map Command.reply = [some (.status "OK"), none] ∧
      Agrees (exchange commands session world) (askAll commands session world) := by
  intro server world session commands
  refine ⟨rfl, by decide +kernel, ?_⟩
  exact exchange_agrees_askAll commands session world rfl

end RespClient.Tcp.Session
