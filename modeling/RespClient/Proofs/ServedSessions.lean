import RespClient.Proofs.ExchangeOutcome
import RespClient.Proofs.SessionAlignment

/-!
# Sessions that are served

What becomes of the calls on a session if its server has replies for them. Commands are queued on the
link in order (`sends_of_connected`), and as many replies as there are in the stream are received in
order (`receives_of_readList`), for which all that was queued leaves. So an exchange succeeds if there is
a reply for each command, and leaves the stream behind those replies (`exchange_of_readList`). A session
that has not dialed yet does the same as one that has just dialed (`exchange_of_dial`).

`Stocked.exchange` joins these: of the replies that are ahead of a session, an exchange takes as many as it
has commands, and the others are ahead of what it leaves.
-/

namespace RespClient

/-! ## Replies in a stream -/

theorem Reply.length_of_readList {ending : Ending} {count : Nat} {bytes rest : Bytes}
    {replies : List Reply} (read : Reply.readList ending count bytes = (.ok replies, rest)) :
    replies.length = count := by
  induction count generalizing bytes replies with
  | zero =>
    rw [readList_zero] at read
    cases read
    rfl
  | succ count others =>
    rw [readList_succ] at read
    split at read
    · cases read
    · split at read
      · next list =>
        cases read
        exact congrArg (· + 1) (others list)
      · cases read

/-- Some replies and others behind them are read one after the other. -/
theorem Reply.readList_add {ending : Ending} {first second : Nat} {bytes rest : Bytes}
    {replies : List Reply}
    (read : Reply.readList ending (first + second) bytes = (.ok replies, rest)) :
    ∃ front middle back, replies = front ++ back ∧
      Reply.readList ending first bytes = (.ok front, middle) ∧
      Reply.readList ending second middle = (.ok back, rest) := by
  induction first generalizing bytes replies with
  | zero =>
    rw [Nat.zero_add] at read
    exact ⟨[], bytes, replies, rfl, readList_zero ending bytes, read⟩
  | succ first others =>
    rw [Nat.succ_add, readList_succ] at read
    rcases item : Reply.read ending bytes with ⟨error | reply, middle⟩
    · rw [item] at read
      cases read
    · rcases list : Reply.readList ending (first + second) middle with ⟨error | items, rest'⟩
      · simp only [item, list] at read
        cases read
      · simp only [item, list] at read
        cases read
        obtain ⟨front, middle', back, rfl, readFront, readBack⟩ := others list
        refine ⟨reply :: front, middle', back, rfl, ?_, readBack⟩
        simp only [readList_succ, item, readFront]

open Connection (Sends Receives)

/-! ## Exchanges of calls that succeed -/

section Exchanges

variable {C Net : Type} [Connection C Net] {connection after : C} {world world' : World Net}

theorem sendAll_of_sends {commands : List Command}
    (sent : Sends commands connection world after world') :
    sendAll commands connection world = (.ok (), after, world') := by
  induction sent with
  | nil => rfl
  | cons sends _ others => simp only [sendAll, sends, others]

theorem receiveAll_of_receives {commands : List Command} {replies : List Reply}
    (received : Receives replies connection world after world')
    (complete : replies.length = commands.length) :
    receiveAll commands connection world = (.ok (), answered commands replies, after, world') := by
  induction received generalizing commands with
  | nil =>
    rw [List.eq_nil_of_length_eq_zero complete.symm]
    rfl
  | cons receives _ others =>
    cases commands with
    | nil => cases complete
    | cons command rest =>
      simp only [receiveAll, receives, others (Nat.succ.inj complete)]
      rfl

end Exchanges

theorem answered_append {first second : List Command} {front back : List Reply}
    (complete : front.length = first.length) :
    answered (first ++ second) (front ++ back) = answered first front ++ answered second back := by
  unfold answered
  rw [List.zipWith_append complete.symm, List.length_append, complete, List.drop_length_add_append,
    List.drop_length, List.append_nil, List.append_assoc]

namespace Tcp.Session

theorem isOpen_of_connected {session : Session} {link : Link}
    (stage : session.state = .connected link) : session.isOpen = true := by
  rw [isOpen, stage]

/-! ## Commands -/

/-- The link with the frames of these commands behind those that have gathered. -/
def queueAll (link : Link) (commands : List Command) : Link :=
  { link with unsent := link.unsent ++ commands.map Command.frame }

/-- A connected session queues all commands. -/
theorem sends_of_connected (commands : List Command) {session : Session} {link : Link}
    (stage : session.state = .connected link) (world : World Network) :
    Sends commands session world
      { session with
        state := .connected (queueAll link commands)
        owed := session.owed + commands.length } world := by
  induction commands generalizing session link with
  | nil =>
    have same : { session with state := .connected (queueAll link []), owed := session.owed + 0 } =
        session := by
      rw [queueAll, List.map_nil, List.append_nil, ← stage, Nat.add_zero]
    rw [List.length_nil, same]
    exact .nil
  | cons command rest others =>
    have first : Connection.send command.name command.args session world =
        (.ok (), session.queued link command.name command.args, world) := by
      change reported (session.send command.name command.args world) = _
      simp only [send, Session.link, stage]
      rfl
    have stage' : (session.queued link command.name command.args).state =
        .connected (queueAll link [command]) := rfl
    have later := others stage'
    refine .cons first ?_
    rw [queueAll, List.map_cons, List.append_cons, List.length_cons, Nat.add_comm rest.length,
      ← Nat.add_assoc]
    exact later

/-! ## Replies -/

/-- A session receives the replies that it owes, if they can be read, and is left with the stream behind
them. The first for which it waits makes all leave that was queued. -/
theorem receives_of_readList {session : Session} {link : Link} {count : Nat}
    {replies : List Reply} {rest : Bytes} (stage : session.state = .connected link)
    (enough : count ≤ session.owed)
    (read : Reply.readList link.ending count link.input.unread = (.ok replies, rest))
    (world : World Network) :
    ∃ link', Receives replies session world
        { session with state := .connected link', owed := session.owed - count }
        (if count = 0 then world else flushed link world) ∧
      link'.number = link.number ∧ link'.ending = link.ending ∧ link'.input.unread = rest ∧
      link'.unsent = if count = 0 then link.unsent else [] := by
  induction count generalizing session link replies world with
  | zero =>
    rw [Reply.readList_zero] at read
    cases read
    refine ⟨link, ?_, rfl, rfl, rfl, (if_pos rfl).symm⟩
    rw [if_pos rfl, ← stage]
    exact .nil
  | succ count others =>
    have owes : session.owed ≠ 0 := by omega
    have reads := Reply.read_unread link.ending link.input
    rw [Reply.readList_succ, reads] at read
    rcases found : Reply.readFrom link.ending link.input with ⟨error | reply, input⟩
    · rw [found] at read
      cases read
    · rw [found] at read
      rcases list : Reply.readList link.ending count input.unread with ⟨error | items, rest'⟩
      · simp only [list] at read
        cases read
      · simp only [list] at read
        cases read
        let next : Link := { link with unsent := [], input }
        let received : Session :=
          { session with state := .connected next, owed := session.owed - 1 }
        have first : Connection.receive session world =
            (.ok reply, received, flushed link world) := by
          change reported (session.receive world) = _
          simp only [receive, if_neg owes, stage, flush, found]
          rfl
        have stage' : received.state = .connected next := rfl
        have enough' : count ≤ received.owed := Nat.le_sub_of_add_le enough
        obtain ⟨link', more, number, ending, unread, settled⟩ :=
          others stage' enough' list (flushed link world)
        -- The first reply makes all leave that was queued, so the others find nothing to flush.
        have left : flushed next (flushed link world) = flushed link world :=
          flushed_of_unsent_nil _ rfl
        have fewer : received.owed - count = session.owed - (count + 1) := by
          change session.owed - 1 - count = _
          omega
        rw [left, ite_self, fewer] at more
        rw [show next.unsent = [] from rfl, ite_self] at settled
        rw [if_neg (Nat.succ_ne_zero count), if_neg (Nat.succ_ne_zero count)]
        exact ⟨link', .cons first more, number, ending, unread, settled⟩

/-! ## Exchanges -/

/-- Between two worlds nothing is dialed, and exactly these bytes are sent, through one connection. A dial
that comes to a server adds to those that have accepted, or uses up an incident. -/
structure Transmits (sender : Nat) (bytes : Bytes) (world world' : World Network) : Prop where
  accepted : world'.net.accepted = world.net.accepted
  incidents : world'.net.incidents = world.net.incidents
  sent : ∀ number, world'.net.sentThrough number =
    world.net.sentThrough number ++ if number = sender then bytes else []

theorem Transmits.trans {sender : Nat} {bytes bytes' : Bytes} {world world' world'' : World Network}
    (first : Transmits sender bytes world world') (second : Transmits sender bytes' world' world'') :
    Transmits sender (bytes ++ bytes') world world'' where
  accepted := second.accepted.trans first.accepted
  incidents := second.incidents.trans first.incidents
  sent number := by
    rw [second.sent, first.sent, List.append_assoc]
    split <;> rfl

theorem Transmits.of_net {sender : Nat} {bytes : Bytes} {world before world' after : World Network}
    (transmits : Transmits sender bytes world world') (same : before.net = world.net)
    (same' : after.net = world'.net) : Transmits sender bytes before after where
  accepted := by rw [same, same', transmits.accepted]
  incidents := by rw [same, same', transmits.incidents]
  sent number := by rw [same, same', transmits.sent]

/-- The frames that were queued on an empty link leave in order. -/
theorem transmits_flushed {link : Link} (settled : link.unsent = []) (commands : List Command)
    (world : World Network) :
    Transmits link.number (commands.flatMap Command.frame) world
      (flushed (queueAll link commands) world) where
  accepted := Network.accepted_send ..
  incidents := Network.incidents_send ..
  sent number := by
    refine (Network.sentThrough_send world.net link.number _ number).trans ?_
    rw [queueAll, settled, List.nil_append, List.flatMap_def]

variable {session : Session} {link : Link} {commands : List Command} {replies : List Reply}
  {rest : Bytes}

/-- An exchange succeeds if there is a reply for each command, and leaves the stream behind these. -/
theorem exchange_of_readList (stage : session.state = .connected link) (none : session.owed = 0)
    (nonempty : commands ≠ [])
    (read : Reply.readList link.ending commands.length link.input.unread = (.ok replies, rest))
    (world : World Network) :
    ∃ link', exchange commands session world =
        (.ok (), answered commands replies, { session with state := .connected link', owed := 0 },
          flushed (queueAll link commands) world) ∧
      link'.number = link.number ∧ link'.ending = link.ending ∧ link'.input.unread = rest ∧
      link'.unsent = [] := by
  have sent := sends_of_connected commands stage world
  have some : commands.length ≠ 0 := fun empty => nonempty (List.eq_nil_of_length_eq_zero empty)
  let queued : Session := { session with
    state := .connected (queueAll link commands), owed := session.owed + commands.length }
  have stage' : queued.state = .connected (queueAll link commands) := rfl
  have enough : commands.length ≤ queued.owed := Nat.le_add_left _ _
  obtain ⟨link', received, number, ending, unread, unsent⟩ :=
    receives_of_readList stage' enough read world
  have settled : session.owed + commands.length - commands.length = 0 := by omega
  rw [if_neg some] at received unsent
  rw [settled] at received
  refine ⟨link', ?_, number, ending, unread, unsent⟩
  rw [exchange_of_settled none, roundTrip, sendAll_of_sends sent]
  exact receiveAll_of_receives received (Reply.length_of_readList read)

/-- A session that has to dial makes the exchange of the session that has just dialed. -/
theorem exchange_of_dial (stage : session.state = .idle) (none : session.owed = 0)
    {world dialed : World Network} (dials : session.dial world = (.ok link, dialed))
    (nonempty : commands ≠ []) :
    exchange commands session world =
      exchange commands { session with state := .connected link } dialed := by
  obtain ⟨command, others, rfl⟩ := List.exists_cons_of_ne_nil nonempty
  have sameSend : Connection.send command.name command.args session world =
      Connection.send command.name command.args { session with state := .connected link } dialed := by
    change reported (session.send _ _ world) = reported (send _ _ _ dialed)
    simp only [send, Session.link, stage, dials]
  have none' : Connection.owed ({ session with state := .connected link } : Session) = 0 := none
  rw [exchange_of_settled none, exchange_of_settled none']
  simp only [roundTrip, sendAll, sameSend]

/-- A session without debts, connected or about to dial, that has these replies ahead on its link. The
second world is the one in which it is connected. -/
structure Stocked (session : Session) (world : World Network) (link : Link)
    (dialed : World Network) (replies : List Reply) : Prop where
  opens : (session.state = .connected link ∧ dialed = world) ∨
    (session.state = .idle ∧ session.dial world = (.ok link, dialed))
  settled : session.owed = 0
  unsent : link.unsent = []
  ahead : ∃ rest, Reply.readList link.ending replies.length link.input.unread = (.ok replies, rest)

/-- A new session has ahead what the server has for the next connection. -/
theorem stocked_create {address : String} {timeout : Duration} {world : World Network}
    {channel : Network.Channel} {replies : List Reply} {rest : Bytes}
    (dials : (world.net.dial address timeout).1 = .ok channel)
    (read : Reply.readList channel.ending replies.length channel.stream = (.ok replies, rest)) :
    Stocked (create address timeout) world
      ⟨channel.number, { unread := channel.stream }, channel.ending, []⟩
      (({ world with net := (world.net.dial address timeout).2 } : World Network).report
        (.connected address)) replies := by
  rcases found : world.net.dial address timeout with ⟨error | channel', net⟩
  · rw [found] at dials
    cases dials
  · rw [found] at dials
    cases dials
    refine ⟨Or.inr ⟨rfl, ?_⟩, rfl, rfl, rest, read⟩
    simp only [dial, create, found]

theorem Stocked.notClosed {world dialed : World Network}
    (stocked : Stocked session world link dialed replies) : session.isClosed = false := by
  unfold isClosed
  rcases stocked.opens with ⟨stage, -⟩ | ⟨stage, -⟩
  · rw [stage]
  · rw [stage]

/-- An exchange takes the replies that are next, one for each command, and leaves the others ahead. -/
theorem Stocked.exchange {world dialed : World Network} {front back : List Reply}
    (stocked : Stocked session world link dialed (front ++ back)) (nonempty : commands ≠ [])
    (complete : front.length = commands.length) :
    ∃ after link' world', RespClient.exchange commands session world =
        (.ok (), answered commands front, after, world') ∧
      Transmits link.number (commands.flatMap Command.frame) dialed world' ∧
      world'.log = dialed.log ∧ link'.number = link.number ∧ after.state = .connected link' ∧
      ∀ later, Stocked after later link' later back := by
  obtain ⟨rest, read⟩ := stocked.ahead
  rw [List.length_append, complete] at read
  obtain ⟨front', middle, back', split, readFront, readBack⟩ := Reply.readList_add read
  have sameLength : front.length = front'.length :=
    complete.trans (Reply.length_of_readList readFront).symm
  obtain ⟨rfl, rfl⟩ := List.append_inj split sameLength
  have opened : RespClient.exchange commands session world =
      RespClient.exchange commands { session with state := .connected link } dialed := by
    rcases stocked.opens with ⟨stage, rfl⟩ | ⟨stage, dials⟩
    · rw [← stage]
    · exact exchange_of_dial stage stocked.settled dials nonempty
  let connected : Session := { session with state := .connected link }
  have stage : connected.state = .connected link := rfl
  obtain ⟨link', exchanges, number, ending, unread, unsent⟩ :=
    exchange_of_readList stage stocked.settled nonempty readFront dialed
  refine ⟨_, link', _, opened.trans exchanges, transmits_flushed stocked.unsent commands dialed, rfl,
    number, rfl, fun later => ⟨Or.inl ⟨rfl, rfl⟩, rfl, unsent, rest, ?_⟩⟩
  rw [ending, unread]
  exact readBack

end Tcp.Session

end RespClient
