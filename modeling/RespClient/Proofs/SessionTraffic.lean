import RespClient.Proofs.ServedSessions

/-!
# What a session sends

A session on which nothing is on its way (`Quiet`) has a link to its server, or dials for one, or has none
(`Quiet.link_cases`). Through the link it sends the frame of a command that it is asked
(`Quiet.ask_of_link`), and the frames of all commands that are exchanged at once (`Quiet.exchange_of_link`),
whatever the server answers, and then nothing is on its way again: either all replies have been read, or the
session is closed. To close a session on which nothing is on its way does nothing to the network.

What happens to a network is told by the connections that were accepted in the meantime and the bytes that
were sent through them (`Network.Gains`).
-/

namespace RespClient.Tcp

/-! ## Networks -/

namespace Network

/-- A server takes the connections that are dialed at an address, the next one and all later ones. -/
structure Accepts (net : Network) (address : String) (timeout : Duration) : Prop where
  next : ∃ channel net', net.dial address timeout = (.ok channel, net')
  later : ∀ fault, some (.failed fault) ∉ net.incidents

/-- Whether connections are taken depends on the servers, on the route to them and on what prevents
connections, and on nothing else. -/
theorem Accepts.of_same {net net' : Network} {address : String} {timeout : Duration}
    (accepts : net.Accepts address timeout) (servers : net'.servers = net.servers)
    (routed : net'.routed = net.routed) (incidents : net'.incidents ⊆ net.incidents) :
    net'.Accepts address timeout := by
  have later : ∀ fault, some (.failed fault) ∉ net'.incidents := fun fault there =>
    accepts.later fault (incidents there)
  obtain ⟨channel, after, dialed⟩ := accepts.next
  rcases net.dial_cases address timeout with ⟨server, found, routes, waits, -⟩ | ⟨fault, out⟩
  · have found' : net'.serverAt? address = some server := by
      unfold serverAt? at found ⊢
      rwa [servers]
    have reaches := dial_of_server found' (routed.trans routes) waits
    rcases net'.connect_cases server with ⟨next, -, connects⟩ | ⟨fault, prevents, -⟩
    · exact ⟨⟨_, _, reaches.trans connects⟩, later⟩
    · exact absurd prevents (later fault)
  · cases dialed.symm.trans out

theorem Accepts.send {net : Network} {address : String} {timeout : Duration}
    (accepts : net.Accepts address timeout) (number : Nat) (bytes : Bytes) :
    (net.send number bytes).Accepts address timeout := by
  unfold Network.send
  split
  · exact accepts
  · exact accepts.of_same rfl rfl (List.Subset.refl _)

theorem Accepts.dialed {net net' : Network} {address : String} {timeout : Duration}
    {channel : Channel} (accepts : net.Accepts address timeout)
    (dialed : net.dial address timeout = (.ok channel, net')) : net'.Accepts address timeout := by
  obtain ⟨-, rfl⟩ := dial_ok dialed
  exact accepts.of_same rfl rfl fun _ => List.mem_of_mem_tail

/-- Between two networks these servers accepted a connection each, in order, and these bytes were sent
through it. Nothing was sent through any other connection. -/
structure Gains (before after : Network) (news : List (String × Bytes)) : Prop where
  accepted : after.accepted.toList = before.accepted.toList ++ news.map Prod.fst
  sent : ∀ number, after.sentThrough number = before.sentThrough number ++
    if number < before.accepted.size then []
    else (news[number - before.accepted.size]?.map Prod.snd).getD []

namespace Gains

variable {net net' before after : Network} {news : List (String × Bytes)}

theorem refl (net : Network) : Gains net net [] where
  accepted := (List.append_nil _).symm
  sent _ := by rw [List.getElem?_nil, Option.map_none, Option.getD_none, ite_self, List.append_nil]

theorem size (gains : Gains before after news) :
    after.accepted.size = before.accepted.size + news.length := by
  rw [← Array.length_toList, gains.accepted, List.length_append, List.length_map,
    Array.length_toList]

theorem trans {between : Network} {later : List (String × Bytes)}
    (first : Gains before between news) (second : Gains between after later) :
    Gains before after (news ++ later) where
  accepted := by rw [second.accepted, first.accepted, List.map_append, List.append_assoc]
  sent number := by
    rw [second.sent, first.sent, first.size, List.append_assoc]
    congr 1
    by_cases old : number < before.accepted.size
    · rw [if_pos old, if_pos (Nat.lt_add_right _ old), if_pos old]
      rfl
    · rw [if_neg old, if_neg old]
      by_cases early : number < before.accepted.size + news.length
      · have inside : number - before.accepted.size < news.length := by omega
        rw [if_pos early, List.append_nil, List.getElem?_append_left inside]
      · have outside : news.length ≤ number - before.accepted.size := by omega
        rw [if_neg early, List.getElem?_append_right outside, List.getElem?_eq_none outside,
          Nat.sub_add_eq]
        rfl

/-- Nothing is gained by a dial in vain. -/
theorem of_dial_error {address : String} {timeout : Duration} {error : Error}
    (dialed : net.dial address timeout = (.error error, net')) : Gains net net' [] := by
  obtain ⟨-, incidents, rfl⟩ := dial_error dialed
  exact ⟨(refl net).accepted, (refl net).sent⟩

/-- A server is dialed, and is sent something. -/
theorem of_dial {address : String} {timeout : Duration} {channel : Channel}
    (dialed : net.dial address timeout = (.ok channel, net')) (bytes : Bytes) :
    Gains net (net'.send channel.number bytes) [(address, bytes)] := by
  obtain ⟨place, rfl⟩ := dial_ok dialed
  have same (number : Nat) : ({ net with
      incidents := net.incidents.tail
      accepted := net.accepted.push address } : Network).sentThrough number =
    net.sentThrough number := rfl
  refine ⟨by rw [accepted_send, Array.toList_push]; rfl, fun number => ?_⟩
  rw [sentThrough_send, place, same]
  congr 1
  rcases Nat.lt_trichotomy number net.accepted.size with old | rfl | later
  · rw [if_neg (Nat.ne_of_lt old), if_pos old]
  · rw [if_pos rfl, if_neg (Nat.lt_irrefl _), Nat.sub_self]
    rfl
  · have beyond : [(address, bytes)].length ≤ number - net.accepted.size := Nat.sub_pos_of_lt later
    rw [if_neg (Nat.ne_of_gt later), if_neg (Nat.lt_asymm later), List.getElem?_eq_none beyond]
    rfl

/-- One of the new connections is sent more. -/
theorem send {place : Nat} {address : String} {bytes : Bytes} (gains : Gains before after news)
    (there : news[place]? = some (address, bytes)) (more : Bytes) :
    Gains before (after.send (before.accepted.size + place) more)
      (news.set place (address, bytes ++ more)) := by
  obtain ⟨inside, found⟩ := List.getElem?_eq_some_iff.1 there
  have sameNames : (news.set place (address, bytes ++ more)).map Prod.fst = news.map Prod.fst := by
    have inside' : place < (news.map Prod.fst).length := by rwa [List.length_map]
    have name : (news.map Prod.fst)[place] = address := by rw [List.getElem_map, found]
    rw [List.map_set, ← name]
    exact List.set_getElem_self inside'
  refine ⟨by rw [accepted_send, gains.accepted, sameNames], fun number => ?_⟩
  rw [sentThrough_send, gains.sent, List.append_assoc]
  congr 1
  by_cases old : number < before.accepted.size
  · rw [if_pos old, if_pos old, if_neg (by omega)]
    rfl
  · rw [if_neg old, if_neg old]
    by_cases here : number = before.accepted.size + place
    · have samePlace : number - before.accepted.size = place := by omega
      rw [if_pos here, samePlace, there, List.getElem?_set_self inside]
      rfl
    · have other : place ≠ number - before.accepted.size := by omega
      rw [if_neg here, List.getElem?_set_ne other, List.append_nil]

end Gains

end Network

namespace Session

/-! ## Sessions on which nothing is on its way -/

/-- Nothing is on its way through a session, in either direction. -/
structure Quiet (session : Session) : Prop where
  owed : session.owed = 0
  unsent : ∀ {link : Link}, session.state = .connected link → link.unsent = []

/-- The world after bytes have left through a link. -/
def passed (link : Link) (bytes : Bytes) (world : World Network) : World Network :=
  { world with net := world.net.send link.number bytes }

theorem quiet_create (address : String) (timeout : Duration) : Quiet (create address timeout) :=
  ⟨rfl, nofun⟩

theorem quiet_shutdown (session : Session) : Quiet session.shutdown := ⟨rfl, nofun⟩

variable {session : Session} {world : World Network}

/-- A session on which nothing is on its way sends nothing when it is dropped. -/
theorem Quiet.abandon (quiet : session.Quiet) (world : World Network) :
    session.abandon world = world := by
  unfold Session.abandon
  split
  · next link stage => exact flushed_of_unsent_nil world (quiet.unsent stage)
  · rfl
  · rfl

theorem Quiet.close (quiet : session.Quiet) (world : World Network) :
    session.close world = (session.shutdown, world) := by
  rw [Session.close, quiet.abandon]

/-- A session has a link or dials for one, on which nothing is on its way, or it is closed. -/
theorem Quiet.link_cases (quiet : session.Quiet) (world : World Network) :
    (∃ link linked, session.link world =
        (.ok link, { session with state := .connected link }, linked) ∧ link.unsent = [] ∧
      ((session.state = .connected link ∧ linked = world) ∨
        (session.state = .idle ∧ session.dial world = (.ok link, linked)))) ∨
    ∃ error failed, session.link world = (.error error, { session with state := .closed }, failed) ∧
      ((session.state = .closed ∧ failed = world) ∨
        (session.state = .idle ∧ session.dial world = (.error error, failed))) := by
  rcases session.link_cases world with ⟨link, stage, out⟩ | ⟨stage, out⟩ |
    ⟨link, world', stage, dialed, out⟩ | ⟨error, world', stage, dialed, out⟩
  · refine Or.inl ⟨link, world, ?_, quiet.unsent stage, Or.inl ⟨stage, rfl⟩⟩
    rw [out, ← stage]
  · refine Or.inr ⟨.connectionClosed, world, ?_, Or.inl ⟨stage, rfl⟩⟩
    rw [out, ← stage]
  · obtain ⟨channel, -, rfl⟩ := dial_ok dialed
    exact Or.inl ⟨_, world', out, rfl, Or.inr ⟨stage, dialed⟩⟩
  · exact Or.inr ⟨error, world', out, Or.inr ⟨stage, dialed⟩⟩

/-! ## One command -/

section Asking

variable {link : Link} {linked : World Network}

/-- A command that is asked leaves through the link, and its reply is read or the session is closed. -/
theorem Quiet.ask_of_link (quiet : session.Quiet)
    (links : session.link world = (.ok link, { session with state := .connected link }, linked))
    (unsent : link.unsent = []) (name : String) (args : List Bytes) :
    (∃ reply input, Reply.readFrom link.ending link.input = (.ok reply, input) ∧
      session.ask name args world =
        (.ok reply, { session with state := .connected { link with unsent := [], input }, owed := 0 },
          passed link (frame name args) linked)) ∨
    ∃ error input, Reply.readFrom link.ending link.input = (.error error, input) ∧
      session.ask name args world = (.error error, session.shutdown,
        (passed link (frame name args) linked).report (.givenUp session.address error)) := by
  have frames : ([] ++ [frame name args]).flatten = frame name args := List.flatten_singleton
  rcases read : Reply.readFrom link.ending link.input with ⟨error | reply, input⟩
  · refine Or.inr ⟨error, input, rfl, ?_⟩
    simp only [ask, quiet.owed, Nat.lt_irrefl, if_false, send, links, unsent, receive, Nat.zero_add,
      Nat.one_ne_zero, flush, frames, read]
    rfl
  · refine Or.inl ⟨reply, input, rfl, ?_⟩
    simp only [ask, quiet.owed, Nat.lt_irrefl, if_false, send, links, unsent, receive, Nat.zero_add,
      Nat.one_ne_zero, flush, frames, read]
    rfl

theorem Quiet.ask_of_no_link (quiet : session.Quiet) {error : Error} {failed : World Network}
    (links : session.link world = (.error error, { session with state := .closed }, failed))
    (name : String) (args : List Bytes) :
    session.ask name args world = (.error error, { session with state := .closed }, failed) := by
  simp only [ask, quiet.owed, Nat.lt_irrefl, if_false, send, links]

/-- To exchange one command is to ask it. -/
theorem Quiet.exchange_singleton (quiet : session.Quiet) (command : Command) (world : World Network) :
    exchange [command] session world =
      match session.ask command.name command.args world with
      | (.ok reply, after, world') => (.ok (), [{ command with reply := some reply }], after, world')
      | (.error error, after, world') => (.error (.reported error), [command], after, world') := by
  rw [exchange_of_settled quiet.owed]
  simp only [roundTrip, sendAll, Connection.send, ask, quiet.owed, Nat.lt_irrefl, if_false]
  rcases session.send command.name command.args world with ⟨error | ⟨⟩, after, world'⟩
  · rfl
  · simp only [reported, Except.mapError, receiveAll, Connection.receive]
    rcases after.receive world' with ⟨error | reply, last, world''⟩
    · rfl
    · rfl

end Asking

/-! ## Commands exchanged at once -/

/-- What an exchange leaves of a session: it is closed, or connected by the link that it had. -/
structure Leaves (session : Session) (number : Nat) (after : Session) : Prop where
  quiet : after.Quiet
  address : after.address = session.address
  timeout : after.timeout = session.timeout
  stage : after.state = .closed ∨ ∃ link, after.state = .connected link ∧ link.number = number

/-- What has been queued for a link leaves when replies are received, however many of them come. -/
theorem receiveAll_leaves (commands : List Command) {session : Session} {link : Link}
    (stage : session.state = .connected link) (owed : session.owed = commands.length)
    (settled : commands = [] → link.unsent = []) (world : World Network) :
    ∃ result answered after log, receiveAll commands session world =
        (result, answered, after, ⟨(flushed link world).net, log⟩) ∧
      session.Leaves link.number after := by
  induction commands generalizing session link world with
  | nil =>
    refine ⟨.ok (), [], session, world.log, ?_, ?_⟩
    · rw [flushed_of_unsent_nil world (settled rfl)]
      rfl
    · refine ⟨⟨owed, fun stage' => ?_⟩, rfl, rfl, Or.inr ⟨link, stage, rfl⟩⟩
      cases stage.symm.trans stage'
      exact settled rfl
  | cons command rest others =>
    have owes : session.owed ≠ 0 := by rw [owed]; exact Nat.succ_ne_zero rest.length
    rcases read : Reply.readFrom link.ending link.input with ⟨error | reply, input⟩
    · have receives : Connection.receive session world = (.error (.reported error), session.shutdown,
          (flushed link world).report (.givenUp session.address error)) := by
        change reported (session.receive world) = _
        simp only [receive, if_neg owes, stage, flush, read]
        rfl
      refine ⟨.error (.reported error), command :: rest, session.shutdown,
        ((flushed link world).report (.givenUp session.address error)).log, ?_,
        quiet_shutdown session, rfl, rfl, Or.inl rfl⟩
      simp only [receiveAll, receives]
      rfl
    · let next : Link := { link with unsent := [], input }
      let received : Session :=
        { session with state := .connected next, owed := session.owed - 1 }
      have receives : Connection.receive session world = (.ok reply, received, flushed link world) := by
        change reported (session.receive world) = _
        simp only [receive, if_neg owes, stage, flush, read]
        rfl
      -- The first reply has flushed the link, so that the others have nothing left to send.
      have stage' : received.state = .connected next := rfl
      have fewer : received.owed = rest.length := congrArg (· - 1) owed
      obtain ⟨result, answered, after, log, more, leaves⟩ :=
        others stage' fewer (fun _ => rfl) (flushed link world)
      rw [flushed_of_unsent_nil (flushed link world) (rfl : next.unsent = [])] at more
      refine ⟨result, { command with reply := some reply } :: answered, after, log, ?_,
        leaves.quiet, leaves.address, leaves.timeout, leaves.stage⟩
      simp only [receiveAll, receives, more]

/-- All commands leave through the link, whatever the server answers. -/
theorem Quiet.exchange_of_link (quiet : session.Quiet) {link : Link} {linked : World Network}
    {commands : List Command} (nonempty : commands ≠ [])
    (links : (session.state = .connected link ∧ linked = world) ∨
      (session.state = .idle ∧ session.dial world = (.ok link, linked)))
    (unsent : link.unsent = []) :
    ∃ result answered after log, exchange commands session world =
        (result, answered, after,
          ⟨linked.net.send link.number (commands.flatMap Command.frame), log⟩) ∧
      session.Leaves link.number after := by
  let connected : Session := { session with state := .connected link }
  have opened : exchange commands session world = exchange commands connected linked := by
    rcases links with ⟨stage, rfl⟩ | ⟨stage, dials⟩
    · have same : { session with state := .connected link } = session := by rw [← stage]
      rw [show connected = session from same]
    · exact exchange_of_dial stage quiet.owed dials nonempty
  have stage : connected.state = .connected link := rfl
  have owed : Connection.owed connected = 0 := quiet.owed
  have sent := sendAll_of_sends (sends_of_connected commands stage linked)
  let queued : Session := { connected with
    state := .connected (queueAll link commands), owed := connected.owed + commands.length }
  have owed' : queued.owed = commands.length := by
    change session.owed + commands.length = _
    rw [quiet.owed, Nat.zero_add]
  obtain ⟨result, answered, after, log, receives, leaves⟩ :=
    receiveAll_leaves commands (rfl : queued.state = .connected (queueAll link commands)) owed'
      (fun none => absurd none nonempty) linked
  have frames : (queueAll link commands).unsent.flatten = commands.flatMap Command.frame := by
    rw [queueAll, unsent, List.nil_append, List.flatMap_def]
  refine ⟨result, answered, after, log, ?_, leaves.quiet, leaves.address, leaves.timeout, leaves.stage⟩
  rw [opened, exchange_of_settled owed]
  simp only [roundTrip, sent]
  refine receives.trans ?_
  rw [← frames]
  rfl

end Session

end RespClient.Tcp
