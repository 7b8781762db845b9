import RespClient.CommandLine
import RespClient.Proofs.WatchedSessions

/-!
# Single commands

What the program does with one command, as told by the network (`Ran`). In the lazy mode it dials the first
server, and sends the command if it gets through. In the aggressive mode it dials the servers in turn and
sends a `PING` to each (`Pinged`), until there are as many connections as it was asked for, and then sends the
command through the first of them; or until a server does not answer as it should (`Unanswered`), and
then it gives up.

To count the dials, the program is run over sessions that are watched, which changes nothing else
(`runCommand_watched`). Whatever is left of the sessions in the end, nothing is on its way through them, so
that nothing is sent when the pool takes one back (`checkIn_quiet`) and closes (`stop_quiet`).

`runs_one_command` is the main statement.
-/

namespace RespClient.CommandLine

open Pool (SetUps SetUpFails Started)
open Tcp (Network Session Watched Watch)

/-! ## The program over any connections -/

/-- How the program ends with what has become of its command. -/
def ended (result : Except Failure Unit) (commands : List Command) : Outcome :=
  match result with
  | .error failure => .ofFailure failure
  | .ok () =>
    match commands.head?.bind Command.reply with
    | some reply => .answered reply
    | none => .unanswered

section Programs

variable {C D Net Mirror : Type}

/-- Executes one command over a pool of connections of this type. -/
def runOver (C : Type) {Net : Type} [Connection C Net] (config : Pool.Config) (command : Command)
    (world : World Net) : Outcome × World Net :=
  match ({ config } : Pool C).start world with
  | (.error failure, _, world) => (.ofFailure failure, world)
  | (.ok (), pool, world) =>
    let (result, commands, pool, world) := pool.exchange [command] world
    (ended result commands, (pool.stop world).2)

theorem runCommand_eq_runOver (config : Pool.Config) (command : Command) (world : TcpWorld) :
    runCommand config command world = runOver Session config command world := by
  rcases starts : ({ config } : Pool Session).start world with ⟨failure | ⟨⟩, pool, world'⟩
  · simp only [runCommand, runOver, starts]
  · simp only [runCommand, runOver, starts]
    rcases pool.exchange [command] world' with ⟨failure | ⟨⟩, commands, pool', world''⟩
    · rfl
    · rcases reply? : commands.head?.bind Command.reply with _ | reply
      · simp only [ended, reply?]
      · simp only [ended, reply?]

/-- What is seen of the program over some connections is the program over what is seen of them. -/
theorem runOver_view [Connection D Mirror] [Connection C Net] (view : Connection.View D C)
    (config : Pool.Config) (command : Command) (world : World Mirror) :
    runOver C config command (world.map view.net) =
      ((runOver D config command world).1, (runOver D config command world).2.map view.net) := by
  have starts := Pool.start_view view ({ config } : Pool D) world
  rw [show (({ config } : Pool D).map view.bare) = { config } from rfl] at starts
  unfold runOver
  rw [starts]
  rcases ({ config } : Pool D).start world with ⟨failure | ⟨⟩, pool, world'⟩
  · rfl
  · have exchanges := Pool.exchange_pool_view view [command] pool world'
    dsimp only
    rw [exchanges]
    rcases pool.exchange [command] world' with ⟨result, commands, pool', world''⟩
    dsimp only
    rw [Pool.stop_view]

end Programs

/-- Apart from what is dialed, the program does the same over sessions that are watched. -/
theorem runCommand_watched (config : Pool.Config) (command : Command) (world : TcpWorld) :
    runCommand config command world =
      ((runOver Watched config command (Tcp.watching world)).1,
        (runOver Watched config command (Tcp.watching world)).2.map Watch.net) :=
  (runCommand_eq_runOver config command world).trans
    (runOver_view Watched.view config command (Tcp.watching world))

/-! ## Connections on which nothing is on its way -/

theorem close_quiet {connection : Watched} (quiet : connection.session.Quiet) (world : World Watch) :
    Connection.close connection world = (.ok (), ⟨connection.session.shutdown⟩, world) := by
  change Watched.call .close _ connection world = _
  simp only [Watched.call, Connection.close, quiet.close, Tcp.Session.Operation.dials,
    List.append_nil]
  rfl

theorem closeAll_quiet {connections : List Watched}
    (quiet : ∀ connection ∈ connections, connection.session.Quiet) (world : World Watch) :
    Pool.closeAll connections world = world := by
  induction connections generalizing world with
  | nil => rfl
  | cons connection rest others =>
    obtain ⟨first, later⟩ := List.forall_mem_cons.1 quiet
    simp only [Pool.closeAll, close_quiet first]
    exact others later world

theorem stop_quiet {pool : Pool Watched}
    (quiet : ∀ connection ∈ pool.stored, connection.session.Quiet) (world : World Watch) :
    (pool.stop world).2.net = world.net := by
  rcases pool with ⟨config, _ | opened⟩
  · rfl
  · have closes : Pool.closeAll opened.idle.available world = world := closeAll_quiet quiet world
    change (Pool.closeAll opened.idle.available world).net = world.net
    rw [closes]

theorem renewal_quiet {config : Pool.Config} {connection renewed : Watched}
    {world before : World Watch} (quiet : connection.session.Quiet)
    (renewal : Pool.Renewal config connection world renewed before) :
    renewed.session.Quiet ∧ before = world := by
  cases renewal with
  | unchanged => exact ⟨quiet, rfl⟩
  | ofClosed closed creates =>
    cases creates
    exact ⟨Tcp.Session.quiet_create .., rfl⟩
  | ofOwing owes => exact absurd quiet.owed (Nat.ne_of_gt owes)

/-- A connection on which nothing is on its way is taken back without a word to its server. -/
theorem checkIn_quiet {pool : Pool Watched} (opened : pool.isOpen = true)
    (all : ∀ other ∈ pool.stored, other.session.Quiet) {connection : Watched}
    (quiet : connection.session.Quiet) (world : World Watch) :
    (pool.checkIn connection world).2.net = world.net ∧
      ∀ other ∈ (pool.checkIn connection world).1.stored, other.session.Quiet := by
  obtain ⟨renewed, before, renewal, ⟨-, stores, out⟩ | ⟨-, stores, out⟩⟩ :=
    Pool.checkIn_of_open Watched.closes opened connection world
  all_goals
    obtain ⟨quiet', rfl⟩ := renewal_quiet quiet renewal
    rw [stores, out]
  · exact ⟨rfl, List.forall_mem_append.2 ⟨all, List.forall_mem_singleton.2 quiet'⟩⟩
  · rw [close_quiet quiet']
    exact ⟨rfl, all⟩

/-! ## The exchange of the command -/

/-- What the program writes for what it reads as a reply, and how it ends. -/
def Shows (read : Except Error Reply) (outcome : Outcome) : Prop :=
  match read with
  | .ok reply => outcome.code = 0 ∧ outcome.stdout = unlines (replyLines "" reply)
  | .error _ => outcome.code = 1 ∧ outcome.stdout = ""

/-- An exchange of one command dials if its session has to. -/
theorem exchange_watched {session : Session} (quiet : session.Quiet) (command : Command)
    (world : World Watch) :
    let bare := exchange [command] session (world.map Watch.net)
    exchange [command] (⟨session⟩ : Watched) world =
      (bare.1, bare.2.1, ⟨bare.2.2.1⟩,
        ⟨{ net := bare.2.2.2.net, dialed := world.net.dialed ++ session.dialsForLink },
          bare.2.2.2.log⟩) := by
  intro bare
  have owed : Connection.owed (⟨session⟩ : Watched) = 0 := quiet.owed
  have sends : Connection.send command.name command.args (⟨session⟩ : Watched) world =
      Watched.call (.send command.name command.args)
        (Connection.send command.name command.args) ⟨session⟩ world := rfl
  have sent : bare = roundTrip [command] session (world.map Watch.net) :=
    exchange_of_settled quiet.owed [command] (world.map Watch.net)
  rw [exchange_of_settled owed, sent]
  simp only [roundTrip, sendAll, sends, Watched.call, Tcp.Session.Operation.dials]
  rcases Connection.send command.name command.args session (world.map Watch.net) with
    ⟨failure | ⟨⟩, after, world'⟩
  · rfl
  · have receives (world : World Watch) : Connection.receive (⟨after⟩ : Watched) world =
        Watched.call .receive Connection.receive ⟨after⟩ world := rfl
    have here (dialed : List String) :
        World.map Watch.net ⟨{ net := world'.net, dialed }, world'.log⟩ = world' := rfl
    simp only [receiveAll, receives, Watched.call, here, Tcp.Session.Operation.dials, List.append_nil]
    rcases Connection.receive after world' with ⟨failure | reply, last, world''⟩
    · rfl
    · rfl

/-- The command leaves through the link of its session, and the program shows the reply that is read; or there
is no link. -/
theorem exchange_cases {session : Session} (quiet : session.Quiet) (command : Command)
    (world : World Watch) :
    let out := exchange [command] (⟨session⟩ : Watched) world
    out.2.2.1.session.Quiet ∧ out.2.2.2.net.dialed = world.net.dialed ++ session.dialsForLink ∧
    ((∃ link linked, ((session.state = .connected link ∧ linked = world.map Watch.net) ∨
        (session.state = .idle ∧ session.dial (world.map Watch.net) = (.ok link, linked))) ∧
      out.2.2.2.net.net = linked.net.send link.number command.frame ∧
      Shows (Reply.readFrom link.ending link.input).1 (ended out.1 out.2.1)) ∨
    ∃ error failed, ((session.state = .closed ∧ failed = world.map Watch.net) ∨
        (session.state = .idle ∧ session.dial (world.map Watch.net) = (.error error, failed))) ∧
      out.2.2.2.net.net = failed.net ∧ ended out.1 out.2.1 = .failed error) := by
  intro out
  have single := quiet.exchange_singleton command (world.map Watch.net)
  have watched : out = _ := exchange_watched quiet command world
  rcases quiet.link_cases (world.map Watch.net) with
    ⟨link, linked, links, unsent, stage⟩ | ⟨error, failed, links, stage⟩
  · rcases quiet.ask_of_link links unsent command.name command.args with
      ⟨reply, input, read, asks⟩ | ⟨error, input, read, asks⟩
    · simp only [asks] at single
      rw [single] at watched
      have shows : Shows (Reply.readFrom link.ending link.input).1 (.answered reply) := by
        rw [read]
        exact ⟨rfl, rfl⟩
      rw [watched]
      exact ⟨⟨rfl, fun stage => by cases stage; rfl⟩, rfl,
        Or.inl ⟨link, linked, stage, rfl, shows⟩⟩
    · simp only [asks] at single
      rw [single] at watched
      have shows : Shows (Reply.readFrom link.ending link.input).1 (.failed error) := by
        rw [read]
        exact ⟨rfl, rfl⟩
      rw [watched]
      exact ⟨Tcp.Session.quiet_shutdown session, rfl, Or.inl ⟨link, linked, stage, rfl, shows⟩⟩
  · simp only [quiet.ask_of_no_link links command.name command.args] at single
    rw [single] at watched
    rw [watched]
    exact ⟨⟨quiet.owed, nofun⟩, rfl, Or.inr ⟨error, failed, stage, rfl, rfl⟩⟩

/-- If the pool opens, then the command is exchanged on its first connection, and nothing else is done. -/
theorem runOver_of_start {config : Pool.Config} {pool : Pool Watched} {first : Watched}
    {rest : List Watched} {world world' : World Watch}
    (starts : ({ config } : Pool Watched).start world = (.ok (), pool, world'))
    (stored : pool.stored = first :: rest) (quiet : ∀ other ∈ pool.stored, other.session.Quiet)
    (command : Command) :
    (runOver Watched config command world).1 =
        ended (exchange [command] first world').1 (exchange [command] first world').2.1 ∧
      (runOver Watched config command world).2.net = (exchange [command] first world').2.2.2.net := by
  rcases pool with ⟨config', _ | ⟨⟨capacity, available⟩, rotation⟩⟩
  · cases stored
  · cases stored
    let others : Pool Watched := ⟨config', some ⟨⟨capacity, rest⟩, rotation⟩⟩
    have lent : Pool.checkOut (⟨config', some ⟨⟨capacity, first :: rest⟩, rotation⟩⟩ : Pool Watched) =
        .ok (first, others) := rfl
    obtain ⟨firstQuiet, restQuiet⟩ := List.forall_mem_cons.1 quiet
    obtain ⟨quiet', -, -⟩ := exchange_cases firstQuiet command world'
    obtain ⟨kept, allQuiet⟩ := checkIn_quiet (rfl : others.isOpen = true) restQuiet quiet'
      (exchange [command] first world').2.2.2
    simp only [runOver, starts, Pool.exchange, lent]
    exact ⟨trivial, (stop_quiet allQuiet _).trans kept⟩

/-! ## Servers that are dialed in turn -/

/-- Servers that are dialed in turn, from a turn on, and each answer a first `PING` as they should. The links have
the rest of what they send. -/
inductive Pinged (config : Pool.Config) : Nat → Network → List Tcp.Link → Network → Prop where
  | none {turn : Nat} {net : Network} : Pinged config turn net [] net
  | next {turn : Nat} {net dialed net' : Network} {channel : Network.Channel} {input : Input}
    {links : List Tcp.Link}
    (dials : net.dial (config.addressAt turn) config.connectionTimeout = (.ok channel, dialed))
    (answers : Reply.readFrom channel.ending { unread := channel.stream } =
      (.ok (.status "PONG"), input))
    (more : Pinged config (turn + 1) (dialed.send channel.number Command.ping.frame) links net') :
    Pinged config turn net (⟨channel.number, input, channel.ending, []⟩ :: links) net'

/-- The server whose turn it is cannot be dialed, or does not answer a `PING` as it should; with the connection
that it accepted, if it did, and the error. -/
inductive Unanswered (config : Pool.Config) (turn : Nat) (net : Network) :
    List (String × Bytes) → Error → Prop where
  | unreachable {error : Error} {failed : Network}
    (dials : net.dial (config.addressAt turn) config.connectionTimeout = (.error error, failed)) :
    Unanswered config turn net [] error
  | unreadable {channel : Network.Channel} {dialed : Network} {input : Input} {error : Error}
    (dials : net.dial (config.addressAt turn) config.connectionTimeout = (.ok channel, dialed))
    (fails : Reply.readFrom channel.ending { unread := channel.stream } = (.error error, input)) :
    Unanswered config turn net [(config.addressAt turn, Command.ping.frame)] error
  | wrong {channel : Network.Channel} {dialed : Network} {input : Input} {reply : Reply}
    (dials : net.dial (config.addressAt turn) config.connectionTimeout = (.ok channel, dialed))
    (answers : Reply.readFrom channel.ending { unread := channel.stream } = (.ok reply, input))
    (notPong : reply ≠ .status "PONG") :
    Unanswered config turn net [(config.addressAt turn, Command.ping.frame)]
      (.unexpectedReply .pong reply.summary)

section Probes

variable {config : Pool.Config} {turn : Nat} {world : World Network}

/-- A new session that is probed dials, and sends a `PING`. -/
theorem probe_create (config : Pool.Config) (turn : Nat) (world : World Network) :
    let session := Session.create (config.addressAt turn) config.connectionTimeout
    (∃ channel dialed input world',
      world.net.dial (config.addressAt turn) config.connectionTimeout = (.ok channel, dialed) ∧
      Reply.readFrom channel.ending { unread := channel.stream } = (.ok (.status "PONG"), input) ∧
      world'.net = dialed.send channel.number Command.ping.frame ∧
      session.probe world = (.ok (),
        { session with state := .connected ⟨channel.number, input, channel.ending, []⟩ }, world')) ∨
    ∃ news error after world', Unanswered config turn world.net news error ∧ after.Quiet ∧
      Network.Gains world.net world'.net news ∧ session.probe world = (.error error, after, world') := by
  intro session
  have quiet : session.Quiet := Tcp.Session.quiet_create ..
  have notOpen : ¬ session.isOpen = true := Bool.false_ne_true
  rcases dials : world.net.dial (config.addressAt turn) config.connectionTimeout with
    ⟨error | channel, dialed⟩
  · let failed : World Network := { world with net := dialed }
    have links : session.link world = (.error error, { session with state := .closed }, failed) := by
      simp only [Session.link, session, Session.create, Session.dial, dials, failed]
    have asks := quiet.ask_of_no_link links "PING" []
    have probes : session.probe world = (.error error, { session with state := .closed }, failed) := by
      simp only [Session.probe, if_neg notOpen, asks]
    exact Or.inr ⟨[], error, session.shutdown, failed, .unreachable dials,
      Tcp.Session.quiet_shutdown session, .of_dial_error dials, probes⟩
  · let link : Tcp.Link := ⟨channel.number, { unread := channel.stream }, channel.ending, []⟩
    let linked := ({ world with net := dialed } : World Network).report (.connected session.address)
    let pinged := Session.passed link Command.ping.frame linked
    have links : session.link world = (.ok link, { session with state := .connected link }, linked) := by
      simp only [Session.link, session, Session.create, Session.dial, dials, link, linked]
    have gains : Network.Gains world.net pinged.net
        [(config.addressAt turn, Command.ping.frame)] := .of_dial dials Command.ping.frame
    rcases quiet.ask_of_link links rfl "PING" [] with
      ⟨reply, input, read, asks⟩ | ⟨error, input, read, asks⟩
    · rcases Tcp.Session.probe_cases session world with
        ⟨opened, -⟩ | ⟨error, after, world', -, fails, -⟩ | ⟨after, world', -, pong, probes⟩ |
          ⟨other, after, world', -, notPong, answers, probes⟩
      · exact absurd opened notOpen
      · cases asks.symm.trans fails
      · cases asks.symm.trans pong
        exact Or.inl ⟨channel, dialed, input, _, rfl, read, rfl, probes⟩
      · cases asks.symm.trans answers
        let error := Error.unexpectedReply .pong reply.summary
        exact Or.inr ⟨_, error, session.shutdown, pinged.report (.givenUp session.address error),
          .wrong dials read notPong, Tcp.Session.quiet_shutdown session, gains, probes⟩
    · have probes : session.probe world = (.error error, session.shutdown,
          pinged.report (.givenUp session.address error)) := by
        simp only [Session.probe, if_neg notOpen, asks]
        rfl
      exact Or.inr ⟨_, error, session.shutdown, pinged.report (.givenUp session.address error),
        .unreadable dials read, Tcp.Session.quiet_shutdown session, gains, probes⟩

theorem probe_watched (address : String) (timeout : Duration) (world : World Watch) :
    let probed := (Session.create address timeout).probe (world.map Watch.net)
    Connection.probe (⟨.create address timeout⟩ : Watched) world = (probed.1, ⟨probed.2.1⟩,
      ⟨{ net := probed.2.2.net, dialed := world.net.dialed ++ [address] }, probed.2.2.log⟩) := rfl

/-- Connections that are set up aggressively are those of servers that answer a `PING` in turn. -/
theorem pinged_of_setUps {world world' : World Watch} {made : List Watched}
    (mode : config.mode = .aggressive) (setUps : SetUps config turn world made world') :
    ∃ links, Pinged config turn world.net.net links world'.net.net ∧
      made.map (fun connection => connection.session.state) = links.map Tcp.State.connected ∧
      (∀ connection ∈ made, connection.session.Quiet) ∧
      world'.net.dialed =
        world.net.dialed ++ (config.turnsFrom turn made.length).map Prod.fst := by
  induction setUps with
  | none => exact ⟨[], .none, rfl, List.forall_mem_nil _, (List.append_nil _).symm⟩
  | creates mode' => cases mode.symm.trans mode'
  | @probes turn fresh connection rest world world₁ world₂ world' _ created answers _ more =>
    cases created
    have watched := probe_watched (config.addressAt turn) config.connectionTimeout world
    rcases probe_create config turn (world.map Watch.net) with
      ⟨channel, dialed, input, next, dials, pong, sent, probes⟩ | ⟨news, error, after, next, -, -, -, probes⟩
    · rw [probes] at watched
      cases watched.symm.trans answers
      obtain ⟨links, pinged, stages, quiet, dialed'⟩ := more
      dsimp only at pinged dialed'
      rw [sent] at pinged
      refine ⟨_, .next dials pong pinged, congrArg (_ :: ·) stages, List.forall_mem_cons.2
        ⟨⟨rfl, fun stage => by cases stage; rfl⟩, quiet⟩, ?_⟩
      rw [dialed', List.length_cons, Pool.Config.turnsFrom_succ, List.append_assoc]
      rfl
    · rw [probes] at watched
      cases watched.symm.trans answers

theorem unanswered_of_fails {world world' : World Watch} {error : Error} {dropped : Watched}
    (fails : SetUpFails config turn world error dropped world') :
    ∃ news, Unanswered config turn world.net.net news error ∧
      Network.Gains world.net.net world'.net.net news ∧
      world'.net.dialed = world.net.dialed ++ [config.addressAt turn] := by
  cases fails with
  | @fails fresh lost dropped error result world₁ world₂ world' mode created unanswered closes =>
    cases created
    have watched := probe_watched (config.addressAt turn) config.connectionTimeout world
    rcases probe_create config turn (world.map Watch.net) with
      ⟨channel, dialed, input, next, dials, pong, sent, probes⟩ |
        ⟨news, error, after, next, missed, quiet, gains, probes⟩
    · rw [probes] at watched
      cases watched.symm.trans unanswered
    · rw [probes] at watched
      cases watched.symm.trans unanswered
      rw [close_quiet quiet] at closes
      cases closes
      exact ⟨news, missed, gains, rfl⟩

end Probes

/-- What servers gain that are sent a `PING` in turn, from a turn on. -/
def pings (config : Pool.Config) (turn count : Nat) : List (String × Bytes) :=
  (List.range' turn count).map fun turn => (config.addressAt turn, Command.ping.frame)

theorem pings_succ (config : Pool.Config) (turn count : Nat) : pings config turn (count + 1) =
    (config.addressAt turn, Command.ping.frame) :: pings config (turn + 1) count := by
  rw [pings, List.range'_succ]
  rfl

namespace Pinged

variable {config : Pool.Config} {turn : Nat} {net net' : Network} {links : List Tcp.Link}

/-- Each server has accepted a connection more, and was sent a `PING`, and nothing else. -/
theorem gains (pinged : Pinged config turn net links net') :
    Network.Gains net net' (pings config turn links.length) := by
  induction pinged with
  | none => exact .refl _
  | next dials answers more others =>
    rw [List.length_cons, pings_succ]
    exact (Network.Gains.of_dial dials Command.ping.frame).trans others

theorem number_of_first {first : Tcp.Link} (pinged : Pinged config turn net (first :: links) net') :
    first.number = net.accepted.size := by
  cases pinged with
  | next dials answers more => exact (Network.dial_ok dials).1

end Pinged

/-! ## Runs of the program -/

/-- Connections that are set up lazily have not been dialed. -/
theorem created_of_setUps {config : Pool.Config} {turn : Nat} {world world' : World Watch}
    {made : List Watched} (mode : config.mode = .lazy)
    (setUps : SetUps config turn world made world') :
    world' = world ∧ (∀ connection ∈ made, connection.session.Quiet) ∧
      ∀ {first : Watched}, made.head? = some first →
        first.session = .create (config.addressAt turn) config.connectionTimeout := by
  refine ⟨setUps.quiet (fun _ _ _ => rfl) mode, ?_, ?_⟩
  · induction setUps with
    | none => exact List.forall_mem_nil _
    | creates mode' created _ more =>
      cases created
      exact List.forall_mem_cons.2 ⟨Tcp.Session.quiet_create .., more⟩
    | probes mode' => cases mode.symm.trans mode'
  · intro first head
    cases setUps with
    | none => cases head
    | creates mode' created =>
      cases created
      cases head
      rfl
    | probes mode' => cases mode.symm.trans mode'

theorem addresses_turnsFrom (config : Pool.Config) (count : Nat) :
    (config.turnsFrom 0 count).map Prod.fst = (List.range count).map config.addressAt := by
  rw [Pool.Config.turnsFrom, List.map_map, List.range_eq_range']
  rfl

/-- What the program can do for one command over a network: the addresses that it dials, in order, the
connections that were accepted with what is sent through them, and how it ends. -/
inductive Ran (config : Pool.Config) (command : Command) (net : Network) :
    List String → List (String × Bytes) → Outcome → Prop where
  /-- The first server is dialed, and the command is sent. -/
  | sent {channel : Network.Channel} {dialed : Network} {outcome : Outcome}
    (mode : config.mode = .lazy)
    (dials : net.dial (config.addressAt 0) config.connectionTimeout = (.ok channel, dialed))
    (shows : Shows (Reply.readFrom channel.ending { unread := channel.stream }).1 outcome) :
    Ran config command net [config.addressAt 0] [(config.addressAt 0, command.frame)] outcome
  | unreachable {error : Error} {failed : Network} (mode : config.mode = .lazy)
    (dials : net.dial (config.addressAt 0) config.connectionTimeout = (.error error, failed)) :
    Ran config command net [config.addressAt 0] [] (.failed error)
  /-- A server does not answer its `PING`. -/
  | aborted {links : List Tcp.Link} {pinged : Network} {last : List (String × Bytes)} {error : Error}
    (mode : config.mode = .aggressive) (before : Pinged config 0 net links pinged)
    (early : links.length < config.capacity)
    (fails : Unanswered config links.length pinged last error) :
    Ran config command net ((List.range (links.length + 1)).map config.addressAt)
      (pings config 0 links.length ++ last) (.failed error)
  /-- All servers answer, and the command is sent through the first connection. -/
  | sentFirst {first : Tcp.Link} {others : List Tcp.Link} {pinged : Network} {outcome : Outcome}
    (mode : config.mode = .aggressive) (all : Pinged config 0 net (first :: others) pinged)
    (complete : others.length + 1 = config.capacity)
    (shows : Shows (Reply.readFrom first.ending first.input).1 outcome) :
    Ran config command net ((List.range config.capacity).map config.addressAt)
      ((config.addressAt 0, Command.ping.frame ++ command.frame) :: pings config 1 others.length) outcome

section Runs

variable {config : Pool.Config} {world world' : World Watch} {made : List Watched}

/-- An exchange on a connection that has not been dialed. -/
theorem ran_lazily (mode : config.mode = .lazy) (command : Command) (world : World Watch)
    (undialed : world.net.dialed = []) :
    let first : Watched := ⟨.create (config.addressAt 0) config.connectionTimeout⟩
    let out := exchange [command] first world
    ∃ news, Network.Gains world.net.net out.2.2.2.net.net news ∧
      Ran config command world.net.net out.2.2.2.net.dialed news (ended out.1 out.2.1) := by
  intro first out
  obtain ⟨-, dialed, ⟨link, linked, ⟨stage, -⟩ | ⟨-, dials⟩, sent, shows⟩ |
      ⟨error, failed, ⟨stage, -⟩ | ⟨-, dials⟩, sent, fails⟩⟩ :=
    exchange_cases (Tcp.Session.quiet_create _ _) command world
  · cases stage
  · obtain ⟨channel, found, rfl⟩ := Tcp.Session.dial_ok dials
    rw [dialed, undialed, sent]
    exact ⟨_, .of_dial found command.frame, .sent mode found shows⟩
  · cases stage
  · have inVain := Tcp.Session.dial_error dials
    rw [dialed, undialed, sent, fails]
    exact ⟨_, .of_dial_error inVain, .unreachable mode inVain⟩

/-- An exchange on the first of the connections that answered. -/
theorem ran_aggressively (mode : config.mode = .aggressive) (command : Command) {net : Network}
    {world : World Watch} {link : Tcp.Link} {others : List Tcp.Link} {first : Watched}
    (all : Pinged config 0 net (link :: others) world.net.net)
    (complete : others.length + 1 = config.capacity) (quiet : first.session.Quiet)
    (connected : first.session.state = .connected link)
    (before : world.net.dialed = (List.range config.capacity).map config.addressAt) :
    let out := exchange [command] first world
    ∃ news, Network.Gains net out.2.2.2.net.net news ∧
      Ran config command net out.2.2.2.net.dialed news (ended out.1 out.2.1) := by
  intro out
  have noDial : first.session.dialsForLink = [] := by
    rw [Tcp.Session.dialsForLink, connected]
  obtain ⟨-, dialed, ⟨link', linked, ⟨stage, rfl⟩ | ⟨stage, -⟩, sent, shows⟩ |
      ⟨error, failed, ⟨stage, -⟩ | ⟨stage, -⟩, -⟩⟩ := exchange_cases quiet command world
  · cases connected.symm.trans stage
    have gains := all.gains
    rw [List.length_cons, pings_succ] at gains
    have there : ((config.addressAt 0, Command.ping.frame) :: pings config 1 others.length)[0]? =
        some (config.addressAt 0, Command.ping.frame) := rfl
    rw [dialed, before, noDial, List.append_nil, sent, all.number_of_first]
    exact ⟨_, gains.send there command.frame, .sentFirst mode all complete shows⟩
  · cases connected.symm.trans stage
  · cases connected.symm.trans stage
  · cases connected.symm.trans stage

/-- A server does not answer its `PING`, and the pool does not open. -/
theorem ran_unanswered (command : Command) {world world₁ world' : World Watch} {error : Error}
    {dropped : Watched} (undialed : world.net.dialed = []) (before : SetUps config 0 world made world₁)
    (early : made.length < config.capacity)
    (fails : SetUpFails config made.length world₁ error dropped world') :
    ∃ news, Network.Gains world.net.net world'.net.net news ∧
      Ran config command world.net.net world'.net.dialed news (.failed error) := by
  have mode : config.mode = .aggressive := by cases fails; assumption
  obtain ⟨links, pinged, stages, -, dialedBefore⟩ := pinged_of_setUps mode before
  obtain ⟨last, missed, lastGains, dialedLast⟩ := unanswered_of_fails fails
  have count : made.length = links.length := by
    simpa using congrArg List.length stages
  have dialed : world'.net.dialed = (List.range (links.length + 1)).map config.addressAt := by
    rw [dialedLast, dialedBefore, undialed, count, addresses_turnsFrom, List.range_succ,
      List.map_append]
    rfl
  rw [dialed]
  rw [count] at early missed
  exact ⟨pings config 0 links.length ++ last, pinged.gains.trans lastGains,
    .aborted mode pinged early missed⟩

/-- What the program does if there is room for its pool. -/
theorem ran (valid : config.check = .ok ()) (room : config.capacity ≤ maxRoom) (command : Command)
    (world : TcpWorld) :
    let out := runOver Watched config command (Tcp.watching world)
    ∃ news, Network.Gains world.net out.2.net.net news ∧
      Ran config command world.net out.2.net.dialed news out.1 := by
  intro out
  let pool : Pool Watched := { config }
  obtain ⟨listed, starts⟩ := Pool.started Watched.closes pool (Tcp.watching world)
  rcases started : pool.start (Tcp.watching world) with ⟨result, opened, world'⟩
  rw [started] at starts
  cases starts with
  | invalid faulty => cases valid.symm.trans faulty
  | alreadyOpen _ opened => cases opened
  | tooLarge _ _ large => exact absurd large (Nat.not_lt.2 room)
  | @aborts made error dropped world₁ world' _ _ before early fails _ =>
    have ends : out = (.failed error, world') := by
      simp only [out, runOver, pool, started]
      rfl
    rw [ends]
    exact ran_unanswered command rfl before early fails
  | @opens made rotation world' _ _ all complete _ =>
    have nonempty : made ≠ [] := by
      rintro rfl
      exact Pool.Config.capacity_of_check valid complete.symm
    obtain ⟨first, rest, rfl⟩ := List.exists_cons_of_ne_nil nonempty
    let entry := LogEntry.poolOpened config.capacity config.addresses.length config.mode
    cases mode : config.mode with
    | lazy =>
      obtain ⟨rfl, quiet, head⟩ := created_of_setUps mode all
      obtain ⟨outcome, left⟩ := runOver_of_start started rfl quiet command
      have created : first = ⟨.create (config.addressAt 0) config.connectionTimeout⟩ :=
        congrArg Watched.mk (head rfl)
      rw [outcome, left, created]
      exact ran_lazily mode command ((Tcp.watching world).report entry) rfl
    | aggressive =>
      obtain ⟨links, pinged, stages, quiet, dialedBefore⟩ := pinged_of_setUps mode all
      obtain ⟨outcome, left⟩ := runOver_of_start started rfl quiet command
      obtain ⟨link, others, rfl⟩ : ∃ link others, links = link :: others := by
        cases links with
        | nil => cases stages
        | cons link others => exact ⟨link, others, rfl⟩
      obtain ⟨connected, stages'⟩ := List.cons.inj stages
      have count : rest.length = others.length := by simpa using congrArg List.length stages'
      rw [complete, addresses_turnsFrom] at dialedBefore
      rw [outcome, left]
      exact ran_aggressively mode command pinged (count ▸ complete) (quiet first (List.mem_cons_self ..))
        connected dialedBefore

end Runs

/-- **The program runs one command.** It dials, sends and ends as `Ran` says, and nothing else is accepted or sent.
Lazily it dials the first server only, and sends the frame of the command if it gets through. Aggressively it dials
the servers in turn and sends each a `PING`, up to the first one that does not answer as it should, or to as many
connections as the pool holds; in the first case the command is not sent and the exit code is 1, and in the second
its frame follows the `PING` on the first connection. Once the command has been sent, the exit code is 0 if and only
if its reply can be read, and then the reply is what is written. -/
theorem runs_one_command {arguments : List String} {invocation : Invocation} {command : Command}
    (asked : Invocation.ofArguments arguments = .ok invocation)
    (single : invocation.task = .one command) (valid : invocation.pool.check = .ok ())
    (room : invocation.pool.capacity ≤ maxRoom) (world : TcpWorld) :
    let out := run arguments world
    let watched := runOver Watched invocation.pool command (Tcp.watching world)
    out = (watched.1, watched.2.map Watch.net) ∧
    ∃ news, Ran invocation.pool command world.net watched.2.net.dialed news out.1 ∧
      Network.Gains world.net out.2.net news := by
  intro out watched
  have same : out = (watched.1, watched.2.map Watch.net) := by
    simp only [out, run, asked, Invocation.run, single]
    exact runCommand_watched invocation.pool command world
  obtain ⟨news, gains, ran⟩ := ran valid room command world
  refine ⟨same, news, ?_, ?_⟩
  · rw [same]
    exact ran
  · rw [same]
    exact gains

/-- Two connections to a server that answers on both of them, and to one that refuses the second. -/
theorem runs_one_command_instance :
    let arguments := ["-s", "localhost:6379", "-p", "2", "-m", "aggressive", "get", "k"]
    let command := (Request.get (utf8 "k")).command
    let config : Pool.Config :=
      { capacity := 2, addresses := ["localhost:6379"], timeout := .ofSeconds 0, mode := .aggressive }
    let world : TcpWorld :=
      ⟨{ routed := true, servers :=
          [⟨"localhost:6379", [utf8 "+PONG\r\n$1\r\nv\r\n", utf8 "+PONG\r\n"], .closed⟩] }, #[]⟩
    let refusing : TcpWorld :=
      ⟨{ world.net with incidents := [none, some (.failed .connectionRefused)] }, #[]⟩
    let out := run arguments world
    let watched := runOver Watched config command (Tcp.watching world)
    let refused := run arguments refusing
    let watched' := runOver Watched config command (Tcp.watching refusing)
    Invocation.ofArguments arguments = .ok ⟨config, .one command⟩ ∧ config.check = .ok () ∧
    config.capacity ≤ maxRoom ∧ out.1 = .answered (.bulk (utf8 "v")) ∧
    watched.2.net.dialed = ["localhost:6379", "localhost:6379"] ∧
    (∃ news, Ran config command world.net watched.2.net.dialed news out.1 ∧
      Network.Gains world.net out.2.net news) ∧
    out.2.net.sentThrough 0 = Command.ping.frame ++ command.frame ∧
    out.2.net.sentThrough 1 = Command.ping.frame ∧
    refused.1 = .failed (.io .connectionRefused) ∧
    watched'.2.net.dialed = ["localhost:6379", "localhost:6379"] ∧
    (∃ news, Ran config command refusing.net watched'.2.net.dialed news refused.1 ∧
      Network.Gains refusing.net refused.2.net news) ∧
    refused.2.net.received "localhost:6379" = [Command.ping.frame] := by
  intro arguments command config world refusing out watched refused watched'
  have asked : Invocation.ofArguments arguments = .ok ⟨config, .one command⟩ := by
    dsimp +zetaDelta only
    decide +kernel
  have valid : config.check = .ok () := by decide +kernel
  have room : config.capacity ≤ maxRoom := by decide +kernel
  have answered : out.1 = .answered (.bulk (utf8 "v")) := by
    dsimp +zetaDelta only
    decide +kernel
  have dialed : watched.2.net.dialed = ["localhost:6379", "localhost:6379"] := by
    dsimp +zetaDelta only
    decide +kernel
  have first : out.2.net.sentThrough 0 = Command.ping.frame ++ command.frame := by
    dsimp +zetaDelta only
    decide +kernel
  have second : out.2.net.sentThrough 1 = Command.ping.frame := by
    dsimp +zetaDelta only
    decide +kernel
  have failed : refused.1 = .failed (.io .connectionRefused) := by
    dsimp +zetaDelta only
    decide +kernel
  have dialed' : watched'.2.net.dialed = ["localhost:6379", "localhost:6379"] := by
    dsimp +zetaDelta only
    decide +kernel
  have received : refused.2.net.received "localhost:6379" = [Command.ping.frame] := by
    dsimp +zetaDelta only
    decide +kernel
  obtain ⟨-, ran⟩ := runs_one_command asked rfl valid room world
  obtain ⟨-, ran'⟩ := runs_one_command asked rfl valid room refusing
  exact ⟨asked, valid, room, answered, dialed, ran, first, second, failed, dialed', ran', received⟩

/-- A pool for which there can be no room: the program crashes and dials nobody, though the server is there. -/
theorem not_runs_one_command_of_large_pool :
    let arguments := ["-s", "localhost:6379", "-p", "9223372036854775808", "get", "k"]
    let command := (Request.get (utf8 "k")).command
    let config : Pool.Config :=
      { capacity := 9223372036854775808, addresses := ["localhost:6379"], timeout := .ofSeconds 0 }
    let world : TcpWorld :=
      ⟨{ routed := true, servers := [⟨"localhost:6379", [utf8 "$1\r\nv\r\n"], .closed⟩] }, #[]⟩
    let out := run arguments world
    let watched := runOver Watched config command (Tcp.watching world)
    Invocation.ofArguments arguments = .ok ⟨config, .one command⟩ ∧ config.check = .ok () ∧
    out.1.code = 101 ∧ out.2.net = world.net ∧ watched.2.net.dialed = [] ∧
    ¬ ∃ news, Ran config command world.net watched.2.net.dialed news out.1 ∧
      Network.Gains world.net out.2.net news := by
  intro arguments command config world out watched
  have asked : Invocation.ofArguments arguments = .ok ⟨config, .one command⟩ := by
    dsimp +zetaDelta only
    decide +kernel
  have valid : config.check = .ok () := by decide +kernel
  have crashed : out.1.code = 101 := by
    dsimp +zetaDelta only
    decide +kernel
  have unchanged : out.2.net = world.net := by
    dsimp +zetaDelta only
    decide +kernel
  have dialed : watched.2.net.dialed = [] := by
    dsimp +zetaDelta only
    decide +kernel
  refine ⟨asked, valid, crashed, unchanged, dialed, ?_⟩
  rintro ⟨news, ran, -⟩
  generalize watched.2.net.dialed = dials at dialed ran
  generalize out.1 = outcome at ran
  cases ran with
  | sent => cases dialed
  | unreachable => cases dialed
  | aborted mode => cases mode
  | sentFirst mode => cases mode

end RespClient.CommandLine
