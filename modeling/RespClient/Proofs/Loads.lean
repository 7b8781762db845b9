import RespClient.CommandLine
import RespClient.Proofs.EngagedSessions
import RespClient.Proofs.PoolRotation

/-!
# Loads

What the program does with a load, as told by the network. The commands of a load are increments of the fields of a
hash in turn (`Load.count_increment`). They are submitted to a queue one by one, and its workers send them in batches
to the one server that there is. If it takes connections, then it receives all of them once, whatever it answers, and
in whatever order the workers go on.

`runLoad` is the run in which the workers only go on while the program has to wait (`Submits.submitAll`). The other runs
are those of the queue when it is used for the load (`Queue.UsedFor`).

`delivers_every_increment` is the main statement.
-/

namespace RespClient.CommandLine

open Queue (UsedFor Delivers Engaged Event History)
open Tcp (Network Session)

/-! ## The commands of a load -/

namespace Load

variable {load : Load}

/-- The command that increments a field. -/
def increment (load : Load) (field : Nat) : Command :=
  (Request.hincrby (utf8 load.key) (utf8 s!"f{field}") 1).command

/-- The commands of a load, in the order in which they are submitted. -/
def commands (load : Load) : List Command := (List.range load.count).map load.command

theorem command_eq_increment (load : Load) (number : Nat) :
    load.command number = load.increment (number % max load.fields 1) := rfl

/-- Different fields have different names. -/
theorem increment_injective {first second : Nat}
    (same : load.increment first = load.increment second) : first = second := by
  have args : [utf8 load.key, utf8 s!"f{first}", Decimal.ofInt (1 : Int64).toInt] =
      [utf8 load.key, utf8 s!"f{second}", Decimal.ofInt (1 : Int64).toInt] :=
    congrArg Command.args same
  have names : "f" ++ toString first = "f" ++ toString second :=
    utf8_injective (List.cons.inj (List.cons.inj args).2).1
  have digits : Nat.toDigits 10 first = Nat.toDigits 10 second :=
    String.ofList_injective ((String.append_right_inj "f").1 names)
  have value := congrArg (Nat.ofDigitChars 10 · 0) digits
  simpa only [Nat.ofDigitChars_ten_toDigits] using value

/-- Each command of a load increments one of its fields. -/
theorem exists_increment {command : Command} (there : command ∈ load.commands) :
    ∃ field < max load.fields 1, command = load.increment field := by
  obtain ⟨number, -, rfl⟩ := List.mem_map.1 there
  exact ⟨number % max load.fields 1, Nat.mod_lt _ (Nat.lt_of_lt_of_le Nat.zero_lt_one
    (Nat.le_max_right ..)), rfl⟩

/-- The fields are incremented in turn. -/
theorem count_increment {field : Nat} (inside : field < max load.fields 1) :
    load.commands.count (load.increment field) =
      load.count / max load.fields 1 + if field < load.count % max load.fields 1 then 1 else 0 := by
  rw [← Pool.count_mod_eq inside, commands]
  induction load.count with
  | zero => rfl
  | succ count counted =>
    have here : load.command count = load.increment field ↔ count % max load.fields 1 = field :=
      ⟨increment_injective, fun same => by rw [command_eq_increment, same]⟩
    rw [List.range_succ, List.map_append, List.count_append, counted, List.map_singleton,
      List.count_singleton, Nat.count_succ]
    simp only [beq_iff_eq, here]

theorem isEmpty_eq_false {command : Command} (there : command ∈ load.commands) :
    command.isEmpty = false := by
  obtain ⟨field, -, rfl⟩ := exists_increment there
  rfl

/-- A load has arrived at a server: its commands are what new connections have been sent, each of them a share, and
nothing else was sent. The fields got as many increments as they should. -/
def Arrives (load : Load) (address : String) (before after : Network) : Prop :=
  ∃ shares : List (List Command),
    Network.Gains before after (shares.map fun share => (address, share.flatMap Command.frame)) ∧
    shares.flatten.Perm load.commands ∧
    (∀ field < max load.fields 1, shares.flatten.count (load.increment field) =
      load.count / max load.fields 1 + if field < load.count % max load.fields 1 then 1 else 0) ∧
    ∀ command ∈ shares.flatten, ∃ field < max load.fields 1, command = load.increment field

theorem arrives_of_delivers {address : String} {before after : Network} {commands : List Command}
    (delivers : Delivers address before after commands) (all : commands.Perm load.commands) :
    load.Arrives address before after := by
  obtain ⟨shares, gains, same⟩ := delivers
  have all' := same.trans all
  refine ⟨shares, gains, all', fun field inside => ?_, fun command there => ?_⟩
  · rw [all'.count_eq]
    exact count_increment inside
  · exact exists_increment (all'.mem_iff.1 there)

end Load

/-! ## The run of the program -/

section Submitting

variable {history : History Session Network}

theorem findIdx?_singleton_of_named {command : Command} (named : command.isEmpty = false) :
    [command].findIdx? Command.isEmpty = none := by
  rw [List.findIdx?_singleton, named]
  rfl

/-- What holds between two calls of the program: the queue takes the next one, and the others have returned. -/
structure Submits (history : History Session Network) : Prop where
  smooth : history.Smooth
  welcoming : history.Welcoming
  accepting : history.gate = .accepting
  receptive : history.queue.Receptive
  idle : ∀ submission ∈ history.submissions, submission.holdsChannel = false

/-- A command with a name is not refused, and then the program can go on. -/
theorem Submits.submit (ready : Submits history) {command : Command} (named : command.isEmpty = false) :
    ∃ next : History Session Network, history.Leads next ∧ Submits next ∧
      next.submissions.map Queue.Submission.commands =
        history.submissions.map Queue.Submission.commands ++ [[command]] ∧
      history.queue.submit [command] history.world = (.ok (), next.queue, next.world) := by
  obtain ⟨receptive, accepted, taken, batches, leads⟩ :=
    Queue.History.leads_submit [command] ready.accepting ready.receptive
  rcases submits : history.queue.submit [command] history.world with ⟨result, queue, world⟩
  rw [submits] at receptive leads
  let next : History Session Network := { history with
    queue, world, accepted, taken, batches
    submissions := history.submissions ++ [⟨[command], .returned result⟩] }
  obtain ⟨events, own, reaches⟩ : history.Leads next := leads
  have accepting : (history.run events).gate = .accepting := by
    rw [reaches]
    exact ready.accepting
  have welcoming : next.Welcoming :=
    reaches ▸ ready.welcoming.run_of_accepting ready.smooth Session.calm accepting
  -- The queue accepts calls all the time, so that this one was not refused.
  have succeeds : result = .ok () := by
    have found : next.submissions[history.submissions.length]? = some ⟨[command], .returned result⟩ :=
      List.getElem?_concat_length
    have welcome := welcoming _ _ found (findIdx?_singleton_of_named named)
    rcases result with error | ⟨⟩
    · exact absurd rfl (welcome error)
    · rfl
  subst succeeds
  exact ⟨next, ⟨events, own, reaches⟩, {
    smooth := reaches ▸ ready.smooth.run Session.calm events
    welcoming := welcoming
    accepting := ready.accepting
    receptive := receptive
    idle := List.forall_mem_append.2 ⟨ready.idle, List.forall_mem_singleton.2 rfl⟩ },
    List.map_append, rfl⟩

/-- The program submits commands one by one, and none is refused. -/
theorem Submits.submitAll {commands : List Command} (ready : Submits history)
    (named : ∀ command ∈ commands, command.isEmpty = false) :
    ∃ after : History Session Network, history.Leads after ∧ Submits after ∧
      after.submissions.map Queue.Submission.commands =
        history.submissions.map Queue.Submission.commands ++ commands.map ([·]) ∧
      submitAll commands history.queue history.world = (.ok (), after.queue, after.world) := by
  induction commands generalizing history with
  | nil => exact ⟨history, .refl, ready, (List.append_nil _).symm, rfl⟩
  | cons command rest more =>
    obtain ⟨first, later⟩ := List.forall_mem_cons.1 named
    obtain ⟨next, leads, ready', sameCommands, submits⟩ := ready.submit first
    obtain ⟨after, leads', ready'', sameCommands', out⟩ := more ready' later
    refine ⟨after, leads.trans leads', ready'', ?_, ?_⟩
    · rw [sameCommands', sameCommands, List.append_assoc]
      rfl
    · simp only [CommandLine.submitAll, submits]
      exact out

theorem net_reportEnd (workers : List (Queue.Worker Session)) (world : TcpWorld) :
    (Queue.reportEnd workers world).net = world.net := by
  have same (crashed : List (Queue.Worker Session)) (world : TcpWorld) :
      (crashed.foldl (fun world _ => world.report .workerCrashed) world).net = world.net := by
    induction crashed generalizing world with
    | nil => rfl
    | cons worker rest more => exact more _
  exact same _ world

end Submitting

section Runs

variable {config : Pool.Config} {load : Load} {address : String} {world : TcpWorld}

/-- The queue over which a load is run. -/
def Load.queueFor (load : Load) (config : Pool.Config) (address : String) : Queue Session :=
  { config := load.queue, logger := some .keep, seed := some (.create address config.connectionTimeout) }

/-- What was submitted has arrived once it has been sent in batches. -/
theorem arrives_of_engaged {timeout : Duration} {before : Network} {after : History Session Network}
    (engaged : Engaged address timeout before after)
    (sent : (after.batches.map Prod.snd).flatten.Perm (load.commands.map ([·])).flatten) :
    load.Arrives address before after.world.net := by
  have single : (load.commands.map ([·])).flatten = load.commands := by
    rw [← List.flatMap_def]
    exact List.flatMap_singleton' load.commands
  exact Load.arrives_of_delivers engaged.served.delivers (single ▸ sent)

theorem findIdx?_singletons : ∀ commands ∈ load.commands.map ([·]),
    commands.findIdx? Command.isEmpty = none := by
  intro commands there
  obtain ⟨command, member, rfl⟩ := List.mem_map.1 there
  exact findIdx?_singleton_of_named (Load.isEmpty_eq_false member)

/-- Once the queue has started, the program runs to its end, and the load arrives. -/
theorem runLoad_arrives (single : config.addresses = [address]) {opened : Queue Session}
    {world' : TcpWorld} (starts : (load.queueFor config address).start world = (.ok (), opened, world'))
    (engaged : Engaged address config.connectionTimeout world.net { queue := opened, world := world' }) :
    (runLoad config load world).1 = .loaded load.count ∧
      load.Arrives address world.net (runLoad config load world).2.net := by
  have begins : Submits { queue := opened, world := world' } := {
    smooth := engaged.smooth
    welcoming := fun _ _ found => by cases found
    accepting := rfl
    receptive := Queue.receptive_of_start starts
    idle := List.forall_mem_nil _ }
  obtain ⟨submitted, leads, ready, sameCommands, submits⟩ :=
    begins.submitAll fun _ => Load.isEmpty_eq_false
  obtain ⟨after, leads', ended, sameSubmissions, stops⟩ :=
    Queue.History.leads_stop ready.accepting ready.receptive.isOpen ready.idle
  obtain ⟨events, own, reaches⟩ := leads.trans leads'
  have engaged' : Engaged address config.connectionTimeout world.net after :=
    reaches ▸ engaged.run own
  have welcoming : after.Welcoming := by
    rw [History.Welcoming, sameSubmissions]
    exact ready.welcoming
  have sameCommands' : after.submissions.map Queue.Submission.commands =
      load.commands.map ([·]) := by
    rw [sameSubmissions, sameCommands]
    rfl
  have named : ∀ submission ∈ after.submissions,
      submission.commands.findIdx? Command.isEmpty = none := fun submission there =>
    findIdx?_singletons submission.commands (sameCommands' ▸ List.mem_map_of_mem there)
  obtain ⟨-, sent⟩ := engaged'.smooth.sent_all welcoming named ended
  rw [sameCommands'] at sent
  have out : runLoad config load world = (.loaded load.count,
      (submitted.queue.stop submitted.world).2) := by
    have submits' : submitAll ((List.range load.count).map load.command) opened world' =
      (.ok (), submitted.queue, submitted.world) := submits
    unfold Load.queueFor at starts
    simp only [runLoad, single, starts, submits']
  rw [out, stops, net_reportEnd]
  exact ⟨rfl, arrives_of_engaged engaged' sent⟩

/-- Whatever the order in which the calls and the workers go on, the load arrives. -/
theorem used_arrives {opened : Queue Session} {world' : TcpWorld}
    (engaged : Engaged address config.connectionTimeout world.net { queue := opened, world := world' })
    {events : List (Event Network)} (used : UsedFor (load.commands.map ([·])) events) :
    let after := ({ queue := opened, world := world' } : History Session Network).run events
    (∃ more : List (Event Network), (∀ event ∈ more, event.goesOn = true) ∧
      ∀ worker ∈ (after.run (.release :: more)).queue.workers, worker.isAlive = false) ∧
    ((∀ worker ∈ after.queue.workers, worker.isAlive = false) →
      (∀ submission ∈ after.submissions, submission.progress = .returned (.ok ())) ∧
      after.submissions.map Queue.Submission.commands = load.commands.map ([·]) ∧
      load.Arrives address world.net after.world.net) := by
  intro after
  obtain ⟨goesOn, ends⟩ :=
    engaged.smooth.used Session.calm rfl rfl findIdx?_singletons used
  refine ⟨goesOn, fun ended => ?_⟩
  obtain ⟨done, sameCommands, sent⟩ := ends ended
  exact ⟨done, sameCommands, arrives_of_engaged (engaged.run used.isOwn) sent⟩

theorem check_of_sizes {config : Queue.Config} (manned : 0 < config.workers)
    (enough : config.workers ≤ config.queueSize) (batches : 0 < config.batchSize) :
    config.check = .ok () := by
  rw [Queue.Config.check, if_neg (by omega), if_neg (by omega), if_neg (by omega), if_neg (by omega)]

end Runs

/-- **The program delivers every increment of a load.** If there is one server, which takes connections, and
if there is room for the queue and for its batches, then all commands are submitted and the load arrives: the program
says so, and new connections of the server have been sent each command once, and nothing else. The same holds for
every order in which the calls and the workers of the queue go on; none of these gets stuck. If there are no servers
or more than one, nothing is done. -/
theorem delivers_every_increment {arguments : List String} {invocation : Invocation} {load : Load}
    (asked : Invocation.ofArguments arguments = .ok invocation)
    (loads : invocation.task = .load load) (world : TcpWorld) :
    let config := invocation.pool
    let out := run arguments world
    (config.addresses.length ≠ 1 →
      out = (.failed (.config (.notOneServer config.addresses.length)), world)) ∧
    ∀ address : String, config.addresses = [address] →
      world.net.Accepts address config.connectionTimeout →
      0 < load.queue.workers → load.queue.workers ≤ load.queue.queueSize → 0 < load.queue.batchSize →
      load.queue.queueSize ≤ maxRoom → load.queue.batchSize ≤ maxRoom →
      out.1 = .loaded load.count ∧ load.Arrives address world.net out.2.net ∧
      ∃ opened world', (load.queueFor config address).start world = (.ok (), opened, world') ∧
        ∀ events : List (Event Network), UsedFor (load.commands.map ([·])) events →
          let after := ({ queue := opened, world := world' } : History Session Network).run events
          (∃ more : List (Event Network), (∀ event ∈ more, event.goesOn = true) ∧
            ∀ worker ∈ (after.run (.release :: more)).queue.workers, worker.isAlive = false) ∧
          ((∀ worker ∈ after.queue.workers, worker.isAlive = false) →
            (∀ submission ∈ after.submissions, submission.progress = .returned (.ok ())) ∧
            after.submissions.map Queue.Submission.commands = load.commands.map ([·]) ∧
            load.Arrives address world.net after.world.net) := by
  intro config out
  have out_eq : out = runLoad config load world := by
    simp only [out, run, asked, Invocation.run, loads]
    rfl
  refine ⟨fun several => ?_, fun address single accepts manned enough batches small room => ?_⟩
  · rw [out_eq, runLoad]
    split
    · next address single =>
      rw [single] at several
      exact absurd rfl several
    · rfl
  · obtain ⟨opened, world', starts, engaged⟩ := Queue.exists_start
      (check_of_sizes manned enough batches) small room .keep accepts
    obtain ⟨loaded, arrives⟩ := runLoad_arrives single starts engaged
    rw [out_eq]
    exact ⟨loaded, arrives, opened, world', starts, fun events used => used_arrives engaged used⟩

/-- Three increments of two fields, sent by two workers to a server that answers the first connection with what is no
reply, and closes both; in the run of the program, and in one in which the workers take turns. -/
theorem delivers_every_increment_instance :
    let address := "localhost:6379"
    let arguments := ["-s", address, "load", "k", "-c", "3", "-f", "2", "-w", "2", "-b", "2", "-q", "2"]
    let config : Pool.Config := { capacity := 4, addresses := [address], timeout := .ofSeconds 0 }
    let load : Load := ⟨"k", 3, 2, ⟨2, 2, 2⟩⟩
    let world : TcpWorld :=
      ⟨{ routed := true, servers := [⟨address, [utf8 "OK\r\n"], .closed⟩] }, #[]⟩
    let before : List (Event Network) := [.submit [load.command 0], .submit [load.command 1],
      .submit [load.command 2], .proceed 0, .proceed 0, .proceed 2, .proceed 2, .work 1, .work 0,
      .proceed 1, .proceed 1, .proceed 0, .proceed 1, .proceed 2]
    let later : List (Event Network) := [.release, .work 0, .work 0, .work 0, .work 1, .work 1, .work 0,
      .work 1]
    let begun := (load.queueFor config address).start world
    let after := ({ queue := begun.2.1, world := begun.2.2 } : History Session Network).run
      (before ++ .close :: later)
    Invocation.ofArguments arguments = .ok ⟨config, .load load⟩ ∧
    world.net.Accepts address config.connectionTimeout ∧
    UsedFor (load.commands.map ([·])) (before ++ .close :: later) ∧
    (run arguments world).1 = .loaded 3 ∧ load.Arrives address world.net (run arguments world).2.net ∧
    (∀ worker ∈ after.queue.workers, worker.isAlive = false) ∧
    after.batches.map (fun batch => (batch.1, batch.2.length)) = [(0, 2), (1, 1)] ∧
    load.Arrives address world.net after.world.net ∧
    run ["-s", address, "-s", address, "load", "k"] world =
      (.failed (.config (.notOneServer 2)), world) := by
  intro address arguments config load world before later begun after
  have asked : Invocation.ofArguments arguments = .ok ⟨config, .load load⟩ := by
    dsimp +zetaDelta only
    decide +kernel
  have accepts : world.net.Accepts address config.connectionTimeout :=
    ⟨⟨_, _, rfl⟩, fun _ => List.not_mem_nil⟩
  have used : UsedFor (load.commands.map ([·])) (before ++ .close :: later) := by
    refine .closes ?_ ?_ ?_ ?_
    · dsimp +zetaDelta only
      decide
    · dsimp +zetaDelta only
      decide +kernel
    · simp only [before, List.mem_cons, List.not_mem_nil, reduceCtorEq, or_self, not_false_eq_true]
    · rfl
  obtain ⟨-, delivers⟩ := delivers_every_increment asked rfl world
  obtain ⟨loaded, arrives, opened, world', starts, used_arrives⟩ := delivers address rfl accepts
    (by decide) (by decide) (by decide) (by decide) (by decide)
  have ended : ∀ worker ∈ after.queue.workers, worker.isAlive = false := by
    dsimp +zetaDelta only
    decide +kernel
  have batches : after.batches.map (fun batch => (batch.1, batch.2.length)) = [(0, 2), (1, 1)] := by
    dsimp +zetaDelta only
    decide +kernel
  have begun_eq : begun = (.ok (), opened, world') := starts
  have after_eq : after = ({ queue := opened, world := world' } : History Session Network).run
      (before ++ .close :: later) := by
    simp only [after, begun_eq]
  obtain ⟨-, ends⟩ := used_arrives (before ++ .close :: later) used
  rw [← after_eq] at ends
  obtain ⟨-, -, arrives'⟩ := ends ended
  have askedTwo : Invocation.ofArguments ["-s", address, "-s", address, "load", "k"] =
      .ok ⟨{ config with addresses := [address, address] }, .load ⟨"k", 10000, 16, ⟨1024, 4, 64⟩⟩⟩ := by
    dsimp +zetaDelta only
    decide +kernel
  obtain ⟨refuses, -⟩ := delivers_every_increment askedTwo rfl world
  exact ⟨asked, accepts, used, loaded, arrives, ended, batches, arrives', refuses (by decide)⟩

/-- Batches for which there can be no room: the worker that takes the command crashes, and the command is lost,
though the program says that it was submitted. -/
theorem not_delivers_every_increment_of_large_batches :
    let address := "localhost:6379"
    let arguments := ["-s", address, "load", "k", "-c", "1", "-b", "9223372036854775808"]
    let config : Pool.Config := { capacity := 4, addresses := [address], timeout := .ofSeconds 0 }
    let load : Load := ⟨"k", 1, 16, ⟨1024, 4, 9223372036854775808⟩⟩
    let world : TcpWorld := ⟨{ routed := true, servers := [⟨address, [], .closed⟩] }, #[]⟩
    let out := run arguments world
    Invocation.ofArguments arguments = .ok ⟨config, .load load⟩ ∧
    world.net.Accepts address config.connectionTimeout ∧ load.queue.check = .ok () ∧
    out.1 = .loaded 1 ∧ out.2.net = world.net ∧ ¬ load.Arrives address world.net out.2.net := by
  intro address arguments config load world out
  have asked : Invocation.ofArguments arguments = .ok ⟨config, .load load⟩ := by
    dsimp +zetaDelta only
    decide +kernel
  have valid : load.queue.check = .ok () := by decide +kernel
  have loaded : out.1 = .loaded 1 := by
    dsimp +zetaDelta only
    decide +kernel
  have unchanged : out.2.net = world.net := by
    dsimp +zetaDelta only
    decide +kernel
  refine ⟨asked, ⟨⟨_, _, rfl⟩, fun _ => List.not_mem_nil⟩, valid, loaded, unchanged, ?_⟩
  rintro ⟨shares, gains, all, -⟩
  have size := gains.size
  rw [unchanged, List.length_map] at size
  have none : shares = [] := List.length_eq_zero_iff.1 (by omega)
  subst none
  cases all.length_eq

end RespClient.CommandLine
