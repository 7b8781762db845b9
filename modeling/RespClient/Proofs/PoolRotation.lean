import Mathlib.Data.Int.CardIntervalMod
import RespClient.Proofs.EnrolledConnections
import RespClient.Proofs.PoolCapacity
import RespClient.Proofs.PoolHealth

/-!
# Rotation of a pool

A pool makes its connections for the addresses of its configuration in turn. It does so in two places:
when it starts, and when a connection that is given back has to be replaced; and the second goes on
where the first has left off. `Tour` says how far the rotation has come in one session, as told by the
roster of the connections that were made. `Tour.fillFrom` carries it through a start, and `Tour.checkIn`
through a connection that is given back. Between these an event makes no connections
(`Event.enroll_cases`).

`addresses_in_turn` is the main statement: in every session the first connection is for the first
address, as many are made as there are places and replacements, and no address is ahead of another by
more than one.
-/

namespace RespClient.Pool

variable {C Net : Type}

/-! ## Addresses in turn -/

/-- How many of the first numbers leave a remainder. -/
theorem count_mod_eq {size remainder : Nat} (inside : remainder < size) (count : Nat) :
    Nat.count (fun number => number % size = remainder) count =
      count / size + if remainder < count % size then 1 else 0 := by
  have counted := Nat.count_modEq_card count (Nat.zero_lt_of_lt inside) remainder
  rw [Nat.mod_eq_of_lt inside] at counted
  rw [← counted]
  have same : ∀ number, number % size = remainder ↔ number ≡ remainder [MOD size] := by
    intro number
    rw [Nat.ModEq, Nat.mod_eq_of_lt inside]
  exact Nat.le_antisymm (Nat.count_mono_left fun number _ => (same number).1)
    (Nat.count_mono_left fun number _ => (same number).2)

/-- Connections do not get a timeout of zero. -/
theorem Config.isZero_connectionTimeout (config : Config) :
    config.connectionTimeout.isZero = false := by
  unfold connectionTimeout
  split
  · rfl
  · next given => exact eq_false_of_ne_true given

/-- The rotation over the addresses of a configuration after this number of turns. -/
structure Rotation.At (config : Config) (rotation : Rotation) (turns : Nat) : Prop where
  addresses : rotation.addresses = config.addresses
  position : rotation.position = turns % config.addresses.length

namespace Rotation.At

variable {config : Config} {rotation : Rotation} {turns : Nat}

theorem ofAddresses (found : Rotation.ofAddresses config.addresses = .ok rotation) :
    At config rotation 0 := by
  unfold Rotation.ofAddresses at found
  split at found
  · cases found
    exact ⟨rfl, (Nat.zero_mod _).symm⟩
  · cases found

theorem current (reached : At config rotation turns) :
    config.addresses[turns % config.addresses.length]? = some rotation.current := by
  rw [← reached.position, ← reached.addresses]
  exact List.getElem?_eq_getElem rotation.inside

theorem advance (reached : At config rotation turns) :
    At config rotation.advance (turns + 1) := by
  refine ⟨reached.addresses, ?_⟩
  change (rotation.position + 1) % rotation.addresses.length = _
  rw [reached.addresses, reached.position, Nat.mod_add_mod]

end Rotation.At

/-- Connections that are made for the addresses in turn, beginning with the first address. -/
def InTurn (config : Config) (created : List (String × Duration)) : Prop :=
  ∀ (turn : Nat) (entry : String × Duration), created[turn]? = some entry →
    config.addresses[turn % config.addresses.length]? = some entry.1 ∧
    entry.2 = config.connectionTimeout

/-- How many connections are made for the address at a place if they are made in turn. -/
def share (config : Config) (place : Nat) (created : List (String × Duration)) : Nat :=
  Nat.count (fun turn => turn % config.addresses.length = place) created.length

/-- No address has more than one connection more than another one has, at any time. Addresses are told
apart by their places; if all are different, by themselves. -/
structure Fair (config : Config) (created : List (String × Duration)) : Prop where
  places : ∀ {made : List (String × Duration)}, made <+: created → ∀ {place place' : Nat},
    place < config.addresses.length → place' < config.addresses.length →
    share config place made ≤ share config place' made + 1
  addresses : config.addresses.Nodup → ∀ {made : List (String × Duration)}, made <+: created →
    ∀ {address address' : String}, address ∈ config.addresses → address' ∈ config.addresses →
    (made.map Prod.fst).count address ≤ (made.map Prod.fst).count address' + 1

namespace InTurn

variable {config : Config} {created made : List (String × Duration)}

theorem nil : InTurn config [] := fun _ _ found => nomatch found

theorem of_prefix (inTurn : InTurn config created) (front : made <+: created) :
    InTurn config made := by
  intro turn entry found
  obtain ⟨later, rfl⟩ := front
  apply inTurn
  rw [List.getElem?_append_left (List.getElem?_eq_some_iff.1 found).1]
  exact found

theorem push {rotation : Rotation} (inTurn : InTurn config created)
    (next : Rotation.At config rotation created.length) :
    InTurn config (created ++ [(rotation.current, config.connectionTimeout)]) := by
  intro turn entry found
  rcases Nat.lt_trichotomy turn created.length with earlier | rfl | later
  · rw [List.getElem?_append_left earlier] at found
    exact inTurn turn entry found
  · rw [List.getElem?_concat_length] at found
    cases found
    exact ⟨next.current, rfl⟩
  · rw [List.getElem?_eq_none] at found
    · cases found
    · rw [List.length_append, List.length_singleton]
      exact later

theorem share_eq {place : Nat} (inside : place < config.addresses.length) :
    share config place created = created.length / config.addresses.length +
      if place < created.length % config.addresses.length then 1 else 0 :=
  count_mod_eq inside created.length

/-- If all addresses are different, the connections for an address are those of its place. -/
theorem count_eq_share (inTurn : InTurn config created) (distinct : config.addresses.Nodup)
    {place : Nat} {address : String} (found : config.addresses[place]? = some address) :
    (created.map Prod.fst).count address = share config place created := by
  induction created using List.reverseRecOn with
  | nil => rfl
  | append_singleton earlier entry before =>
    obtain ⟨here, -⟩ := inTurn earlier.length entry List.getElem?_concat_length
    have samePlace : entry.1 = address ↔ earlier.length % config.addresses.length = place := by
      obtain ⟨inside, rfl⟩ := List.getElem?_eq_some_iff.1 found
      obtain ⟨inside', same⟩ := List.getElem?_eq_some_iff.1 here
      rw [← same]
      exact distinct.getElem_inj_iff
    have earlierShare := before (inTurn.of_prefix (List.prefix_append earlier [entry]))
    rw [List.map_append, List.count_append, earlierShare, share, share, List.length_append,
      List.length_singleton, Nat.count_succ, List.map_singleton, List.count_singleton]
    simp only [beq_iff_eq, samePlace]

theorem fair (inTurn : InTurn config created) : Fair config created := by
  have places : ∀ {made : List (String × Duration)} {place place' : Nat},
      place < config.addresses.length → place' < config.addresses.length →
      share config place made ≤ share config place' made + 1 := by
    intro made place place' inside inside'
    rw [share_eq inside, share_eq inside']
    split <;> split <;> omega
  refine ⟨fun _ => places, fun distinct {made} front {address address'} known known' => ?_⟩
  obtain ⟨place, inside, rfl⟩ := List.getElem_of_mem known
  obtain ⟨place', inside', rfl⟩ := List.getElem_of_mem known'
  have inTurn' := inTurn.of_prefix front
  rw [inTurn'.count_eq_share distinct (List.getElem?_eq_getElem inside),
    inTurn'.count_eq_share distinct (List.getElem?_eq_getElem inside')]
  exact places inside inside'

end InTurn

/-! ## The connections of one session -/

/-- The rotation goes on behind the connections that this session has put on the roster, which were made
in turn. -/
structure Tour (config : Config) (before created : List (String × Duration)) (rotation : Rotation)
    (world : World (Roster Net)) : Prop where
  entries : world.net.entries = before ++ created
  inTurn : InTurn config created
  next : Rotation.At config rotation created.length

namespace Tour

variable {config : Config} {before created : List (String × Duration)} {rotation : Rotation}
  {world world' : World (Roster Net)}

theorem of_entries (tour : Tour config before created rotation world)
    (same : world'.net.entries = world.net.entries) : Tour config before created rotation world' :=
  ⟨same.trans tour.entries, tour.inTurn, tour.next⟩

variable [Connection C Net]

/-- A connection to the address whose turn it is. -/
theorem create (tour : Tour config before created rotation world) :
    Tour config before (created ++ [(rotation.current, config.connectionTimeout)]) rotation.advance
      (Connection.create (C := Enrolled C) rotation.current config.connectionTimeout world).2 where
  entries := by
    change world.net.entries ++ _ = _
    rw [tour.entries, List.append_assoc]
  inTurn := tour.inTurn.push tour.next
  next := by
    rw [List.length_append]
    exact tour.next.advance

/-- One turn is taken by a connection that is set up, also if its server does not answer. -/
theorem setUp (tour : Tour config before created rotation world) :
    let out := Pool.setUp (C := Enrolled C) config (rotation, world)
    Tour config before (created ++ [(rotation.current, config.connectionTimeout)]) out.2.1
      out.2.2 := by
  have made := tour.create (C := C)
  rcases setUp_cases (C := Enrolled C) config rotation world with
    out | ⟨connection, world', probes, out⟩ | ⟨error, connection, world', probes, out⟩
  · rw [out]
    exact made
  · rw [out]
    refine made.of_entries ?_
    exact (congrArg (fun outcome => outcome.2.2.net.entries) probes).symm
  · rw [out]
    refine made.of_entries ?_
    exact (congrArg (fun outcome => outcome.2.2.net.entries) probes).symm

/-- As many turns are taken as connections are set up one after the other. -/
theorem makes {values : List (Enrolled C)} {state last : Rotation × World (Roster Net)}
    (makes : Stock.Makes (Pool.setUp config) state values last)
    (tour : Tour config before created state.1 state.2) :
    ∃ more, more.length = values.length ∧ Tour config before (created ++ more) last.1 last.2 := by
  induction makes generalizing created with
  | none => exact ⟨[], rfl, by rwa [List.append_nil]⟩
  | more gives others step =>
    have first := tour.setUp (C := C)
    rw [gives] at first
    obtain ⟨more, length, later⟩ := step first
    rw [List.append_assoc] at later
    exact ⟨_ :: more, congrArg (· + 1) length, later⟩

/-- One more turn is taken for the connection behind them, whatever becomes of it. -/
theorem makes_andThen {values : List (Enrolled C)} {result : Except Error (Enrolled C)}
    {state between last : Rotation × World (Roster Net)}
    (makes : Stock.Makes (Pool.setUp config) state values between)
    (gives : Pool.setUp config between = (result, last))
    (tour : Tour config before created state.1 state.2) :
    ∃ more, more.length = values.length + 1 ∧ Tour config before (created ++ more) last.1 last.2 := by
  obtain ⟨more, length, later⟩ := tour.makes makes
  have next := later.setUp (C := C)
  rw [gives, List.append_assoc] at next
  exact ⟨_, by rw [List.length_append, length, List.length_singleton], next⟩

/-- As many turns are taken as values are put in; fewer only if a connection fails. -/
theorem fillFrom (stock : Stock (Enrolled C)) (count : Nat)
    (tour : Tour config before created rotation world) :
    let out := stock.fillFrom (Pool.setUp config) count (rotation, world)
    ∃ more, more.length ≤ count ∧ (∀ filled, out.1 = .ok filled → more.length = count) ∧
      Tour config before (created ++ more) out.2.1 out.2.2 := by
  have ends := Stock.fillFrom_fills (Pool.setUp (C := Enrolled C) config) stock count (rotation, world)
  generalize stock.fillFrom (Pool.setUp config) count (rotation, world) = out at ends ⊢
  cases ends with
  | whole makes complete =>
    obtain ⟨more, length, later⟩ := tour.makes makes
    exact ⟨more, by omega, fun _ _ => length.trans complete, later⟩
  | stops makes early fails =>
    obtain ⟨more, length, later⟩ := tour.makes_andThen makes fails
    exact ⟨more, by omega, nofun, later⟩
  | overfills makes early gives full =>
    -- A connection that the stock has no place for has taken its turn all the same.
    obtain ⟨more, length, later⟩ := tour.makes_andThen makes gives
    exact ⟨more, by omega, nofun, later⟩

/-- The same for a stock that is created, for which no turn is taken if there is no room. -/
theorem createStock (capacity : Nat) (tour : Tour config before created rotation world) :
    let out := Stock.create (α := Enrolled C) capacity (Pool.setUp config) (rotation, world)
    ∃ more, more.length ≤ capacity ∧ (∀ filled, out.1 = .ok filled → more.length = capacity) ∧
      Tour config before (created ++ more) out.2.1 out.2.2 := by
  unfold Stock.create
  split
  · exact ⟨[], Nat.zero_le capacity, nofun, by rwa [List.append_nil]⟩
  · exact tour.fillFrom (Stock.empty capacity) capacity

end Tour

/-- A connection that is not stored as it is when it is given back. -/
def isUnfit [Connection C Net] (connection : C) : Bool :=
  Connection.isClosed connection || 0 < Connection.owed connection

namespace Tour

variable {config : Config} {before created : List (String × Duration)} {rotation : Rotation}
  {world : World (Roster Net)} [Connection C Net]

/-- One turn is taken for a connection that is given back and is not fit for use, and none for
others. -/
theorem renew (closes : Connection.Closes C) (connection : Enrolled C)
    (tour : Tour config before created rotation world) :
    let owing := closeIfOwing connection world
    let renewal := Pool.renew config owing.1 rotation owing.2
    ∃ more, more.length = (if isUnfit connection then 1 else 0) ∧
      Tour config before (created ++ more) renewal.2.1 renewal.2.2 := by
  intro owing renewal
  have kept : Tour config before created rotation owing.2 := by
    refine tour.of_entries ?_
    dsimp only [owing, closeIfOwing]
    split <;> rfl
  have closedIff : Connection.isClosed owing.1 = isUnfit connection := by
    dsimp only [owing, closeIfOwing, isUnfit]
    cases closed : Connection.isClosed connection with
    | true => exact closed
    | false =>
      split
      · next owes =>
        rw [show decide (0 < Connection.owed connection) = true from owes]
        exact Enrolled.closes closes connection _
      · next none =>
        rw [show decide (0 < Connection.owed connection) = false from eq_false_of_ne_true none]
        exact closed
  dsimp only [renewal, Pool.renew]
  rw [closedIff]
  split
  · exact ⟨[_], rfl, kept.create⟩
  · exact ⟨[], rfl, by rwa [List.append_nil]⟩

end Tour

/-- A pool that is open, and the connections that it has made since it was started. -/
structure Underway (config : Config) (before created : List (String × Duration))
    (state : OnRoster C Net) : Prop where
  configured : state.1.config = config
  touring : ∃ opened, state.1.opened = some opened ∧
    Tour config before created opened.rotation state.2

namespace Underway

variable {config : Config} {before created : List (String × Duration)} {state : OnRoster C Net}

theorem isOpen (underway : Underway config before created state) : state.1.isOpen = true := by
  obtain ⟨opened, open', -⟩ := underway.touring
  rw [Pool.isOpen, open']
  rfl

theorem entries (underway : Underway config before created state) :
    state.entries = before ++ created := by
  obtain ⟨opened, -, tour⟩ := underway.touring
  exact tour.entries

theorem inTurn (underway : Underway config before created state) : InTurn config created := by
  obtain ⟨opened, -, tour⟩ := underway.touring
  exact tour.inTurn

variable [Connection C Net]

theorem checkIn (closes : Connection.Closes C) (connection : Enrolled C)
    (underway : Underway config before created state) :
    ∃ more, more.length = (if isUnfit connection then 1 else 0) ∧
      Underway config before (created ++ more) (state.1.checkIn connection state.2) := by
  obtain ⟨⟨config', opened⟩, world⟩ := state
  obtain ⟨rfl, ⟨idle, rotation⟩, rfl, tour⟩ := underway
  obtain ⟨more, count, later⟩ := tour.renew closes connection
  refine ⟨more, count, (checkIn_samePlaces _ connection world).config, ?_⟩
  let renewal := renew config' (closeIfOwing connection world).1 rotation
    (closeIfOwing connection world).2
  rcases Stock.put_cases idle renewal.1 with ⟨-, put⟩ | ⟨-, put⟩
  · simp only [Pool.checkIn]
    rw [put]
    exact ⟨_, rfl, later⟩
  · simp only [Pool.checkIn]
    rw [put]
    exact ⟨_, rfl, later.of_entries rfl⟩

end Underway

/-! ## Events -/

/-- A pool of this configuration that makes its next connection where another would. -/
structure SameTurn {D : Type} (pool pool' : Pool D) : Prop where
  config : pool'.config = pool.config
  rotation : pool'.opened.map Opened.rotation = pool.opened.map Opened.rotation

theorem sameTurn_of_checkOut {D : Type} {pool pool' : Pool D} {connection : D}
    (lent : pool.checkOut = .ok (connection, pool')) : SameTurn pool pool' := by
  rcases pool with ⟨config, _ | ⟨⟨capacity, _ | ⟨next, rest⟩⟩, rotation⟩⟩
  · cases lent
  · cases lent
  · cases lent
    exact ⟨rfl, rfl⟩

theorem Underway.of_sameTurn {config : Config} {before created : List (String × Duration)}
    {state : OnRoster C Net} {pool : Pool (Enrolled C)} {world : World (Roster Net)}
    (underway : Underway config before created state) (same : SameTurn state.1 pool)
    (sameEntries : world.net.entries = state.entries) :
    Underway config before created (pool, world) := by
  obtain ⟨opened, open', tour⟩ := underway.touring
  have sameRotation := same.rotation
  rw [open', Option.map_some, Option.map_eq_some_iff] at sameRotation
  obtain ⟨opened', open'', rotation⟩ := sameRotation
  refine ⟨same.config.trans underway.configured, opened', open'', ?_⟩
  rw [rotation]
  exact tour.of_entries sameEntries

variable [Connection C Net]

/-- The connection that an event gives back to the pool, if it gives one back. -/
def Event.givesBack : Event C Net → Pool C × World Net → Option C
  | .checkIn connection, _ => some connection
  | .borrow use keeps, (pool, world) =>
    match pool.checkOut with
    | .error _ => none
    | .ok (connection, _) => if keeps then none else some (use connection world).1
  | .exchange commands, (pool, world) =>
    match pool.checkOut with
    | .error _ => none
    | .ok (connection, _) => some (RespClient.exchange commands connection world).2.2.1
  | .start, _ | .stop, _ | .checkOut, _ | .elsewhere _, _ => none

/-- How many connections an event gives back that are closed or owe replies. -/
def Event.unfitReturns (event : Event C Net) (state : Pool C × World Net) : Nat :=
  if (event.givesBack state).any isUnfit then 1 else 0

/-- How many connections that are closed or owe replies are given back by events. -/
def unfitReturns : List (Event C Net) → Pool C × World Net → Nat
  | [], _ => 0
  | event :: later, state => event.unfitReturns state + unfitReturns later (event.perform state)

/-- Between starting and stopping, a pool makes no connections but for what it is given back. -/
theorem Event.enroll_cases {event : Event C Net} (notStart : event ≠ .start)
    (notStop : event ≠ .stop) (state : OnRoster C Net) :
    ∃ pool world, SameTurn state.1 pool ∧ world.net.entries = state.entries ∧
      ((event.givesBack state.plain = none ∧ event.enroll state = (pool, world)) ∨
      ∃ connection : Enrolled C, event.givesBack state.plain = some connection.connection ∧
        event.enroll state = pool.checkIn connection world) := by
  obtain ⟨pool, world⟩ := state
  have lending := checkOut_map Enrolled.connection pool
  cases event with
  | start => exact absurd rfl notStart
  | stop => exact absurd rfl notStop
  | checkOut =>
    rcases lent : pool.checkOut with error | ⟨enrolled, pool'⟩
    · refine ⟨pool, world, ⟨rfl, rfl⟩, rfl, Or.inl ⟨rfl, ?_⟩⟩
      simp only [enroll, onRoster, perform, lent]
    · refine ⟨pool', world, sameTurn_of_checkOut lent, rfl, Or.inl ⟨rfl, ?_⟩⟩
      simp only [enroll, onRoster, perform, lent]
  | checkIn connection =>
    exact ⟨pool, world, ⟨rfl, rfl⟩, rfl, Or.inr ⟨⟨connection⟩, rfl, rfl⟩⟩
  | borrow use keeps =>
    rcases lent : pool.checkOut with error | ⟨enrolled, pool'⟩
    · rw [lent] at lending
      refine ⟨pool, world, ⟨rfl, rfl⟩, rfl, Or.inl ⟨?_, ?_⟩⟩
      · simp only [givesBack, OnRoster.plain, lending, Except.map]
      · simp only [enroll, onRoster, perform, lent]
    · rw [lent] at lending
      refine ⟨pool', world.net.under (use enrolled.connection (world.map Roster.net)).2,
        sameTurn_of_checkOut lent, rfl, ?_⟩
      cases keeps with
      | true =>
        refine Or.inl ⟨?_, ?_⟩
        · simp only [givesBack, OnRoster.plain, lending, Except.map, if_true]
        · simp only [enroll, onRoster, perform, lent, if_true]
      | false =>
        refine Or.inr ⟨⟨(use enrolled.connection (world.map Roster.net)).1⟩, ?_, ?_⟩
        · simp only [givesBack, OnRoster.plain, lending, Except.map, Bool.false_eq_true, if_false]
        · simp only [enroll, onRoster, perform, lent, Bool.false_eq_true, if_false]
  | exchange commands =>
    rcases lent : pool.checkOut with error | ⟨enrolled, pool'⟩
    · rw [lent] at lending
      refine ⟨pool, world, ⟨rfl, rfl⟩, rfl, Or.inl ⟨?_, ?_⟩⟩
      · simp only [givesBack, OnRoster.plain, lending, Except.map]
      · simp only [enroll, onRoster, perform, Pool.exchange, lent]
    · have shown := Enrolled.view.exchange commands enrolled world
      rw [lent] at lending
      refine ⟨pool', (RespClient.exchange commands enrolled world).2.2.2,
        sameTurn_of_checkOut lent, Enrolled.entries_exchange commands enrolled world, Or.inr
          ⟨(RespClient.exchange commands enrolled world).2.2.1, ?_, ?_⟩⟩
      · simp only [givesBack, OnRoster.plain, lending, Except.map]
        exact congrArg (fun out => some out.2.2.1) shown
      · simp only [enroll, onRoster, perform, Pool.exchange, lent]
  | elsewhere world' =>
    exact ⟨pool, world.net.under world', ⟨rfl, rfl⟩, rfl, Or.inl ⟨rfl, rfl⟩⟩

/-- A pool that is closed makes no connections, unless it is started. -/
theorem Event.enroll_of_closed {event : Event C Net} (notStart : event ≠ .start)
    {state : OnRoster C Net} (closed : state.1.opened = none) :
    (event.enroll state).1.opened = none ∧ (event.enroll state).entries = state.entries := by
  by_cases stops : event = .stop
  · subst stops
    obtain ⟨⟨config, opened⟩, world⟩ := state
    change opened = none at closed
    subst closed
    exact ⟨rfl, rfl⟩
  · obtain ⟨⟨config, opened⟩, world, same, sameEntries, out⟩ := enroll_cases notStart stops state
    have closed' : opened = none := by
      have sameRotation := same.rotation
      rw [closed, Option.map_none, Option.map_eq_none_iff] at sameRotation
      exact sameRotation
    subst closed'
    rcases out with ⟨-, out⟩ | ⟨connection, -, out⟩
    · rw [out]
      exact ⟨rfl, sameEntries⟩
    · rw [out]
      exact ⟨rfl, sameEntries⟩

namespace Underway

variable {config : Config} {before created : List (String × Duration)} {state : OnRoster C Net}

/-- Every event of the session makes as many connections as it gives back that are not fit for use. -/
theorem perform (closes : Connection.Closes C) {event : Event C Net} (notStop : event ≠ .stop)
    (underway : Underway config before created state) :
    ∃ more, more.length = event.unfitReturns state.plain ∧
      Underway config before (created ++ more) (event.enroll state) := by
  have unchanged : Underway config before (created ++ []) state := by rwa [List.append_nil]
  by_cases starts : event = .start
  · subst starts
    obtain ⟨failure, out⟩ := start_of_open underway.isOpen state.2
    refine ⟨[], rfl, ?_⟩
    change Underway config before (created ++ []) (state.1.start state.2).2
    rw [out]
    exact unchanged
  · obtain ⟨pool, world, same, sameEntries, ⟨none, out⟩ | ⟨connection, gives, out⟩⟩ :=
      Event.enroll_cases starts notStop state
    · rw [out, Event.unfitReturns, none]
      exact ⟨[], rfl, unchanged.of_sameTurn same sameEntries⟩
    · rw [out, Event.unfitReturns, gives]
      exact (underway.of_sameTurn same sameEntries).checkIn closes connection

/-- What an event of the session puts on the roster. -/
theorem entries_enroll (closes : Connection.Closes C) {event : Event C Net}
    (notStop : event ≠ .stop) (underway : Underway config before created state) :
    ∃ more, (event.enroll state).entries = state.entries ++ more ∧
      more.length = event.unfitReturns state.plain := by
  obtain ⟨more, count, underway'⟩ := underway.perform closes notStop
  refine ⟨more, underway'.entries.trans ?_, count⟩
  rw [underway.entries, List.append_assoc]

theorem run (closes : Connection.Closes C) {events : List (Event C Net)}
    (notStop : ∀ event ∈ events, event ≠ .stop) (underway : Underway config before created state) :
    ∃ more, more.length = unfitReturns events state.plain ∧
      Underway config before (created ++ more) (enrollAll events state) := by
  induction events generalizing state created with
  | nil => exact ⟨[], rfl, by rwa [List.append_nil]⟩
  | cons event later others =>
    obtain ⟨notStop, notStopLater⟩ := List.forall_mem_cons.1 notStop
    obtain ⟨first, count, underway'⟩ := underway.perform closes notStop
    obtain ⟨more, count', underway''⟩ := others notStopLater underway'
    rw [List.append_assoc] at underway''
    refine ⟨first ++ more, ?_, underway''⟩
    rw [List.length_append, count, count', Event.enroll_plain]
    rfl

end Underway

/-- A closed pool that is started makes connections in turn from the first address on, one for each of its
places if it opens, and no more if it fails. -/
theorem start_inTurn (config : Config) (world : World (Roster Net)) :
    let opening := Event.enroll .start (({ config }, world) : OnRoster C Net)
    ∃ created, opening.entries = world.net.entries ++ created ∧ InTurn config created ∧
      created.length ≤ config.capacity ∧
      (opening.1.isOpen = true → created.length = config.capacity ∧
        Underway config world.net.entries created opening) := by
  intro opening
  have starting : opening = (Pool.start (C := Enrolled C) { config } world).2 := rfl
  rw [starting]
  rcases start_outcomes (C := Enrolled C) { config } world with ⟨failure, out⟩ |
    ⟨rotation, failure, rotation', world', -, found, creates, out⟩ |
      ⟨rotation, idle, rotation', world', -, found, creates, out⟩
  · rw [out]
    exact ⟨[], (List.append_nil _).symm, .nil, Nat.zero_le _, fun opened => by cases opened⟩
  all_goals
    have tour : Tour config world.net.entries [] rotation world :=
      ⟨(List.append_nil _).symm, .nil, .ofAddresses found⟩
    obtain ⟨created, atMost, all, later⟩ := tour.createStock (C := C) config.capacity
    rw [List.nil_append] at later
    change Stock.create config.capacity _ _ = _ at creates
    rw [creates] at all later
    rw [out]
  · exact ⟨created, later.entries, later.inTurn, atMost, fun opened => by cases opened⟩
  · exact ⟨created, later.entries, later.inTurn, atMost, fun _ =>
      ⟨all idle rfl, rfl, ⟨idle, rotation'⟩, rfl, later.of_entries rfl⟩⟩

/-! ## Exchanges that succeed -/

section Exchanges

variable {Ticket : Type} {account : Connection.Account C Ticket}

theorem notClosed_of_sends (steady : Connection.Steady C) {commands : List Command}
    {connection after : C} {world world' : World Net}
    (sent : Connection.Sends commands connection world after world')
    (notClosed : Connection.isClosed connection = false) : Connection.isClosed after = false := by
  induction sent with
  | nil => exact notClosed
  | cons sends more others => exact others (steady.sent sends)

theorem notClosed_of_receives (steady : Connection.Steady C) {replies : List Reply}
    {connection after : C} {world world' : World Net}
    (received : Connection.Receives replies connection world after world')
    (notClosed : Connection.isClosed connection = false) : Connection.isClosed after = false := by
  induction received with
  | nil => exact notClosed
  | cons receives more others => exact others (steady.received receives)

/-- A connection that is fit for use still is after an exchange that succeeds. -/
theorem fit_of_exchange_ok (steady : Connection.Steady C) (accounts : account.Lawful)
    {commands answers : List Command} {connection after : C} {world world' : World Net}
    (fit : Connection.Fit connection)
    (exchanges : RespClient.exchange commands connection world = (.ok (), answers, after, world')) :
    Connection.Fit after := by
  obtain ⟨count, replies, result, after', world'', out, course⟩ :=
    roundTrip_course commands connection world
  rw [exchange_of_settled fit.owesNothing, out] at exchanges
  cases exchanges
  obtain ⟨-, -, -, -, settled⟩ := course.settles accounts fit.owesNothing
  refine ⟨?_, settled nofun⟩
  cases course with
  | finished sent received complete =>
    exact notClosed_of_receives steady received (notClosed_of_sends steady sent fit.notClosed)

/-- An exchange of a healthy pool that succeeds gives back a connection that is fit for use. -/
theorem unfitReturns_of_exchange_ok (steady : Connection.Steady C) (accounts : account.Lawful)
    {pool : Pool C} (healthy : Healthy pool) {commands : List Command} {world : World Net}
    (succeeds : (pool.exchange commands world).1 = .ok ()) :
    Event.unfitReturns (.exchange commands) (pool, world) = 0 := by
  rcases lent : pool.checkOut with error | ⟨connection, pool'⟩
  · simp only [exchange, lent] at succeeds
    cases succeeds
  · rcases exchanges : RespClient.exchange commands connection world with
      ⟨result, answers, after, world'⟩
    simp only [exchange, lent, exchanges] at succeeds
    subst succeeds
    have fit := fit_of_exchange_ok steady accounts (healthy.fit_of_checkOut lent) exchanges
    simp only [Event.unfitReturns, Event.givesBack, lent, exchanges, Option.any_some, isUnfit,
      fit.notClosed, fit.owesNothing]
    rfl

/-- An exchange that succeeds puts nothing on the roster. -/
theorem Underway.entries_of_exchange_ok (closes : Connection.Closes C)
    (steady : Connection.Steady C) (accounts : account.Lawful) {config : Config}
    {before created : List (String × Duration)} {state : OnRoster C Net}
    (underway : Underway config before created state) (healthy : Healthy state.plain.1)
    {commands : List Command} (succeeds : (state.plain.1.exchange commands state.plain.2).1 = .ok ()) :
    (Event.enroll (.exchange commands) state).entries = state.entries := by
  have notStop : (.exchange commands : Event C Net) ≠ .stop := nofun
  obtain ⟨more, same, count⟩ := underway.entries_enroll closes notStop
  rw [unfitReturns_of_exchange_ok steady accounts healthy succeeds] at count
  rw [same, List.eq_nil_of_length_eq_zero count, List.append_nil]

end Exchanges

/-! ## Sessions one after the other -/

section Sessions

variable {config : Config} {world : World Net}

/-- A pool keeps its configuration whatever happens to it. -/
theorem config_enrollAll (closes : Connection.Closes C) (events : List (Event C Net)) :
    (enrollAll events (({ config }, world.enrolling) : OnRoster C Net)).1.config = config := by
  have closed : Sized config ({ config } : Pool C) := ⟨rfl, nofun, Nat.le_refl 0⟩
  have sized := run_induction closed (Sized.perform closes) world events
  have plain := enrollAll_plain events (({ config }, world.enrolling) : OnRoster C Net)
  exact (congrArg (fun state => state.1.config) plain).trans sized.configured

/-- A pool that is closed is as it was at first, whatever happened before. -/
theorem enrollAll_of_closed (closes : Connection.Closes C) {events : List (Event C Net)}
    {state : OnRoster C Net} (reached : enrollAll events ({ config }, world.enrolling) = state)
    (closed : state.1.opened = none) : state = ({ config }, state.2) := by
  have sameConfig : state.1.config = config := reached ▸ config_enrollAll closes events
  obtain ⟨⟨config', opened⟩, world'⟩ := state
  change opened = none at closed
  change config' = config at sameConfig
  rw [closed, sameConfig]

/-- What the pool stores without the roster is fit for use, whatever happened before. -/
theorem healthy_enrollAll (laws : Connection.Laws C) (events : List (Event C Net)) :
    Healthy (enrollAll events (({ config }, world.enrolling) : OnRoster C Net)).plain.1 := by
  have closed : Healthy ({ config } : Pool C) := healthy_of_stored_nil rfl
  rw [enrollAll_plain]
  exact run_induction closed (Healthy.perform laws) world events

end Sessions

/-- A pool that starts without an error is open. -/
theorem isOpen_of_start {state : OnRoster C Net}
    (starts : (state.plain.1.start state.plain.2).1 = .ok ()) :
    (Event.enroll .start state).1.isOpen = true := by
  have shown := congrArg Prod.fst (start_view Enrolled.view state.1 state.2)
  change (state.1.start state.2).2.1.isOpen = true
  rcases out : state.1.start state.2 with ⟨failure | ⟨⟩, pool', world'⟩
  · rw [out] at shown
    cases starts.symm.trans shown
  · exact (start_places out).2.1

/-! ## Main statement -/

/-- **Addresses in turn.** Take connections that keep the laws of pools, as sessions over TCP and scripted
ones do, and a pool that is closed after any events. Until it is started it makes no connections. When it
is started it makes one for each of its places, or fewer if it fails to open; and until it is stopped, one
for each connection that is given back closed or with replies unread, and no others. In particular it makes
none for an exchange that succeeds. The connections of one session are for the addresses in turn, the first
one for the first address, whatever happened before; their timeout is the one of the configuration, which
is never zero; and at no time are there two addresses one of which has had more than one connection more
than the other. Without the roster on which the connections are written down these are runs of the pool. -/
theorem addresses_in_turn :
    (Connection.Laws Tcp.Session ∧ Connection.Steady Tcp.Session ∧
      Tcp.Session.account.Lawful) ∧
    (Connection.Laws Scripted.Session ∧ Connection.Steady Scripted.Session ∧
      Scripted.Session.account.Lawful) ∧
    ∀ {C Net Ticket : Type} [Connection C Net] {account : Connection.Account C Ticket},
    Connection.Laws C → Connection.Steady C → account.Lawful →
    ∀ (config : Config) (world : World Net) (earlier : List (Event C Net)),
      let before := enrollAll earlier ({ config }, world.enrolling)
      let opening := Event.enroll .start before
      config.connectionTimeout.isZero = false ∧
      before.plain = run { config } world earlier ∧
      (before.1.isOpen = false →
        (∀ event : Event C Net, event ≠ .start →
          (event.enroll before).1.isOpen = false ∧
          (event.enroll before).entries = before.entries) ∧
        (∃ created, opening.entries = before.entries ++ created ∧ InTurn config created ∧
          Fair config created ∧ created.length ≤ config.capacity) ∧
        ((before.plain.1.start before.plain.2).1 = .ok () →
          ∀ events : List (Event C Net), (∀ event ∈ events, event ≠ .stop) →
          let after := enrollAll events opening
          after.1.isOpen = true ∧
          (∃ created, after.entries = before.entries ++ created ∧ InTurn config created ∧
            Fair config created ∧
            created.length = config.capacity + unfitReturns events opening.plain) ∧
          (∀ event : Event C Net, event ≠ .stop →
            ∃ more, (event.enroll after).entries = after.entries ++ more ∧
              more.length = event.unfitReturns after.plain) ∧
          ∀ commands : List Command, (after.plain.1.exchange commands after.plain.2).1 = .ok () →
            (Event.enroll (.exchange commands) after).entries = after.entries)) := by
  refine ⟨⟨Tcp.Session.laws, Tcp.Session.steady, Tcp.Session.account_lawful⟩,
    ⟨Scripted.Session.laws, Scripted.Session.steady, Scripted.Session.account_lawful⟩, ?_⟩
  intro C Net Ticket _ account laws steady accounts config world earlier before opening
  have plain : before.plain = run { config } world earlier :=
    enrollAll_plain earlier ({ config }, world.enrolling)
  refine ⟨config.isZero_connectionTimeout, plain, fun closed => ?_⟩
  have notOpened : before.1.opened = none :=
    Option.not_isSome_iff_eq_none.1 (ne_true_of_eq_false closed)
  -- Nothing of the earlier sessions is left in the pool, so the rotation begins anew.
  have shape : before = ({ config }, before.2) := enrollAll_of_closed laws.closes rfl notOpened
  obtain ⟨made, entries, inTurn, atMost, opens⟩ :
      ∃ created, opening.entries = before.entries ++ created ∧ InTurn config created ∧
        created.length ≤ config.capacity ∧
        (opening.1.isOpen = true → created.length = config.capacity ∧
          Underway config before.entries created opening) := by
    have starting := start_inTurn (C := C) config before.2
    dsimp only at starting
    rw [← shape] at starting
    exact starting
  refine ⟨fun event notStart => ?_, ⟨made, entries, inTurn, inTurn.fair, atMost⟩,
    fun starts events notStop => ?_⟩
  · obtain ⟨closed', same⟩ := Event.enroll_of_closed notStart notOpened
    exact ⟨by rw [isOpen, closed']; rfl, same⟩
  · obtain ⟨count, underway⟩ := opens (isOpen_of_start starts)
    obtain ⟨more, count', underway'⟩ := underway.run laws.closes notStop
    have healthy : Healthy (enrollAll events opening).plain.1 := by
      have whole : Healthy (enrollAll (earlier ++ .start :: events)
          (({ config }, world.enrolling) : OnRoster C Net)).plain.1 := healthy_enrollAll laws _
      rw [enrollAll, List.foldl_append] at whole
      exact whole
    refine ⟨underway'.isOpen, ⟨made ++ more, underway'.entries, underway'.inTurn,
      underway'.inTurn.fair, ?_⟩, fun event => underway'.entries_enroll laws.closes,
      fun commands => underway'.entries_of_exchange_ok laws.closes steady accounts healthy⟩
    rw [List.length_append, count, count']

/-- A pool of three connections to two addresses that was open before. One of them comes back with a reply
unread, another one is used for an exchange, and the third is kept. -/
theorem addresses_in_turn_instance :
    let config : Config :=
      { capacity := 3, addresses := ["localhost:1", "localhost:2"], timeout := ⟨0, 0⟩ }
    let world : World Scripted.Stage := ⟨{ scripts := [] }, #[]⟩
    let unread : Event Scripted.Session Scripted.Stage :=
      .borrow (fun session world => (session.send "PING" [] world).2) false
    let earlier : List (Event Scripted.Session Scripted.Stage) := [.start, .stop]
    let events := [.checkOut, unread, .exchange [⟨"PING", [], none⟩]]
    let before := enrollAll earlier ({ config }, world.enrolling)
    let opening := Event.enroll .start before
    let after := enrollAll events opening
    (Connection.Laws Scripted.Session ∧ Connection.Steady Scripted.Session ∧
      Scripted.Session.account.Lawful) ∧
    before.1.isOpen = false ∧ (before.plain.1.start before.plain.2).1 = .ok () ∧
    (∀ event ∈ events, event ≠ .stop) ∧
    after.entries = before.entries ++ [("localhost:1", defaultTimeout),
      ("localhost:2", defaultTimeout), ("localhost:1", defaultTimeout),
      ("localhost:2", defaultTimeout)] ∧
    ∃ created, after.entries = before.entries ++ created ∧ InTurn config created ∧
      Fair config created ∧ created.length = 3 + 1 := by
  intro config world unread earlier events before opening after
  have laws : Connection.Laws Scripted.Session ∧ Connection.Steady Scripted.Session ∧
      Scripted.Session.account.Lawful := addresses_in_turn.2.1
  have closed : before.1.isOpen = false := rfl
  have starts : (before.plain.1.start before.plain.2).1 = .ok () := rfl
  have notStop : ∀ event ∈ events, event ≠ .stop := by
    simp [events, unread]
  have entries : after.entries = before.entries ++ [("localhost:1", defaultTimeout),
      ("localhost:2", defaultTimeout), ("localhost:1", defaultTimeout),
      ("localhost:2", defaultTimeout)] := by
    dsimp +zetaDelta only
    decide +kernel
  have returns : unfitReturns events opening.plain = 1 := by
    dsimp +zetaDelta only
    decide +kernel
  obtain ⟨-, -, session⟩ :=
    addresses_in_turn.2.2 laws.1 laws.2.1 laws.2.2 config world earlier
  obtain ⟨-, -, after'⟩ := session closed
  obtain ⟨-, ⟨created, same, inTurn, fair, count⟩, -⟩ := after' starts events notStop
  rw [returns] at count
  exact ⟨laws, closed, starts, notStop, entries, created, same, inTurn, fair, count⟩

end RespClient.Pool
