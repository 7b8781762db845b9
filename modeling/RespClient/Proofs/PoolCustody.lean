import Mathlib.Data.List.Perm.Basic
import RespClient.Proofs.NumberedPools
import RespClient.Proofs.StockFilling

/-!
# Custody of connections

A pool lends connections to callers, who do what they like with them and may give them back, in any
order, or bring connections of their own. `Custody` follows a pool of numbered connections and the
connections that callers hold: a connection is held from the loan on, whether its borrower took it,
detached it or has a guard that will return it, and until it is given back.

`single_custody` is the main statement. It says that a connection that is not closed is stored in the
pool or held by a caller, never both, and never lost. Only connections that a pool sets up in vain,
when it fails to start, are let go as they are.
-/

namespace RespClient.Pool

variable {C Net : Type}

/-! ## Custody -/

/-- A pool in its world, with the connections that are in the hands of callers. -/
structure Custody (C Net : Type) where
  pool : Pool (Numbered C)
  world : World (Register C Net)
  held : List (Numbered C) := []
  /-- The numbers of the connections that were set up for starts that failed. -/
  wasted : List Nat := []

namespace Custody

/-- What happens to a pool, and to the connections that callers hold. Held connections are named by
their place. -/
inductive Event (C Net : Type) where
  | start
  | stop
  | checkOut
  | checkIn (place : Nat)
  | exchange (commands : List Command)
  /-- A caller uses a connection, in whatever way. -/
  | use (place : Nat) (action : C → World Net → C × World Net)
  /-- A caller comes by a connection from elsewhere. -/
  | acquire (source : World Net → C × World Net)
  | elsewhere (change : World Net → World Net)

/-- The connections that are somewhere: stored in the pool, or held by a caller. -/
def places (custody : Custody C Net) : List (Numbered C) := custody.pool.stored ++ custody.held

variable [Connection C Net]

/-- A pool that was never open, before any connection. -/
def fresh (config : Config) (world : World Net) : Custody C Net :=
  { pool := { config }, world := world.registering [] }

/-- What an event leaves. -/
def step (custody : Custody C Net) : Event C Net → Custody C Net
  | .start =>
    let states := custody.world.net.states
    let (result, pool, world) := custody.pool.start custody.world
    let setUp := List.range' states.length (world.net.states.length - states.length)
    match result with
    | .ok () => { custody with pool, world }
    | .error _ => { custody with pool, world, wasted := custody.wasted ++ setUp }
  | .stop =>
    let (pool, world) := custody.pool.stop custody.world
    { custody with pool, world }
  | .checkOut =>
    match custody.pool.checkOut with
    | .error _ => custody
    | .ok (connection, pool) => { custody with pool, held := connection :: custody.held }
  | .checkIn place =>
    match custody.held[place]? with
    | none => custody
    | some connection =>
      let (pool, world) := custody.pool.checkIn connection custody.world
      { custody with pool, world, held := custody.held.eraseIdx place }
  | .exchange commands =>
    let (_, _, pool, world) := custody.pool.exchange commands custody.world
    { custody with pool, world }
  | .use place action =>
    match custody.held[place]? with
    | none => custody
    | some ⟨number, connection⟩ =>
      let (after, world) := action connection custody.world.plain
      { custody with
        world := world.registering (custody.world.net.states.set number after)
        held := custody.held.set place ⟨number, after⟩ }
  | .acquire source =>
    let (connection, world) := source custody.world.plain
    let (connection, world) := Numbered.enter connection custody.world.net.states world
    { custody with world, held := connection :: custody.held }
  | .elsewhere change =>
    { custody with
      world := (change custody.world.plain).registering custody.world.net.states }

/-- What events leave, one after the other. -/
def run (custody : Custody C Net) (events : List (Event C Net)) : Custody C Net :=
  events.foldl step custody

end Custody

/-! ## What the calls of a pool do to the places -/

section Kept

variable [Connection C Net]

theorem Stock.eq_of_put_error {α : Type} {stock : Stock α} {value surplus : α}
    (puts : stock.put value = .error surplus) : surplus = value := by
  unfold Stock.put at puts
  split at puts
  · cases puts
  · cases puts
    rfl

variable {excepted : List Nat} {rest : List (Numbered C)}

/-- A connection that is set up has a place of its own; one that could not be is closed. -/
theorem setUp_kept (closes : Connection.Closes C) {config : Config}
    {state state' : Rotation × World (Register C Net)} {result : Except Error (Numbered C)}
    (kept : Kept state.2.net.states excepted rest)
    (setsUp : setUp config state = (result, state')) :
    state'.2.net.states.length = state.2.net.states.length + 1 ∧
    match result with
    | .ok connection => connection.number = state.2.net.states.length ∧
        Kept state'.2.net.states excepted (connection :: rest)
    | .error _ => Kept state'.2.net.states excepted rest := by
  rcases state with ⟨rotation, world⟩
  let fresh := Connection.create (C := Numbered C) rotation.current config.connectionTimeout world
  have created : Kept fresh.2.net.states excepted (fresh.1 :: rest) :=
    kept.create rotation.current config.connectionTimeout
  have longer : fresh.2.net.states.length = world.net.states.length + 1 :=
    Numbered.length_create rotation.current config.connectionTimeout world
  have probed := created.call fresh.2 Connection.probe
  have sameLength := Numbered.length_call Connection.probe fresh.1 fresh.2
  rcases setUp_cases (C := Numbered C) config rotation world with
    out | ⟨connection, world', probes, out⟩ | ⟨error, connection, world', probes, out⟩
  · rw [out] at setsUp
    cases setsUp
    exact ⟨longer, rfl, created⟩
  · rw [out] at setsUp
    cases setsUp
    have numbered : Numbered.call Connection.probe fresh.1 fresh.2 =
      (.ok (), connection, world') := probes
    rw [numbered] at probed sameLength
    have sameNumber : connection.number = fresh.1.number :=
      (congrArg (fun out => out.2.1.number) numbered).symm
    exact ⟨sameLength.trans longer, sameNumber, probed⟩
  · rw [out] at setsUp
    cases setsUp
    have numbered : Numbered.call Connection.probe fresh.1 fresh.2 =
      (.error error, connection, world') := probes
    rw [numbered] at probed sameLength
    refine ⟨?_, Kept.close closes (world'.report _) probed⟩
    exact (Numbered.length_call Connection.close connection (world'.report _)).trans
      (sameLength.trans longer)

/-- A stock that is filled has a place for each of its connections; for one that could not be, the
connections that were set up before are given up. -/
theorem create_kept (closes : Connection.Closes C) {config : Config} {capacity : Nat}
    (state : Rotation × World (Register C Net)) {state' : Rotation × World (Register C Net)}
    {result : Except Failure (Stock (Numbered C))}
    (kept : Kept state.2.net.states excepted rest)
    (creates : Stock.create capacity (setUp config) state = (result, state')) :
    match result with
    | .ok idle => Kept state'.2.net.states excepted (idle.available ++ rest)
    | .error _ => Kept state'.2.net.states
        (excepted ++ List.range' state.2.net.states.length
          (state'.2.net.states.length - state.2.net.states.length)) rest := by
  let before := state.2.net.states.length
  let sofar (values : List (Numbered C)) (state : Rotation × World (Register C Net)) : Prop :=
    Kept state.2.net.states excepted (values ++ rest) ∧ before ≤ state.2.net.states.length ∧
      ∀ value ∈ values, before ≤ value.number
  -- What is set up from here on has numbers from `before` on, which a start that fails gives up.
  have start : sofar [] state := ⟨kept, Nat.le_refl _, nofun⟩
  have filled : ∃ values, sofar values state' ∧
      ∀ filled, result = .ok filled → filled.available = values := by
    unfold Stock.create at creates
    split at creates
    · cases creates
      exact ⟨[], start, nofun⟩
    · refine Stock.fillFrom_induction ?_ ?_ start creates
      · rintro values state state' value ⟨kept, longer, later⟩ made
        obtain ⟨length, number, kept'⟩ := setUp_kept closes kept made
        refine ⟨?_, by omega, ?_⟩
        · rw [List.append_assoc]
          exact kept'.perm List.perm_middle.symm
        · intro other there
          rcases List.mem_append.1 there with old | new
          · exact later other old
          · rw [List.mem_singleton.1 new, number]
            exact longer
      · rintro values state state' error ⟨kept, longer, later⟩ made
        obtain ⟨length, kept'⟩ := setUp_kept closes kept made
        exact ⟨kept', by omega, later⟩
  obtain ⟨values, ⟨kept', longer, later⟩, stock⟩ := filled
  cases result with
  | ok idle =>
    rw [← stock idle rfl] at kept'
    exact kept'
  | error failure =>
    refine kept'.except fun value there => ?_
    have inside := kept'.number_lt (List.mem_append_left rest there)
    have inside' := later value there
    rw [List.mem_range'_1]
    omega

theorem closeAll_kept (closes : Connection.Closes C) {connections : List (Numbered C)}
    {world : World (Register C Net)}
    (kept : Kept world.net.states excepted (connections ++ rest)) :
    Kept (closeAll connections world).net.states excepted rest := by
  induction connections generalizing world with
  | nil => exact kept
  | cons connection others more =>
    have closed := Kept.close closes world kept
    unfold closeAll
    split
    · next out =>
      rw [out] at closed
      exact more closed
    · next out =>
      rw [out] at closed
      exact more closed

theorem stop_kept (closes : Connection.Closes C) (pool : Pool (Numbered C))
    {world : World (Register C Net)}
    (kept : Kept world.net.states excepted (pool.stored ++ rest)) :
    Kept (pool.stop world).2.net.states excepted ((pool.stop world).1.stored ++ rest) := by
  rw [stored_stop]
  rcases pool with ⟨config, _ | opened⟩
  · exact kept
  · exact closeAll_kept closes kept

/-- A connection that is given back is stored, or another in its place, or none. -/
theorem checkIn_kept (closes : Connection.Closes C) (pool : Pool (Numbered C))
    {connection : Numbered C} {world : World (Register C Net)}
    (kept : Kept world.net.states excepted (connection :: (pool.stored ++ rest))) :
    Kept (pool.checkIn connection world).2.net.states excepted
      ((pool.checkIn connection world).1.stored ++ rest) := by
  rcases pool with ⟨config, _ | ⟨idle, rotation⟩⟩
  · exact Kept.close closes (world.report _) kept
  · let owing := closeIfOwing connection world
    have kept₁ : Kept owing.2.net.states excepted (owing.1 :: (idle.available ++ rest)) := by
      change Kept (closeIfOwing connection world).2.net.states excepted
        ((closeIfOwing connection world).1 :: _)
      unfold closeIfOwing
      dsimp only
      split
      · exact Kept.call (world.report _) kept Connection.close
      · exact kept
    let renewal := renew config owing.1 rotation owing.2
    have kept₂ : Kept renewal.2.2.net.states excepted
        (renewal.1 :: (idle.available ++ rest)) := by
      change Kept (renew config owing.1 rotation owing.2).2.2.net.states excepted
        ((renew config owing.1 rotation owing.2).1 :: _)
      unfold renew
      split
      · next closed => exact (kept₁.drop closed).create _ _
      · exact kept₁
    rcases put : idle.put renewal.1 with surplus | idle'
    · have same := Stock.eq_of_put_error put
      subst same
      have out : ((⟨config, some ⟨idle, rotation⟩⟩ : Pool (Numbered C)).checkIn connection world) =
          (⟨config, some ⟨idle, renewal.2.1⟩⟩, (Connection.close renewal.1
            (renewal.2.2.report .returnedToFullPool)).2.2) := by
        simp only [checkIn]
        rw [put]
      rw [out]
      exact Kept.close closes (renewal.2.2.report _) kept₂
    · have out : ((⟨config, some ⟨idle, rotation⟩⟩ : Pool (Numbered C)).checkIn connection world) =
          (⟨config, some ⟨idle', renewal.2.1⟩⟩, renewal.2.2) := by
        simp only [checkIn]
        rw [put]
      rw [out]
      change Kept renewal.2.2.net.states excepted (idle'.available ++ rest)
      rw [Stock.available_of_put put, List.append_assoc]
      exact kept₂.perm List.perm_middle.symm

/-- A pool that starts stores what is set up for it; one that fails to stores what it did. -/
theorem start_kept (closes : Connection.Closes C) (pool : Pool (Numbered C))
    {world : World (Register C Net)}
    (kept : Kept world.net.states excepted (pool.stored ++ rest)) :
    (∃ failure pool' world', pool.start world = (.error failure, pool', world') ∧
      Kept world'.net.states
        (excepted ++ List.range' world.net.states.length
          (world'.net.states.length - world.net.states.length)) (pool'.stored ++ rest)) ∨
    ∃ pool' world', pool.start world = (.ok (), pool', world') ∧
      Kept world'.net.states excepted (pool'.stored ++ rest) := by
  rcases start_outcomes pool world with ⟨failure, out⟩ |
    ⟨rotation, failure, rotation', world', closed, -, fails, out⟩ |
      ⟨rotation, idle, rotation', world', closed, -, made, out⟩
  · refine Or.inl ⟨failure, pool, world, out, ?_⟩
    rw [Nat.sub_self, List.range'_zero, List.append_nil]
    exact kept
  · rw [stored, closed] at kept
    refine Or.inl ⟨failure, pool, world', out, ?_⟩
    rw [stored, closed]
    exact create_kept closes (rotation, world) kept fails
  · rw [stored, closed] at kept
    refine Or.inr ⟨_, _, out, ?_⟩
    exact create_kept closes (rotation, world) kept made

end Kept

namespace Custody

/-- The connection in one place may be told from those in the others. -/
theorem perm_of_held {held : List (Numbered C)} {place : Nat} {connection : Numbered C}
    (found : held[place]? = some connection) (stored : List (Numbered C)) :
    (stored ++ held).Perm (connection :: (stored ++ held.eraseIdx place)) := by
  obtain ⟨inside, there⟩ := List.getElem?_eq_some_iff.1 found
  have first := (List.getElem_cons_eraseIdx_perm inside).symm
  rw [there] at first
  exact (first.append_left stored).trans List.perm_middle

variable [Connection C Net] {custody : Custody C Net}

/-- Every event keeps every connection in one place. -/
theorem kept_step (closes : Connection.Closes C) (event : Event C Net)
    (kept : Kept custody.world.net.states custody.wasted custody.places) :
    Kept (custody.step event).world.net.states (custody.step event).wasted
      (custody.step event).places := by
  rcases custody with ⟨pool, world, held, wasted⟩
  cases event with
  | start =>
    rcases start_kept closes pool kept with
      ⟨failure, pool', world', out, kept'⟩ | ⟨pool', world', out, kept'⟩
    · simp only [step, out]
      exact kept'
    · simp only [step, out]
      exact kept'
  | stop => exact stop_kept closes pool kept
  | checkOut =>
    rcases lent : pool.checkOut with error | ⟨connection, pool'⟩
    · simp only [step, lent]
      exact kept
    · have moves : (pool.stored ++ held).Perm (pool'.stored ++ connection :: held) := by
        rw [stored_checkOut lent]
        exact List.perm_middle.symm
      simp only [step, lent]
      exact kept.perm moves
  | checkIn place =>
    rcases found : held[place]? with _ | connection
    · simp only [step, found]
      exact kept
    · have moves : (pool.stored ++ held).Perm (connection :: (pool.stored ++ held.eraseIdx place)) :=
        perm_of_held found pool.stored
      simp only [step, found]
      exact checkIn_kept closes pool (kept.perm moves)
  | exchange commands =>
    rcases lent : pool.checkOut with error | ⟨connection, pool'⟩
    · simp only [step, exchange, lent]
      exact kept
    · have lending : Kept world.net.states wasted (connection :: (pool'.stored ++ held)) := by
        have same : pool.stored ++ held = connection :: (pool'.stored ++ held) :=
          congrArg (· ++ held) (stored_checkOut lent)
        exact same ▸ kept
      simp only [step, exchange, lent]
      exact checkIn_kept closes pool' (lending.exchange commands)
  | use place action =>
    rcases found : held[place]? with _ | ⟨number, connection⟩
    · simp only [step, found]
      exact kept
    · let after := (action connection world.plain).1
      have used : Kept (world.net.states.set number after) wasted
          (⟨number, after⟩ :: (pool.stored ++ held.eraseIdx place)) :=
        (kept.perm (perm_of_held found pool.stored)).set after
      have inside := (List.getElem?_eq_some_iff.1 found).1
      have back := (List.set_perm_cons_eraseIdx inside (⟨number, after⟩ : Numbered C)).symm
      simp only [step, found]
      exact used.perm (List.perm_middle.symm.trans (back.append_left pool.stored))
  | acquire source => exact (kept.enter _).perm List.perm_middle.symm
  | elsewhere change => exact kept

theorem kept_run (closes : Connection.Closes C) (events : List (Event C Net))
    (kept : Kept custody.world.net.states custody.wasted custody.places) :
    Kept (custody.run events).world.net.states (custody.run events).wasted
      (custody.run events).places := by
  induction events generalizing custody with
  | nil => exact kept
  | cons event later more => exact more (kept_step closes event kept)

theorem kept_fresh (config : Config) (world : World Net) :
    Kept (fresh (C := C) config world).world.net.states [] (fresh config world).places :=
  Kept.nil

/-! ## Without the numbers -/

/-- What an event is for the pool: callers do what they do elsewhere. -/
theorem step_plain (custody : Custody C Net) (event : Event C Net) :
    ∃ event' : Pool.Event C Net,
      ((custody.step event).pool.plain, (custody.step event).world.plain) =
        event'.perform (custody.pool.plain, custody.world.plain) := by
  rcases custody with ⟨pool, world, held, wasted⟩
  cases event with
  | start =>
    refine ⟨.start, ?_⟩
    have starts := start_plain pool world
    simp only [Event.perform, starts, step]
    rcases pool.start world with ⟨failure | ⟨⟩, pool', world'⟩
    · rfl
    · rfl
  | stop => exact ⟨.stop, (stop_plain pool world).symm⟩
  | checkOut =>
    refine ⟨.checkOut, ?_⟩
    have lends := checkOut_plain pool
    rcases lent : pool.checkOut with error | ⟨connection, pool'⟩
    · rw [lent] at lends
      simp only [Event.perform, lends, step, lent, Except.map]
    · rw [lent] at lends
      simp only [Event.perform, lends, step, lent, Except.map]
  | checkIn place =>
    rcases found : held[place]? with _ | connection
    · refine ⟨.elsewhere world.plain, ?_⟩
      simp only [Event.perform, step, found]
    · refine ⟨.checkIn connection.connection, ?_⟩
      simp only [Event.perform, step, found, checkIn_plain]
  | exchange commands =>
    refine ⟨.exchange commands, ?_⟩
    simp only [Event.perform, step, exchange_pool_plain]
  | use place action =>
    rcases found : held[place]? with _ | ⟨number, connection⟩
    · refine ⟨.elsewhere world.plain, ?_⟩
      simp only [Event.perform, step, found]
    · refine ⟨.elsewhere (action connection world.plain).2, ?_⟩
      simp only [Event.perform, step, found]
      rfl
  | acquire source => exact ⟨.elsewhere (source world.plain).2, rfl⟩
  | elsewhere change => exact ⟨.elsewhere (change world.plain), rfl⟩

theorem run_plain (custody : Custody C Net) (events : List (Event C Net)) :
    ∃ events' : List (Pool.Event C Net),
      ((custody.run events).pool.plain, (custody.run events).world.plain) =
        Pool.run custody.pool.plain custody.world.plain events' := by
  induction events generalizing custody with
  | nil => exact ⟨[], rfl⟩
  | cons event later more =>
    obtain ⟨event', first⟩ := step_plain custody event
    obtain ⟨later', others⟩ := more (custody.step event)
    refine ⟨event' :: later', others.trans ?_⟩
    exact congrArg (fun state => Pool.run state.1 state.2 later') first

/-! ## One place for every connection -/

/-- However a pool is used over any number of sessions, a connection that is not closed is in one
place: the pool stores it once, or a caller holds it. When the pool is closed and the callers have
given back what they held, every connection is closed. The exceptions are the connections that were
set up for a start that failed. Without the numbers this is a run of the pool itself. -/
theorem single_custody (closes : Connection.Closes C) (config : Config) (world : World Net)
    (events : List (Event C Net)) :
    let after := (fresh config world).run events
    (∀ (number : Nat) (connection : C), after.world.net.states[number]? = some connection →
      Connection.isClosed connection = false → number ∉ after.wasted →
      (after.pool.stored.map Numbered.number).count number +
        (after.held.map Numbered.number).count number = 1) ∧
    (∀ place ∈ after.places, after.world.net.states[place.number]? = some place.connection) ∧
    (after.pool.isClosed = true → after.held = [] →
      ∀ (number : Nat) (connection : C), after.world.net.states[number]? = some connection →
        number ∉ after.wasted → Connection.isClosed connection = true) ∧
    ∃ plainly : List (Pool.Event C Net),
      (after.pool.plain, after.world.plain) = Pool.run { config } world plainly := by
  intro after
  have kept : Kept after.world.net.states after.wasted after.places :=
    kept_run closes events (kept_fresh config world)
  refine ⟨fun number connection found opened counts => ?_, kept.current,
    fun closed returned number connection found counts => ?_, run_plain _ events⟩
  · have once := List.count_eq_one_of_mem kept.distinct (kept.accounted found opened counts)
    rw [places, List.map_append, List.count_append] at once
    exact once
  · have nowhere : after.places = [] := by
      have unopened : after.pool.opened = none := by
        rcases opened : after.pool.opened with _ | opened
        · rfl
        · rw [isClosed, isOpen, opened] at closed
          cases closed
      rw [places, returned, stored, unopened]
      rfl
    by_contra opened
    have somewhere := kept.accounted found (eq_false_of_ne_true opened) counts
    rw [nowhere] at somewhere
    cases somewhere

/-- A borrowed session comes back with an unread reply and is replaced, while a session from
elsewhere is held; then that is given back to the full pool, and the pool stops. -/
theorem single_custody_instance :
    let config : Config := { capacity := 1 }
    let world : World Scripted.Stage := ⟨⟨[], [], [], 0, #[]⟩, #[]⟩
    let foreign : Event Scripted.Session Scripted.Stage :=
      .acquire (Scripted.Session.create "127.0.0.1:6379" defaultTimeout)
    let unread : Event Scripted.Session Scripted.Stage :=
      .use 0 fun session world => (session.send "PING" [] world).2
    let events := [.start, foreign, .checkOut, unread, .checkIn 0]
    let after := (fresh config world).run events
    let later := events ++ [.checkIn 0, .stop]
    let atLast := (fresh config world).run later
    Connection.Closes Scripted.Session ∧
    after.world.net.states.map Connection.isClosed = [true, false, false] ∧
    after.pool.stored.map Numbered.number = [2] ∧ after.held.map Numbered.number = [1] ∧
    (after.pool.stored.map Numbered.number).count 2 +
      (after.held.map Numbered.number).count 2 = 1 ∧
    atLast.world.net.states.length = 3 ∧
    ∀ (number : Nat) (session : Scripted.Session),
      atLast.world.net.states[number]? = some session → Connection.isClosed session = true := by
  intro config world foreign unread events after later atLast
  have closes := Scripted.Session.laws.closes
  have states : after.world.net.states.map Connection.isClosed = [true, false, false] := by
    dsimp +zetaDelta only
    decide +kernel
  have stored : after.pool.stored.map Numbered.number = [2] := by
    dsimp +zetaDelta only
    decide +kernel
  have held : after.held.map Numbered.number = [1] := by
    dsimp +zetaDelta only
    decide +kernel
  have three : atLast.world.net.states.length = 3 := by
    dsimp +zetaDelta only
    decide +kernel
  have shut : atLast.pool.isClosed = true := by
    dsimp +zetaDelta only
    decide +kernel
  refine ⟨closes, states, stored, held, ?_, three, ?_⟩
  · obtain ⟨alive, -⟩ := single_custody closes config world events
    have third : (after.world.net.states.map Connection.isClosed)[2]? = some false := by rw [states]; rfl
    rw [List.getElem?_map, Option.map_eq_some_iff] at third
    obtain ⟨session, found, opened⟩ := third
    exact alive 2 session found opened List.not_mem_nil
  · obtain ⟨-, -, closed, -⟩ := single_custody closes config world later
    intro number session found
    exact closed shut rfl number session found List.not_mem_nil

end Custody

end RespClient.Pool
