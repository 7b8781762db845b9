import RespClient.Pool

/-!
# Runs of a pool

A pool sees events in any order and from any callers. Between them the callers do what they like
with the connections that they hold, so a returned connection may be any connection at all, and the
world may have changed in any way. A connection that is lent for one use is an event of its own
(`Event.borrow`); loans that overlap are a `checkOut` each, and a `checkIn` later.

`Pool.stored` is what a pool has to lend. Each event has one statement that says what it leaves
stored: `stored_checkOut`, `checkIn_cases`, `stored_stop`, `start_cases`. `start_outcomes` and
`setUp_cases` say how a pool starts, and how each of its connections is set up. What the calls of a
pool keep is kept by every event (`Event.perform_keeps`), and by every run (`run_induction`).
-/

namespace RespClient.Pool

variable {C Net : Type}

/-! ## Events -/

/-- What happens to a pool, and around it. -/
inductive Event (C Net : Type) where
  | start
  | stop
  | checkOut
  | checkIn (connection : C)
  /-- A connection is lent for a use, and taken back behind it unless its borrower keeps it. -/
  | borrow (use : C → World Net → C × World Net) (keeps : Bool)
  | exchange (commands : List Command)
  /-- The callers change the world with the connections that they hold. -/
  | elsewhere (world : World Net)

/-- The connections that a pool has to lend, the next one first. -/
def stored (pool : Pool C) : List C :=
  (pool.opened.map fun opened => opened.idle.available).getD []

variable [Connection C Net]

/-- The pool and the world after an event. -/
def Event.perform : Event C Net → Pool C × World Net → Pool C × World Net
  | .start, (pool, world) => (pool.start world).2
  | .stop, (pool, world) => pool.stop world
  | .checkOut, (pool, world) =>
    match pool.checkOut with
    | .error _ => (pool, world)
    | .ok (_, pool) => (pool, world)
  | .checkIn connection, (pool, world) => pool.checkIn connection world
  | .borrow use keeps, (pool, world) =>
    match pool.checkOut with
    | .error _ => (pool, world)
    | .ok (connection, pool) =>
      let (connection, world) := use connection world
      if keeps then (pool, world) else pool.checkIn connection world
  | .exchange commands, (pool, world) => (pool.exchange commands world).2.2
  | .elsewhere world, (pool, _) => (pool, world)

/-- The pool and the world after events. -/
def run (pool : Pool C) (world : World Net) (events : List (Event C Net)) :
    Pool C × World Net :=
  events.foldl (fun state event => event.perform state) (pool, world)

/-- What holds of a pool and is kept by every event holds after every run. -/
theorem run_induction {holds : Pool C → Prop} {pool : Pool C} (start : holds pool)
    (kept : ∀ (event : Event C Net) {pool} (world : World Net), holds pool →
      holds (event.perform (pool, world)).1)
    (world : World Net) (events : List (Event C Net)) : holds (run pool world events).1 := by
  induction events generalizing pool world with
  | nil => exact start
  | cons event later more => exact more (kept event world start) (event.perform (pool, world)).2

/-! ## What each event leaves stored -/

omit [Connection C Net] in
/-- The connection that is lent was the next one, and the others stay. -/
theorem stored_checkOut {pool pool' : Pool C} {connection : C}
    (lent : pool.checkOut = .ok (connection, pool')) :
    pool.stored = connection :: pool'.stored := by
  rcases pool with ⟨config, _ | ⟨⟨capacity, available⟩, rotation⟩⟩
  · cases lent
  · cases available with
    | nil => cases lent
    | cons next rest =>
      cases lent
      rfl

/-- A pool that stops stores nothing. -/
theorem stored_stop (pool : Pool C) (world : World Net) : (pool.stop world).1.stored = [] := by
  rcases pool with ⟨config, _ | opened⟩ <;> rfl

/-- The connection that a pool would store in place of one that is returned. -/
def renewed (config : Config) (connection : C) (rotation : Rotation) (world : World Net) : C :=
  (renew config (closeIfOwing connection world).1 rotation (closeIfOwing connection world).2).1

/-- A returned connection is not stored, or what it is renewed to is stored last. -/
theorem checkIn_cases (pool : Pool C) (connection : C) (world : World Net) :
    (pool.checkIn connection world).1.stored = pool.stored ∨
    ∃ rotation, (pool.checkIn connection world).1.stored =
      pool.stored ++ [renewed pool.config connection rotation world] := by
  rcases pool with ⟨config, _ | ⟨idle, rotation⟩⟩
  · exact Or.inl rfl
  · rcases put : idle.put (renewed config connection rotation world) with surplus | idle'
    · refine Or.inl ?_
      unfold renewed at put
      simp only [checkIn, put]
      rfl
    · refine Or.inr ⟨rotation, ?_⟩
      have room : idle'.available =
          idle.available ++ [renewed config connection rotation world] :=
        Stock.available_of_put put
      unfold renewed at put
      simp only [checkIn, put]
      exact room

/-- A pool refuses to start, or fails to set up its connections, or is open with them. -/
theorem start_outcomes (pool : Pool C) (world : World Net) :
    (∃ failure, pool.start world = (.error failure, pool, world)) ∨
    (∃ rotation failure rotation' world', pool.opened = none ∧
      Rotation.ofAddresses pool.config.addresses = .ok rotation ∧
      Stock.create (α := C) pool.config.capacity (setUp pool.config) (rotation, world) =
        (.error failure, rotation', world') ∧
      pool.start world = (.error failure, pool, world')) ∨
    ∃ rotation idle rotation' world', pool.opened = none ∧
      Rotation.ofAddresses pool.config.addresses = .ok rotation ∧
      Stock.create pool.config.capacity (setUp pool.config) (rotation, world) =
        (.ok idle, rotation', world') ∧
      pool.start world = (.ok (), { pool with opened := some ⟨idle, rotation'⟩ },
        world'.report (.poolOpened idle.capacity rotation'.size pool.config.mode)) := by
  unfold start
  split
  · exact Or.inl ⟨_, rfl⟩
  · split
    · exact Or.inl ⟨_, rfl⟩
    · next notOpen =>
      have closed : pool.opened = none := Option.not_isSome_iff_eq_none.1 notOpen
      split
      · exact Or.inl ⟨_, rfl⟩
      · next rotation found =>
        refine Or.inr ?_
        split
        · next failure rotation' world' fails =>
          exact Or.inl ⟨rotation, failure, rotation', world', closed, found, fails, rfl⟩
        · next idle rotation' world' made =>
          exact Or.inr ⟨rotation, idle, rotation', world', closed, found, made, rfl⟩

/-- A pool that is started stays as it is, or stores what was set up for it. -/
theorem start_cases (pool : Pool C) (world : World Net) :
    (pool.start world).2.1 = pool ∨
    ∃ rotation idle rotation' world',
      Rotation.ofAddresses pool.config.addresses = .ok rotation ∧
      Stock.create pool.config.capacity (setUp pool.config) (rotation, world) =
        (.ok idle, rotation', world') ∧
      (pool.start world).2.1 = { pool with opened := some ⟨idle, rotation'⟩ } := by
  rcases start_outcomes pool world with ⟨failure, out⟩ |
    ⟨rotation, failure, rotation', world', -, -, -, out⟩ |
      ⟨rotation, idle, rotation', world', -, found, made, out⟩
  · exact Or.inl (by rw [out])
  · exact Or.inl (by rw [out])
  · exact Or.inr ⟨rotation, idle, rotation', world', found, made, by rw [out]⟩

/-- A connection that is set up is new, or has answered a probe, or has not and is closed. -/
theorem setUp_cases (config : Config) (rotation : Rotation) (world : World Net) :
    let (fresh, world') :=
      Connection.create (C := C) rotation.current config.connectionTimeout world
    setUp config (rotation, world) = (.ok fresh, rotation.advance, world') ∨
    (∃ connection world'', Connection.probe fresh world' = (.ok (), connection, world'') ∧
      setUp config (rotation, world) = (.ok connection, rotation.advance, world'')) ∨
    ∃ error connection world'', Connection.probe fresh world' = (.error error, connection, world'') ∧
      setUp (C := C) config (rotation, world) = (.error error, rotation.advance,
        (Connection.close connection
          (world''.report (.probeFailed rotation.current error))).2.2) := by
  unfold setUp
  dsimp only
  split
  · exact Or.inl rfl
  · refine Or.inr ?_
    split
    · next probes => exact Or.inl ⟨_, _, probes, rfl⟩
    · next probes => exact Or.inr ⟨_, _, _, probes, rfl⟩

/-- An exchange lends a connection and takes it back behind its use. -/
theorem exchange_pool (commands : List Command) (pool : Pool C) (world : World Net) :
    (pool.exchange commands world).2.2 =
      Event.perform (.borrow (fun connection world =>
        (RespClient.exchange commands connection world).2.2) false) (pool, world) := by
  rcases lent : pool.checkOut with error | ⟨connection, pool'⟩
  · simp only [exchange, Event.perform, lent]
  · simp only [exchange, Event.perform, lent]
    rfl

/-- What starting, stopping, lending and taking back keep is kept by every event. -/
theorem Event.perform_keeps {holds : Pool C → Prop}
    (start : ∀ {pool} (world : World Net), holds pool → holds (pool.start world).2.1)
    (stop : ∀ {pool} (world : World Net), holds pool → holds (pool.stop world).1)
    (checkOut : ∀ {pool pool' connection}, holds pool →
      pool.checkOut = .ok (connection, pool') → holds pool')
    (checkIn : ∀ {pool} (connection : C) (world : World Net), holds pool →
      holds (pool.checkIn connection world).1)
    (event : Event C Net) {pool : Pool C} (world : World Net) (before : holds pool) :
    holds (event.perform (pool, world)).1 := by
  have borrow : ∀ (use : C → World Net → C × World Net) (keeps : Bool),
      holds (Event.perform (.borrow use keeps) (pool, world)).1 := by
    intro use keeps
    rcases lent : pool.checkOut with error | ⟨connection, pool'⟩
    · simp only [Event.perform, lent]
      exact before
    · have others : holds pool' := checkOut before lent
      cases keeps with
      | true =>
        simp only [Event.perform, lent]
        exact others
      | false =>
        simp only [Event.perform, lent]
        exact checkIn _ _ others
  cases event with
  | start => exact start world before
  | stop => exact stop world before
  | checkOut =>
    rcases lent : pool.checkOut with error | ⟨connection, pool'⟩
    · simp only [Event.perform, lent]
      exact before
    · simp only [Event.perform, lent]
      exact checkOut before lent
  | checkIn connection => exact checkIn connection world before
  | borrow use keeps => exact borrow use keeps
  | exchange commands =>
    change holds (pool.exchange commands world).2.2.1
    rw [exchange_pool]
    exact borrow _ false
  | elsewhere world' => exact before

end RespClient.Pool
