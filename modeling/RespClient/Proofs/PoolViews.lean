import RespClient.Proofs.ConnectionViews
import RespClient.Proofs.PoolRun

/-!
# Pools under a view

A view shows connections of one type as those of another. What is seen of a pool is then a pool of what
is seen of its connections, and what a pool does is seen as what that pool does: `start_view`,
`stop_view`, `checkOut_map`, `checkIn_view` and `exchange_pool_view`.
-/

namespace RespClient.Pool

/-! ## Stocks -/

section Stocks

variable {α β σ τ : Type} (f : α → β)

/-- The stock of what `f` makes of the values. -/
def Stock.map (stock : Stock α) : Stock β := ⟨stock.capacity, stock.available.map f⟩

theorem Stock.put_map (stock : Stock α) (value : α) :
    (stock.map f).put (f value) =
      match stock.put value with
      | .ok stock' => .ok (stock'.map f)
      | .error surplus => .error (f surplus) := by
  have sameLength : (stock.map f).length = stock.length := List.length_map f
  have sameCapacity : (stock.map f).capacity = stock.capacity := rfl
  unfold Stock.put
  rw [sameLength, sameCapacity]
  split
  · simp only [Stock.map, List.map_append, List.map_cons, List.map_nil]
  · rfl

/-- A stock is filled from what another is filled from. -/
theorem Stock.fillFrom_map {g : σ → τ} {factory : σ → Except Error α × σ}
    {factory' : τ → Except Error β × τ}
    (same : ∀ state, factory' (g state) = ((factory state).1.map f, g (factory state).2))
    (stock : Stock α) (count : Nat) (state : σ) :
    (stock.map f).fillFrom factory' count (g state) =
      ((stock.fillFrom factory count state).1.map (Stock.map f),
        g (stock.fillFrom factory count state).2) := by
  induction count generalizing stock state with
  | zero => rfl
  | succ count more =>
    have made := same state
    rcases makes : factory state with ⟨error | value, next⟩
    · rw [makes] at made
      simp only [Stock.fillFrom, makes, made, Except.map]
    · rw [makes] at made
      have puts := Stock.put_map f stock value
      rcases put : stock.put value with surplus | stock'
      · rw [put] at puts
        simp only [Stock.fillFrom, makes, made, Except.map, put, puts]
        rfl
      · rw [put] at puts
        simp only [Stock.fillFrom, makes, made, Except.map, put, puts]
        exact more stock' next

theorem Stock.create_map {g : σ → τ} {factory : σ → Except Error α × σ}
    {factory' : τ → Except Error β × τ}
    (same : ∀ state, factory' (g state) = ((factory state).1.map f, g (factory state).2))
    (capacity : Nat) (state : σ) :
    Stock.create capacity factory' (g state) =
      ((Stock.create capacity factory state).1.map (Stock.map f),
        g (Stock.create capacity factory state).2) := by
  unfold Stock.create
  split
  · rfl
  · exact Stock.fillFrom_map f same (Stock.empty capacity) capacity state

end Stocks

/-! ## Pools -/

variable {C D Net Mirror : Type}

/-- The pool of what `f` makes of the connections. -/
def map (f : D → C) (pool : Pool D) : Pool C where
  config := pool.config
  opened := pool.opened.map fun opened => ⟨opened.idle.map f, opened.rotation⟩

theorem checkOut_map (f : D → C) (pool : Pool D) :
    (pool.map f).checkOut = pool.checkOut.map fun lent => (f lent.1, lent.2.map f) := by
  rcases pool with ⟨config, _ | ⟨⟨capacity, _ | ⟨first, others⟩⟩, rotation⟩⟩ <;> rfl

variable [Connection D Mirror] [Connection C Net] (view : Connection.View D C)

theorem setUp_view (config : Config) (rotation : Rotation) (world : World Mirror) :
    setUp config (rotation, world.map view.net) =
      ((setUp (C := D) config (rotation, world)).1.map view.bare,
        (setUp (C := D) config (rotation, world)).2.1,
        (setUp (C := D) config (rotation, world)).2.2.map view.net) := by
  have created := view.create rotation.current config.connectionTimeout world
  rcases creates : Connection.create (C := D) rotation.current config.connectionTimeout world
    with ⟨fresh, world'⟩
  rw [creates] at created
  simp only [setUp, creates, created]
  cases config.mode with
  | lazy => rfl
  | aggressive =>
    have probed := view.probe fresh world'
    rcases probes : Connection.probe fresh world' with ⟨error | ⟨⟩, after, world''⟩
    · rw [probes] at probed
      have closed := view.close after (world''.report (.probeFailed rotation.current error))
      simp only [probed]
      exact congrArg (fun out => (Except.error error, rotation.advance, out.2.2)) closed
    · rw [probes] at probed
      simp only [probed]
      rfl

theorem start_view (pool : Pool D) (world : World Mirror) :
    (pool.map view.bare).start (world.map view.net) =
      ((pool.start world).1, (pool.start world).2.1.map view.bare,
        (pool.start world).2.2.map view.net) := by
  rcases pool with ⟨config, opened⟩
  rcases checked : config.check with error | ⟨⟩
  · simp only [start, map, checked]
  · rcases opened with _ | opened
    · rcases found : Rotation.ofAddresses config.addresses with error | rotation
      · simp only [start, map, checked, found, isOpen]
        rfl
      · let bareState (state : Rotation × World Mirror) : Rotation × World Net :=
          (state.1, state.2.map view.net)
        have creates : Stock.create config.capacity (setUp config) (rotation, world.map view.net) = _ :=
          Stock.create_map (g := bareState) view.bare
            (fun state => setUp_view view config state.1 state.2) config.capacity (rotation, world)
        rcases created : Stock.create config.capacity (setUp (C := D) config)
          (rotation, world) with ⟨failure | idle, rotation', world'⟩
        · rw [created] at creates
          simp only [start, map, checked, found, created, creates, isOpen, Option.map_none]
          rfl
        · rw [created] at creates
          simp only [start, map, checked, found, created, creates, isOpen, Option.map_none]
          rfl
    · simp only [start, map, checked, isOpen]
      rfl

theorem closeAll_view (connections : List D) (world : World Mirror) :
    closeAll (connections.map view.bare) (world.map view.net) =
      (closeAll connections world).map view.net := by
  induction connections generalizing world with
  | nil => rfl
  | cons connection rest others =>
    have closed := view.close connection world
    rcases closes : Connection.close connection world with ⟨error | ⟨⟩, after, world'⟩
    · rw [closes] at closed
      simp only [closeAll, List.map_cons, closes, closed]
      exact others (world'.report _)
    · rw [closes] at closed
      simp only [closeAll, List.map_cons, closes, closed]
      exact others world'

theorem stop_view (pool : Pool D) (world : World Mirror) :
    (pool.map view.bare).stop (world.map view.net) =
      ((pool.stop world).1.map view.bare, (pool.stop world).2.map view.net) := by
  rcases pool with ⟨config, _ | ⟨idle, rotation⟩⟩
  · rfl
  · have closes := closeAll_view view idle.available world
    have sameLength : (idle.map view.bare).length = idle.length := List.length_map _
    simp only [stop, map, Option.map_some, sameLength]
    rw [show closeAll (idle.map view.bare).available (world.map view.net) = _ from closes]
    rfl

theorem closeIfOwing_view (connection : D) (world : World Mirror) :
    closeIfOwing (view.bare connection) (world.map view.net) =
      (view.bare (closeIfOwing connection world).1,
        (closeIfOwing connection world).2.map view.net) := by
  unfold closeIfOwing
  rw [view.isClosed, view.owed]
  dsimp only
  split
  · exact congrArg Prod.snd
      (view.close connection (world.report (.returnedUnread (Connection.owed connection))))
  · rfl

theorem renew_view (config : Config) (connection : D) (rotation : Rotation)
    (world : World Mirror) :
    renew config (view.bare connection) rotation (world.map view.net) =
      (view.bare (renew config connection rotation world).1,
        (renew config connection rotation world).2.1,
        (renew config connection rotation world).2.2.map view.net) := by
  unfold renew
  rw [view.isClosed]
  split
  · exact congrArg (fun made => (made.1, rotation.advance, made.2))
      (view.create rotation.current config.connectionTimeout world)
  · rfl

theorem checkIn_view (pool : Pool D) (connection : D) (world : World Mirror) :
    (pool.map view.bare).checkIn (view.bare connection) (world.map view.net) =
      ((pool.checkIn connection world).1.map view.bare,
        (pool.checkIn connection world).2.map view.net) := by
  rcases pool with ⟨config, _ | ⟨idle, rotation⟩⟩
  · exact congrArg (fun out => ((⟨config, none⟩ : Pool C), out.2.2))
      (view.close connection (world.report .returnedToClosedPool))
  · let owing := closeIfOwing connection world
    let renewal := renew config owing.1 rotation owing.2
    have renews : renew config (view.bare owing.1) rotation (owing.2.map view.net) =
        (view.bare renewal.1, renewal.2.1, renewal.2.2.map view.net) :=
      renew_view view config owing.1 rotation owing.2
    have puts := Stock.put_map view.bare idle renewal.1
    rcases put : idle.put renewal.1 with surplus | idle'
    · have closed := view.close surplus (renewal.2.2.report .returnedToFullPool)
      rw [put] at puts
      simp only [checkIn, map, Option.map_some, closeIfOwing_view]
      rw [renews, put]
      simp only [puts]
      exact congrArg (fun out => ((⟨config, some ⟨idle.map view.bare, renewal.2.1⟩⟩ : Pool C),
        out.2.2)) closed
    · rw [put] at puts
      simp only [checkIn, map, Option.map_some, closeIfOwing_view]
      rw [renews, put]
      simp only [puts]
      rfl

theorem exchange_pool_view (commands : List Command) (pool : Pool D) (world : World Mirror) :
    (pool.map view.bare).exchange commands (world.map view.net) =
      ((pool.exchange commands world).1, (pool.exchange commands world).2.1,
        (pool.exchange commands world).2.2.1.map view.bare,
        (pool.exchange commands world).2.2.2.map view.net) := by
  have lending := checkOut_map view.bare pool
  rcases lent : pool.checkOut with error | ⟨connection, pool'⟩
  · rw [lent] at lending
    simp only [exchange, lent, lending, Except.map]
  · rw [lent] at lending
    have exchanged := view.exchange commands connection world
    simp only [exchange, lent, lending, Except.map, exchanged]
    rw [checkIn_view]

end RespClient.Pool
