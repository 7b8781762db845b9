import RespClient.Proofs.PoolRotation

/-!
# Opening a pool

A pool that opens sets its connections up one after the other, for the addresses of its configuration in
turn. `SetUps` says what that takes if it goes well, and `SetUpFails` if a connection does not answer;
`setUp_cases_at` says that there is no third way. Then the pool is open with all its connections or
is as it was, and `Started` lists how it can come to that.

Which connections are made for this is told by the roster of a pool whose connections are enrolled
(`constructed`): `SetUps.entries` counts them, and `SetUps.shown` takes what is known of enrolled connections
back to those of the pool.

`opens_whole_or_not` is the main statement.
-/

namespace RespClient

variable {C Net : Type}

/-! ## Connections that are open -/

variable (C) in
/-- Connections of this type are open once their server has answered, and not before. -/
structure Connection.Opening [Connection C Net] : Prop where
  created : ∀ (address : String) (timeout : Duration) (world : World Net),
    Connection.isOpen (Connection.create (C := C) address timeout world).1 = false
  probed : ∀ {connection after : C} {world world' : World Net},
    Connection.probe connection world = (.ok (), after, world') → Connection.isOpen after = true

theorem Tcp.Session.opening : Connection.Opening Tcp.Session where
  created _ _ _ := rfl
  probed {session after world world'} probes := by
    change session.probe world = (.ok (), after, world') at probes
    change after.isOpen = true
    rcases probe_cases session world with
      ⟨opened, out⟩ | ⟨error, sent, world'', -, -, out⟩ | ⟨sent, world'', -, asks, out⟩ |
        ⟨reply, sent, world'', -, -, -, out⟩
    all_goals
      rw [out] at probes
      cases probes
    · exact opened
    · obtain ⟨⟨link, stage, -⟩, -⟩ := connected_of_ask_ok asks
      rw [isOpen, stage]

theorem Scripted.Session.opening : Connection.Opening Scripted.Session where
  created _ _ _ := rfl
  probed {session after world world'} probes := by
    change session.probe world = (.ok (), after, world') at probes
    change decide (after.phase = .opened) = true
    unfold probe at probes
    split at probes
    · cases probes
    · next opened =>
      cases probes
      exact decide_eq_true opened
    · dsimp only at probes
      split at probes
      · cases probes
      · cases probes
        rfl

namespace Pool

/-! ## Setting connections up -/

namespace Config

/-- The address for the connection that is made in this turn. -/
def addressAt (config : Config) (turn : Nat) : String :=
  (config.addresses[turn % config.addresses.length]?).getD ""

/-- The connections for this many turns, from a turn on. -/
def turnsFrom (config : Config) (turn count : Nat) : List (String × Duration) :=
  (List.range' turn count).map fun turn => (config.addressAt turn, config.connectionTimeout)

theorem turnsFrom_succ (config : Config) (turn count : Nat) :
    config.turnsFrom turn (count + 1) =
      (config.addressAt turn, config.connectionTimeout) :: config.turnsFrom (turn + 1) count := by
  rw [turnsFrom, List.range'_succ]
  rfl

theorem turnsFrom_concat (config : Config) (turn count : Nat) :
    config.turnsFrom turn (count + 1) =
      config.turnsFrom turn count ++ [(config.addressAt (turn + count), config.connectionTimeout)] := by
  rw [turnsFrom, List.range'_concat, List.map_append, Nat.one_mul]
  rfl

end Config

theorem Rotation.At.current_eq {config : Config} {rotation : Rotation} {turn : Nat}
    (reached : At config rotation turn) : rotation.current = config.addressAt turn := by
  rw [Config.addressAt, reached.current]
  rfl

variable [Connection C Net]

/-- Connections that are set up one after the other, from a turn on, and that answer if they are probed. -/
inductive SetUps (config : Config) : Nat → World Net → List C → World Net → Prop where
  | none {turn : Nat} {world : World Net} : SetUps config turn world [] world
  | creates {turn : Nat} {fresh : C} {rest : List C} {world world₁ world' : World Net}
    (mode : config.mode = .lazy)
    (created : Connection.create (config.addressAt turn) config.connectionTimeout world =
      (fresh, world₁))
    (more : SetUps config (turn + 1) world₁ rest world') :
    SetUps config turn world (fresh :: rest) world'
  | probes {turn : Nat} {fresh connection : C} {rest : List C} {world world₁ world₂ world' : World Net}
    (mode : config.mode = .aggressive)
    (created : Connection.create (config.addressAt turn) config.connectionTimeout world =
      (fresh, world₁))
    (answers : Connection.probe fresh world₁ = (.ok (), connection, world₂))
    (more : SetUps config (turn + 1) world₂ rest world') :
    SetUps config turn world (connection :: rest) world'

/-- The connection that is made in this turn does not answer. It is closed, and dropped. -/
inductive SetUpFails (config : Config) (turn : Nat) (world : World Net) :
    Error → C → World Net → Prop where
  | fails {fresh lost dropped : C} {error : Error} {result : Except Error Unit}
    {world₁ world₂ world' : World Net} (mode : config.mode = .aggressive)
    (created : Connection.create (config.addressAt turn) config.connectionTimeout world =
      (fresh, world₁))
    (unanswered : Connection.probe fresh world₁ = (.error error, lost, world₂))
    (closes : Connection.close lost (world₂.report (.probeFailed (config.addressAt turn) error)) =
      (result, dropped, world')) :
    SetUpFails config turn world error dropped world'

section Turns

variable {config : Config} {rotation : Rotation} {turn : Nat}

/-- A connection is set up in its turn, or does not answer. -/
theorem setUp_cases_at (reached : Rotation.At config rotation turn) (world : World Net) :
    (∃ (connection : C) (world' : World Net), SetUps config turn world [connection] world' ∧
      setUp config (rotation, world) = (.ok connection, rotation.advance, world')) ∨
    ∃ (error : Error) (dropped : C) (world' : World Net),
      SetUpFails config turn world error dropped world' ∧
      setUp (C := C) config (rotation, world) = (.error error, rotation.advance, world') := by
  have current := reached.current_eq
  rcases created : Connection.create (C := C) (config.addressAt turn) config.connectionTimeout world with
    ⟨fresh, world₁⟩
  cases mode : config.mode with
  | lazy =>
    refine Or.inl ⟨fresh, world₁, .creates mode created .none, ?_⟩
    simp only [setUp, current, created, mode]
  | aggressive =>
    rcases answers : Connection.probe fresh world₁ with ⟨error | ⟨⟩, connection, world₂⟩
    · rcases closes : Connection.close connection
        (world₂.report (.probeFailed (config.addressAt turn) error)) with ⟨result, dropped, world₃⟩
      refine Or.inr ⟨error, dropped, world₃, .fails mode created answers closes, ?_⟩
      simp only [setUp, current, created, mode, answers, closes]
    · refine Or.inl ⟨connection, world₂, .probes mode created answers .none, ?_⟩
      simp only [setUp, current, created, mode, answers]

theorem SetUps.cons {connection : C} {rest : List C} {world world₁ world' : World Net}
    (first : SetUps config turn world [connection] world₁)
    (more : SetUps config (turn + 1) world₁ rest world') :
    SetUps config turn world (connection :: rest) world' := by
  cases first with
  | creates mode created none =>
    cases none
    exact .creates mode created more
  | probes mode created answers none =>
    cases none
    exact .probes mode created answers more

/-- Calls that set connections up one after the other do so in turn. -/
theorem SetUps.of_makes {made : List C} {state last : Rotation × World Net}
    (makes : Stock.Makes (setUp config) state made last) (reached : Rotation.At config state.1 turn) :
    SetUps config turn state.2 made last.2 ∧ Rotation.At config last.1 (turn + made.length) := by
  induction makes generalizing turn with
  | none => exact ⟨.none, reached⟩
  | @more state next last connection rest gives others step =>
    rcases setUp_cases_at (C := C) reached state.2 with
      ⟨connection, world, first, out⟩ | ⟨error, dropped, world, fails, out⟩
    · cases out.symm.trans gives
      obtain ⟨more, next⟩ := step reached.advance
      rw [Nat.add_right_comm] at next
      exact ⟨first.cons more, next⟩
    · cases out.symm.trans gives

/-- A stock with room for as many connections is filled with them in turn, up to the first that does not
answer. -/
theorem fillFrom_cases (stock : Stock C) (count : Nat) (room : stock.length + count ≤ stock.capacity)
    (reached : Rotation.At config rotation turn) (world : World Net) :
    (∃ (made : List C) (rotation' : Rotation) (world' : World Net),
      SetUps config turn world made world' ∧ made.length = count ∧
      Rotation.At config rotation' (turn + count) ∧
      stock.fillFrom (setUp config) count (rotation, world) =
        (.ok { stock with available := stock.available ++ made }, rotation', world')) ∨
    ∃ (made : List C) (world₁ : World Net) (error : Error) (dropped : C) (rotation' : Rotation)
      (world' : World Net), SetUps config turn world made world₁ ∧ made.length < count ∧
      SetUpFails config (turn + made.length) world₁ error dropped world' ∧
      stock.fillFrom (setUp config) count (rotation, world) =
        (.error (.reported error), rotation', world') := by
  have ends := Stock.fillFrom_fills (setUp (C := C) config) stock count (rotation, world)
  generalize stock.fillFrom (setUp config) count (rotation, world) = out at ends ⊢
  cases ends with
  | @whole made last makes complete =>
    obtain ⟨setUps, next⟩ := SetUps.of_makes makes reached
    rw [complete] at next
    exact Or.inl ⟨made, last.1, last.2, setUps, complete, next, rfl⟩
  | @stops made error between last makes early fails =>
    obtain ⟨before, next⟩ := SetUps.of_makes makes reached
    rcases setUp_cases_at (C := C) next between.2 with
      ⟨connection, world', -, out⟩ | ⟨error, dropped, world', failed, out⟩
    · cases out.symm.trans fails
    · cases out.symm.trans fails
      exact Or.inr ⟨made, between.2, error, dropped, _, world', before, early, failed, rfl⟩
  | overfills makes early gives full => omega

end Turns

/-! ## How a pool starts -/

/-- How a start can end, with the connections that were made for it, and with what it leaves. -/
inductive Started (pool : Pool C) (world : World Net) :
    List (String × Duration) → Except Failure Unit × Pool C × World Net → Prop where
  | invalid {error : Error} (faulty : pool.config.check = .error error) :
    Started pool world [] (.error (.reported error), pool, world)
  | alreadyOpen (valid : pool.config.check = .ok ()) (opened : pool.isOpen = true) :
    Started pool world [] (.error (.reported .poolAlreadyOpen), pool, world)
  | tooLarge (valid : pool.config.check = .ok ()) (closed : pool.isOpen = false)
    (large : maxRoom < pool.config.capacity) :
    Started pool world [] (.error (.crashed .capacityOverflow), pool, world)
  /-- A connection does not answer. It and those before it have been made, and no others are. -/
  | aborts {made : List C} {error : Error} {dropped : C} {world₁ world' : World Net}
    (valid : pool.config.check = .ok ()) (closed : pool.isOpen = false)
    (before : SetUps pool.config 0 world made world₁) (early : made.length < pool.config.capacity)
    (fails : SetUpFails pool.config made.length world₁ error dropped world')
    (lost : Connection.isClosed dropped = true) :
    Started pool world (pool.config.turnsFrom 0 (made.length + 1)) (.error (.reported error), pool, world')
  | opens {made : List C} {rotation : Rotation} {world' : World Net}
    (valid : pool.config.check = .ok ()) (closed : pool.isOpen = false)
    (all : SetUps pool.config 0 world made world') (complete : made.length = pool.config.capacity)
    (next : Rotation.At pool.config rotation pool.config.capacity) :
    Started pool world (pool.config.turnsFrom 0 pool.config.capacity)
      (.ok (), { pool with opened := some ⟨⟨pool.config.capacity, made⟩, rotation⟩ },
        world'.report (.poolOpened pool.config.capacity pool.config.addresses.length pool.config.mode))

theorem Config.nonempty_of_check {config : Config} (valid : config.check = .ok ()) :
    0 < config.addresses.length := by
  unfold check at valid
  split at valid
  · cases valid
  · split at valid
    · cases valid
    · next some => exact List.length_pos_iff.2 fun none => some (by rw [none]; rfl)

theorem Config.capacity_of_check {config : Config} (valid : config.check = .ok ()) :
    config.capacity ≠ 0 := by
  intro none
  rw [check, if_pos none] at valid
  cases valid

theorem SetUpFails.isClosed (closes : Connection.Closes C) {config : Config} {turn : Nat}
    {world world' : World Net} {error : Error} {dropped : C}
    (fails : SetUpFails config turn world error dropped world') :
    Connection.isClosed dropped = true := by
  cases fails with
  | @fails fresh lost dropped error result world₁ world₂ world' mode created unanswered closed =>
    have shut := closes lost (world₂.report (.probeFailed (config.addressAt turn) error))
    rwa [closed] at shut

theorem started (closes : Connection.Closes C) (pool : Pool C) (world : World Net) :
    ∃ made, Started pool world made (pool.start world) := by
  cases valid : pool.config.check with
  | error error =>
    refine ⟨[], ?_⟩
    simp only [start, valid]
    exact .invalid valid
  | ok =>
    cases opened : pool.isOpen with
    | true =>
      refine ⟨[], ?_⟩
      simp only [start, valid, opened, if_true]
      exact .alreadyOpen valid opened
    | false =>
      have nonempty := Config.nonempty_of_check valid
      have found : Rotation.ofAddresses pool.config.addresses =
          .ok ⟨pool.config.addresses, 0, nonempty⟩ := dif_pos nonempty
      have reached := Rotation.At.ofAddresses found
      by_cases large : maxRoom < pool.config.capacity
      · refine ⟨[], ?_⟩
        simp only [start, valid, opened, found, Stock.create, large, if_true, Bool.false_eq_true,
          if_false]
        exact .tooLarge valid opened large
      · have room : (Stock.empty pool.config.capacity : Stock C).length + pool.config.capacity ≤
          pool.config.capacity := Nat.le_of_eq (Nat.zero_add _)
        rcases fillFrom_cases (Stock.empty pool.config.capacity) pool.config.capacity room reached world
          with ⟨made, rotation', world', all, complete, next, fills⟩ |
            ⟨made, world₁, error, dropped, rotation', world', before, early, fails, fills⟩
        · refine ⟨pool.config.turnsFrom 0 pool.config.capacity, ?_⟩
          simp only [start, valid, opened, found, Stock.create, large, Stock.fill, fills,
            Bool.false_eq_true, if_false]
          rw [Nat.zero_add] at next
          have size : rotation'.size = pool.config.addresses.length := congrArg List.length next.addresses
          rw [size]
          exact .opens valid opened all complete next
        · refine ⟨pool.config.turnsFrom 0 (made.length + 1), ?_⟩
          simp only [start, valid, opened, found, Stock.create, large, Stock.fill, fills,
            Bool.false_eq_true, if_false]
          rw [Nat.zero_add] at fails
          exact .aborts valid opened before early fails (fails.isClosed closes)

/-! ## Connections that were made -/

section Views

variable {D Mirror : Type} [Connection D Mirror] (view : Connection.View D C) {config : Config}
  {turn : Nat} {world world' : World Mirror}

theorem created_view {address : String} {timeout : Duration} {fresh : D}
    (created : Connection.create address timeout world = (fresh, world')) :
    Connection.create address timeout (world.map view.net) = (view.bare fresh, world'.map view.net) := by
  rw [view.create, created]

/-- What is seen of connections that are set up is set up. -/
theorem SetUps.shown {made : List D} (setUps : SetUps config turn world made world') :
    SetUps config turn (world.map view.net) (made.map view.bare) (world'.map view.net) := by
  induction setUps with
  | none => exact .none
  | creates mode created _ more => exact .creates mode (created_view view created) more
  | probes mode created answers _ more =>
    exact .probes mode (created_view view created) (Call.Shows.of_calls view.probe answers) more

theorem SetUpFails.shown {error : Error} {dropped : D}
    (fails : SetUpFails config turn world error dropped world') :
    SetUpFails config turn (world.map view.net) error (view.bare dropped) (world'.map view.net) := by
  cases fails with
  | fails mode created unanswered closes =>
    exact .fails mode (created_view view created) (Call.Shows.of_calls view.probe unanswered)
      (Call.Shows.of_calls view.close closes)

end Views

section Rosters

variable {config : Config} {turn : Nat} {world world' : World (Roster Net)}

theorem entries_created {address : String} {timeout : Duration} {fresh : Enrolled C}
    (created : Connection.create address timeout world = (fresh, world')) :
    world'.net.entries = world.net.entries ++ [(address, timeout)] :=
  (congrArg (fun made => made.2.net.entries) created).symm

omit [Connection C Net] in
theorem entries_called {ε α : Type} {action : Call C Net ε α} {enrolled after : Enrolled C}
    {result : Except ε α} (calls : Enrolled.call action enrolled world = (result, after, world')) :
    world'.net.entries = world.net.entries :=
  (congrArg (fun called => called.2.2.net.entries) calls).symm

/-- Connections that are set up are on the roster, and nothing else comes on it. -/
theorem SetUps.entries {made : List (Enrolled C)} (setUps : SetUps config turn world made world') :
    world'.net.entries = world.net.entries ++ config.turnsFrom turn made.length := by
  induction setUps with
  | none => exact (List.append_nil _).symm
  | creates mode created _ more =>
    rw [more, entries_created created, List.append_assoc, List.length_cons, Config.turnsFrom_succ]
    rfl
  | probes mode created answers _ more =>
    rw [more, entries_called answers, entries_created created, List.append_assoc, List.length_cons,
      Config.turnsFrom_succ]
    rfl

theorem SetUpFails.entries {error : Error} {dropped : Enrolled C}
    (fails : SetUpFails config turn world error dropped world') :
    world'.net.entries =
      world.net.entries ++ [(config.addressAt turn, config.connectionTimeout)] := by
  cases fails with
  | fails mode created unanswered closes =>
    rw [entries_called closes]
    exact (entries_called unanswered).trans (entries_created created)

end Rosters

/-- The connections that are made when a pool starts: the address and the timeout of each, in order. -/
def constructed (pool : Pool C) (world : World Net) : List (String × Duration) :=
  ((pool.map Enrolled.mk).start world.enrolling).2.2.net.entries

omit [Connection C Net] in
theorem map_enrolled (pool : Pool C) : (pool.map Enrolled.mk).map Enrolled.connection = pool := by
  rcases pool with ⟨config, _ | ⟨⟨capacity, available⟩, rotation⟩⟩
  · rfl
  · simp only [map, Stock.map, Option.map_some, List.map_map]
    rw [show Enrolled.connection ∘ Enrolled.mk = (id : C → C) from rfl, List.map_id]

/-- The list of the connections that were made for a start is the right one. -/
theorem started_constructed (closes : Connection.Closes C) (pool : Pool C) (world : World Net) :
    Started pool world (constructed pool world) (pool.start world) := by
  have shown := start_view Enrolled.view (pool.map Enrolled.mk) world.enrolling
  change ((pool.map Enrolled.mk).map Enrolled.connection).start world = _ at shown
  obtain ⟨made, starts⟩ := started (Enrolled.closes closes) (pool.map Enrolled.mk) world.enrolling
  have sameLife : (pool.map Enrolled.mk).isOpen = pool.isOpen := Option.isSome_map
  rw [map_enrolled] at shown
  rw [shown, constructed]
  generalize (pool.map Enrolled.mk).start world.enrolling = out at starts
  have same : (pool.map Enrolled.mk).map Enrolled.view.bare = pool := map_enrolled pool
  cases starts with
  | invalid faulty =>
    dsimp only
    rw [same]
    exact .invalid faulty
  | alreadyOpen valid opened =>
    dsimp only
    rw [same]
    exact .alreadyOpen valid (sameLife.symm.trans opened)
  | tooLarge valid closed large =>
    dsimp only
    rw [same]
    exact .tooLarge valid (sameLife.symm.trans closed) large
  | @aborts made error dropped world₁ world' valid closed before early fails lost =>
    have entries : world'.net.entries = pool.config.turnsFrom 0 (made.length + 1) := by
      rw [fails.entries, before.entries, Config.turnsFrom_concat, Nat.zero_add]
      rfl
    have count : (made.map Enrolled.view.bare).length = made.length := List.length_map _
    have before' := before.shown Enrolled.view
    have fails' := fails.shown Enrolled.view
    dsimp only
    rw [same, entries, ← count]
    rw [← count] at early fails'
    exact .aborts valid (sameLife.symm.trans closed) before' early fails' lost
  | @opens made rotation world' valid closed all complete next =>
    have entries : world'.net.entries = pool.config.turnsFrom 0 pool.config.capacity := by
      rw [all.entries, complete]
      rfl
    have count : (made.map Enrolled.view.bare).length = pool.config.capacity :=
      (List.length_map _).trans complete
    have valid' : pool.config.check = .ok () := valid
    have closed' : pool.isOpen = false := sameLife.symm.trans closed
    have opens := Started.opens valid' closed' (all.shown Enrolled.view) count next
    change Started pool world world'.net.entries _
    rw [entries]
    exact opens

/-! ## What a start leaves -/

section Leaves

variable {config : Config} {turn : Nat} {world world' : World Net} {made : List C}

/-- Connections that are set up are fit for use, and open if they were probed. -/
theorem SetUps.fit (laws : Connection.Laws C) (opening : Connection.Opening C)
    (setUps : SetUps config turn world made world') : ∀ connection ∈ made,
      Connection.Fit connection ∧ Connection.isOpen connection = decide (config.mode = .aggressive) := by
  induction setUps with
  | none => exact List.forall_mem_nil _
  | @creates turn fresh rest world world₁ world' mode created _ more =>
    have fit := laws.created (config.addressAt turn) config.connectionTimeout world
    have unopened := opening.created (config.addressAt turn) config.connectionTimeout world
    rw [created] at fit unopened
    exact List.forall_mem_cons.2 ⟨⟨fit, by rw [unopened, mode]; rfl⟩, more⟩
  | @probes turn fresh connection rest world world₁ world₂ world' mode created answers _ more =>
    have fit := laws.created (config.addressAt turn) config.connectionTimeout world
    rw [created] at fit
    exact List.forall_mem_cons.2
      ⟨⟨laws.probed fit.owesNothing answers, by rw [opening.probed answers, mode]; rfl⟩, more⟩

/-- Connections that are not probed do what new connections do, and no more. -/
theorem SetUps.quiet (quiet : ∀ (address : String) (timeout : Duration) (world : World Net),
      (Connection.create (C := C) address timeout world).2 = world)
    (setUps : SetUps config turn world made world') (mode : config.mode = .lazy) : world' = world := by
  induction setUps with
  | none => rfl
  | @creates turn fresh rest world world₁ world' _ created _ more =>
    have same := quiet (config.addressAt turn) config.connectionTimeout world
    rw [created] at same
    exact more.trans same
  | probes mode' => cases mode.symm.trans mode'

end Leaves

/-- **A pool opens whole or not at all.** A start ends in one of the ways of `Started`. A configuration with a
fault is refused, and so is a pool that is open, and no connection is made. If a connection does not answer, that
one and those before it have been made, in turn from the first address on, and no others; it is closed, and the
error is the one that it reported. Else as many connections are made as the pool has places, and stored in this
order. A pool that does not start is as it was, and if it was closed then it starts later like one that has
never been started. In a pool that starts no connection owes a reply or is closed. All are open if they were to be
probed, and else none is, and if new connections do nothing to the network then nothing was done to it. -/
theorem opens_whole_or_not (laws : Connection.Laws C) (opening : Connection.Opening C) (pool : Pool C)
    (world : World Net) :
    let out := pool.start world
    Started pool world (constructed pool world) out ∧
    (∀ failure, out.1 = .error failure → out.2.1 = pool ∧
      (pool.isOpen = false → out.2.1.isOpen = false ∧ out.2.1.size = 0 ∧ out.2.1.length = 0 ∧
        ∀ later : World Net, out.2.1.start later = ({ config := pool.config } : Pool C).start later)) ∧
    (out.1 = .ok () → out.2.1.isOpen = true ∧ out.2.1.size = pool.config.capacity ∧
      out.2.1.length = pool.config.capacity ∧ ∀ connection ∈ out.2.1.stored,
        Connection.isClosed connection = false ∧ Connection.owed connection = 0 ∧
        Connection.isOpen connection = decide (pool.config.mode = .aggressive)) ∧
    (pool.config.mode = .lazy → (∀ (address : String) (timeout : Duration) (world : World Net),
      (Connection.create (C := C) address timeout world).2 = world) → out.2.2.net = world.net) := by
  intro out
  have starts : Started pool world (constructed pool world) out :=
    started_constructed laws.closes pool world
  generalize constructed pool world = made at starts
  refine ⟨starts, fun failure refused => ?_, fun succeeds => ?_, fun mode quiet => ?_⟩
  · have same : out.2.1 = pool := by
      generalize out = out at starts refused
      cases starts with
      | invalid | alreadyOpen | tooLarge | aborts => rfl
      | opens => cases refused
    refine ⟨same, fun closed => ?_⟩
    rw [same]
    rcases pool with ⟨config, _ | opened⟩
    · exact ⟨rfl, rfl, rfl, fun _ => rfl⟩
    · cases closed
  · generalize out = out at starts succeeds ⊢
    cases starts with
    | invalid | alreadyOpen | tooLarge | aborts => cases succeeds
    | opens valid closed all complete next =>
      refine ⟨rfl, rfl, complete, fun connection there => ?_⟩
      obtain ⟨fit, isOpen⟩ := all.fit laws opening connection there
      exact ⟨fit.notClosed, fit.owesNothing, isOpen⟩
  · generalize out = out at starts ⊢
    cases starts with
    | invalid | alreadyOpen | tooLarge => rfl
    | aborts valid closed before early fails =>
      cases fails with
      | fails mode' => cases mode.symm.trans mode'
    | opens valid closed all =>
      rw [all.quiet quiet mode]
      rfl

/-- Three connections for two servers, of which the second one is not there: two connections are made. -/
theorem opens_whole_or_not_instance :
    let world : World Tcp.Network :=
      ⟨{ routed := true, servers := [⟨"localhost:6379", [utf8 "+PONG\r\n", utf8 "+PONG\r\n"], .closed⟩] },
        #[]⟩
    let addresses := ["localhost:6379", "localhost:6380"]
    let pool : Pool Tcp.Session := { config := { capacity := 3, addresses, mode := .aggressive } }
    let out := pool.start world
    Connection.Laws Tcp.Session ∧ Connection.Opening Tcp.Session ∧
    out.1 = .error (.reported (.io .connectionRefused)) ∧
    constructed pool world = addresses.map (·, defaultTimeout) ∧
    Started pool world (constructed pool world) out ∧ out.2.1 = pool ∧ out.2.1.length = 0 := by
  intro world addresses pool out
  have refused : out.1 = .error (.reported (.io .connectionRefused)) := by
    dsimp +zetaDelta only
    decide +kernel
  have made : constructed pool world = addresses.map (·, defaultTimeout) := by
    dsimp +zetaDelta only
    decide +kernel
  obtain ⟨starts, unchanged, -⟩ :=
    opens_whole_or_not Tcp.Session.laws Tcp.Session.opening pool world
  obtain ⟨same, closed⟩ := unchanged _ refused
  obtain ⟨-, -, empty, -⟩ := closed rfl
  exact ⟨Tcp.Session.laws, Tcp.Session.opening, refused, made, starts, same, empty⟩

end Pool

end RespClient
