import RespClient.Proofs.PoolCustody

/-!
# Capacity of a pool

An open pool has the number of places that its configuration asks for. `checkIn_of_open` says what
becomes of a connection that is given back: what it is renewed to is stored if there is a place for
it, and closed if there is none.

While callers give back only what they were lent, each place is taken by a stored connection or is
kept for one that is out. `Lending` follows one session of a pool with the numbers of the connections
that are out, and `Balanced` is this equation. `capacity_conserved` is the main statement.
-/

namespace RespClient.Pool

variable {C Net : Type}

/-! ## Stocks -/

/-- A stock that is filled has as many values more as were to be put in. -/
theorem Stock.length_of_fillFrom {α σ : Type} {factory : σ → Except Error α × σ}
    {stock filled : Stock α} {count : Nat} {state state' : σ}
    (fills : stock.fillFrom factory count state = (.ok filled, state')) :
    filled.capacity = stock.capacity ∧ filled.length = stock.length + count := by
  have ends := Stock.fillFrom_fills factory stock count state
  rw [fills] at ends
  cases ends with
  | whole makes complete =>
    exact ⟨rfl, complete ▸ Stock.length_added stock _⟩

/-- A stock is created full. -/
theorem Stock.full_of_create {α σ : Type} {factory : σ → Except Error α × σ} {capacity : Nat}
    {filled : Stock α} {state state' : σ}
    (creates : Stock.create capacity factory state = (.ok filled, state')) :
    filled.capacity = capacity ∧ filled.length = capacity := by
  unfold Stock.create at creates
  split at creates
  · cases creates
  · obtain ⟨sameCapacity, full⟩ := Stock.length_of_fillFrom creates
    exact ⟨sameCapacity, full.trans (Nat.zero_add capacity)⟩

/-! ## What each call leaves of the places -/

theorem length_stored (pool : Pool C) : pool.stored.length = pool.length := by
  rcases pool with ⟨config, _ | opened⟩ <;> rfl

/-- A pool that has as many places as another, for the same configuration, and is open if that is. -/
structure SamePlaces (pool pool' : Pool C) : Prop where
  config : pool'.config = pool.config
  isOpen : pool'.isOpen = pool.isOpen
  size : pool'.size = pool.size

theorem SamePlaces.trans {pool pool' pool'' : Pool C} (first : SamePlaces pool pool')
    (second : SamePlaces pool' pool'') : SamePlaces pool pool'' :=
  ⟨second.config.trans first.config, second.isOpen.trans first.isOpen, second.size.trans first.size⟩

/-- A connection that is lent leaves its place. -/
theorem checkOut_places {pool pool' : Pool C} {connection : C}
    (lent : pool.checkOut = .ok (connection, pool')) :
    SamePlaces pool pool' ∧ pool.length = pool'.length + 1 := by
  have shorter := congrArg List.length (stored_checkOut lent)
  rw [List.length_cons, length_stored, length_stored] at shorter
  refine ⟨?_, shorter⟩
  rcases pool with ⟨config, _ | ⟨⟨capacity, _ | ⟨next, rest⟩⟩, rotation⟩⟩
  · cases lent
  · cases lent
  · cases lent
    exact ⟨rfl, rfl, rfl⟩

variable [Connection C Net]

theorem checkIn_samePlaces (pool : Pool C) (connection : C) (world : World Net) :
    SamePlaces pool (pool.checkIn connection world).1 := by
  rcases pool with ⟨config, _ | ⟨idle, rotation⟩⟩
  · exact ⟨rfl, rfl, rfl⟩
  · let renewal := renew config (closeIfOwing connection world).1 rotation
      (closeIfOwing connection world).2
    rcases Stock.put_cases idle renewal.1 with ⟨-, put⟩ | ⟨-, put⟩
    · simp only [checkIn]
      rw [put]
      exact ⟨rfl, rfl, rfl⟩
    · simp only [checkIn]
      rw [put]
      exact ⟨rfl, rfl, rfl⟩

/-- What a pool has in hand for a connection that is given back, and the world in which it has it:
the connection itself if it is fit for use, or a new one if it was closed or is now. -/
inductive Renewal (config : Config) (connection : C) (world : World Net) : C → World Net → Prop
  | unchanged (fit : Connection.Fit connection) : Renewal config connection world connection world
  | ofClosed {address : String} {fresh : C} {before : World Net}
      (closed : Connection.isClosed connection = true)
      (creates : Connection.create address config.connectionTimeout world = (fresh, before)) :
      Renewal config connection world fresh before
  | ofOwing {result : Except Error Unit} {lost : C} {world' : World Net} {address : String}
      {fresh : C} {before : World Net} (owes : 0 < Connection.owed connection)
      (closes : Connection.close connection
        (world.report (.returnedUnread (Connection.owed connection))) = (result, lost, world'))
      (closed : Connection.isClosed lost = true)
      (creates : Connection.create address config.connectionTimeout world' = (fresh, before)) :
      Renewal config connection world fresh before

theorem renew_renewal (closes : Connection.Closes C) (config : Config) (connection : C)
    (rotation : Rotation) (world : World Net) :
    let renewal := renew config (closeIfOwing connection world).1 rotation
      (closeIfOwing connection world).2
    Renewal config connection world renewal.1 renewal.2.2 := by
  unfold closeIfOwing
  dsimp only
  split
  · next owing =>
    rw [Bool.and_eq_true, decide_eq_true_eq] at owing
    let reported := world.report (.returnedUnread (Connection.owed connection))
    have closed : Connection.isClosed (Connection.close connection reported).2.1 = true :=
      closes connection reported
    rw [renew, if_pos closed]
    exact Renewal.ofOwing owing.2 rfl closed rfl
  · next kept =>
    cases closed : Connection.isClosed connection with
    | true =>
      rw [renew, if_pos closed]
      exact Renewal.ofClosed closed rfl
    | false =>
      rw [closed] at kept
      have fit : Connection.Fit connection := ⟨closed, by simpa using kept⟩
      rw [renew, if_neg (ne_true_of_eq_false closed)]
      exact Renewal.unchanged fit

/-- What a connection that is given back to an open pool is renewed to is stored last if there is a
place for it, and else closed. -/
theorem checkIn_of_open (closes : Connection.Closes C) {pool : Pool C} (opened : pool.isOpen = true)
    (connection : C) (world : World Net) :
    ∃ renewed before, Renewal pool.config connection world renewed before ∧
      ((pool.length < pool.size ∧
        (pool.checkIn connection world).1.stored = pool.stored ++ [renewed] ∧
        (pool.checkIn connection world).2 = before) ∨
      (pool.size ≤ pool.length ∧
        (pool.checkIn connection world).1.stored = pool.stored ∧
        (pool.checkIn connection world).2 =
          (Connection.close renewed (before.report .returnedToFullPool)).2.2)) := by
  rcases pool with ⟨config, _ | ⟨idle, rotation⟩⟩
  · cases opened
  · have renews := renew_renewal closes config connection rotation world
    refine ⟨_, _, renews, ?_⟩
    let renewal := renew config (closeIfOwing connection world).1 rotation
      (closeIfOwing connection world).2
    rcases Stock.put_cases idle renewal.1 with ⟨room, put⟩ | ⟨full, put⟩
    · refine Or.inl ⟨room, ?_⟩
      simp only [checkIn]
      rw [put]
      exact ⟨rfl, rfl⟩
    · refine Or.inr ⟨full, ?_⟩
      simp only [checkIn]
      rw [put]
      exact ⟨rfl, rfl⟩

/-- A connection that is given back to a pool with a free place takes it. -/
theorem length_checkIn (closes : Connection.Closes C) {pool : Pool C}
    (opened : pool.isOpen = true) (room : pool.length < pool.size) (connection : C)
    (world : World Net) : (pool.checkIn connection world).1.length = pool.length + 1 := by
  obtain ⟨renewed, before, -, ⟨-, stores, -⟩ | ⟨full, -, -⟩⟩ :=
    checkIn_of_open closes opened connection world
  · rw [← length_stored, stores, List.length_append, length_stored]
    rfl
  · omega

/-- A pool that starts is full. -/
theorem start_places {pool pool' : Pool C} {world world' : World Net}
    (starts : pool.start world = (.ok (), pool', world')) :
    pool'.config = pool.config ∧ pool'.isOpen = true ∧ pool'.size = pool.config.capacity ∧
      pool'.length = pool.config.capacity := by
  rcases start_outcomes pool world with ⟨failure, out⟩ |
    ⟨rotation, failure, rotation', world'', -, -, -, out⟩ |
      ⟨rotation, idle, rotation', world'', -, -, made, out⟩
  · rw [out] at starts
    cases starts
  · rw [out] at starts
    cases starts
  · rw [out] at starts
    cases starts
    obtain ⟨sameCapacity, full⟩ := Stock.full_of_create made
    exact ⟨rfl, rfl, sameCapacity, full⟩

/-- A pool that refuses to start, or fails to, is as it was. -/
theorem start_of_error {pool pool' : Pool C} {world world' : World Net} {failure : Failure}
    (starts : pool.start world = (.error failure, pool', world')) : pool' = pool := by
  rcases start_outcomes pool world with ⟨failure, out⟩ |
    ⟨rotation, failure, rotation', world'', -, -, -, out⟩ |
      ⟨rotation, idle, rotation', world'', -, -, made, out⟩
  · rw [out] at starts
    cases starts
    rfl
  · rw [out] at starts
    cases starts
    rfl
  · rw [out] at starts
    cases starts

/-- An open pool does not start again. -/
theorem start_of_open {pool : Pool C} (opened : pool.isOpen = true) (world : World Net) :
    ∃ failure, pool.start world = (.error failure, pool, world) := by
  rcases start_outcomes pool world with ⟨failure, out⟩ |
    ⟨rotation, failure, rotation', world'', closed, -⟩ | ⟨rotation, idle, rotation', world'', closed, -⟩
  · exact ⟨failure, out⟩
  · rw [isOpen, closed] at opened
    cases opened
  · rw [isOpen, closed] at opened
    cases opened

/-! ## As many connections as places -/

/-- A pool of this configuration has its places while it is open, and no more connections. -/
structure Sized (config : Config) (pool : Pool C) : Prop where
  configured : pool.config = config
  size : pool.isOpen = true → pool.size = config.capacity
  bounded : pool.length ≤ pool.size

namespace Sized

variable {config : Config} {pool : Pool C}

theorem start (sized : Sized config pool) (world : World Net) :
    Sized config (pool.start world).2.1 := by
  rcases starts : pool.start world with ⟨failure | ⟨⟩, pool', world'⟩
  · rw [show pool' = pool from start_of_error starts]
    exact sized
  · obtain ⟨sameConfig, -, sameSize, full⟩ := start_places starts
    rw [sized.configured] at sameConfig sameSize full
    exact ⟨sameConfig, fun _ => sameSize, Nat.le_of_eq (full.trans sameSize.symm)⟩

theorem stop (sized : Sized config pool) (world : World Net) :
    Sized config (pool.stop world).1 := by
  rcases pool with ⟨config', _ | opened⟩
  · exact sized
  · exact ⟨sized.configured, nofun, Nat.le_refl 0⟩

omit [Connection C Net] in
theorem of_samePlaces {pool' : Pool C} (sized : Sized config pool) (same : SamePlaces pool pool')
    (bounded : pool'.length ≤ pool.size) : Sized config pool' where
  configured := same.config.trans sized.configured
  size opened := same.size.trans (sized.size (same.isOpen.symm.trans opened))
  bounded := Nat.le_trans bounded (Nat.le_of_eq same.size.symm)

omit [Connection C Net] in
theorem checkOut {pool' : Pool C} {connection : C} (sized : Sized config pool)
    (lent : pool.checkOut = .ok (connection, pool')) : Sized config pool' := by
  obtain ⟨same, shorter⟩ := checkOut_places lent
  have bounded := sized.bounded
  refine sized.of_samePlaces same ?_
  omega

theorem checkIn (closes : Connection.Closes C) (sized : Sized config pool) (connection : C)
    (world : World Net) : Sized config (pool.checkIn connection world).1 := by
  refine sized.of_samePlaces (checkIn_samePlaces pool connection world) ?_
  rw [← length_stored]
  cases opened : pool.isOpen with
  | true =>
    obtain ⟨renewed, before, -, ⟨room, stores, -⟩ | ⟨full, stores, -⟩⟩ :=
      checkIn_of_open closes opened connection world
    · rw [stores, List.length_append, length_stored]
      exact room
    · rw [stores, length_stored]
      exact sized.bounded
  | false =>
    rcases pool with ⟨config', _ | opened⟩
    · exact sized.bounded
    · cases opened

/-- A pool keeps its places whatever happens. -/
theorem perform (closes : Connection.Closes C) (event : Event C Net) {pool : Pool C}
    (world : World Net) (sized : Sized config pool) :
    Sized config (event.perform (pool, world)).1 :=
  Event.perform_keeps (fun world sized => sized.start world) (fun world sized => sized.stop world)
    Sized.checkOut (fun connection world sized => sized.checkIn closes connection world)
    event world sized

end Sized

/-! ## Lending and giving back -/

/-- A pool in one session, and the numbers of the connections that it has lent and not been given
back. -/
structure Lending (C Net : Type) where
  custody : Custody C Net
  loans : List Nat := []

theorem Numbered.closes (closes : Connection.Closes C) : Connection.Closes (Numbered C) :=
  fun place world => closes place.connection world.plain

namespace Lending

/-- A session that begins when the pool starts, whoever holds connections by then. -/
def opening (before : Custody C Net) : Lending C Net := { custody := before.step .start }

/-- The numbers of the connections that are out after an event. -/
def loansAfter (lending : Lending C Net) : Custody.Event C Net → List Nat
  | .checkOut =>
    match lending.custody.pool.checkOut with
    | .error _ => lending.loans
    | .ok (connection, _) => connection.number :: lending.loans
  | .checkIn place =>
    match lending.custody.held[place]? with
    | none => lending.loans
    | some connection => lending.loans.erase connection.number
  | _ => lending.loans

/-- What an event leaves. -/
def step (lending : Lending C Net) (event : Custody.Event C Net) : Lending C Net where
  custody := lending.custody.step event
  loans := lending.loansAfter event

/-- What events leave, one after the other. -/
def run (lending : Lending C Net) (events : List (Custody.Event C Net)) : Lending C Net :=
  events.foldl step lending

omit [Connection C Net] in
/-- Whether an event is one of the session and gives back nothing but what is out. -/
def allows (lending : Lending C Net) : Custody.Event C Net → Bool
  | .stop => false
  | .checkIn place => lending.custody.held[place]?.all fun connection =>
    lending.loans.contains connection.number
  | _ => true

/-- Whether all events are of the session, and give back nothing but what is out. -/
def honest (lending : Lending C Net) : List (Custody.Event C Net) → Bool
  | [] => true
  | event :: later => lending.allows event && (lending.step event).honest later

theorem custody_run (lending : Lending C Net) (events : List (Custody.Event C Net)) :
    (lending.run events).custody = lending.custody.run events := by
  induction events generalizing lending with
  | nil => rfl
  | cons event later more => exact more (lending.step event)

/-- The pool is open, and each of its places is taken by a connection or kept for one that is out. -/
structure Balanced (config : Config) (lending : Lending C Net) : Prop where
  configured : lending.custody.pool.config = config
  opened : lending.custody.pool.isOpen = true
  size : lending.custody.pool.size = config.capacity
  balance : lending.custody.pool.length + lending.loans.length = config.capacity

namespace Balanced

variable {config : Config} {lending : Lending C Net}

theorem opening {before : Custody C Net} (starts : (before.pool.start before.world).1 = .ok ()) :
    Balanced before.pool.config (opening before) := by
  rcases out : before.pool.start before.world with ⟨failure | ⟨⟩, pool, world⟩
  · rw [out] at starts
    cases starts
  · obtain ⟨sameConfig, opened, size, full⟩ := start_places out
    simp only [Lending.opening, Custody.step, out]
    exact ⟨sameConfig, opened, size, full⟩

omit [Connection C Net] in
/-- There is room for each connection that is out. -/
theorem room_of_loan (balanced : Balanced config lending) {number : Nat}
    (out : number ∈ lending.loans) : lending.custody.pool.length < lending.custody.pool.size := by
  have some := List.length_pos_of_mem out
  have balance := balanced.balance
  rw [balanced.size]
  omega

omit [Connection C Net] in
/-- There is room for a connection that has been lent. -/
theorem room_of_checkOut (balanced : Balanced config lending) {pool' : Pool (Numbered C)}
    {connection : Numbered C} (lent : lending.custody.pool.checkOut = .ok (connection, pool')) :
    pool'.length < pool'.size := by
  obtain ⟨same, shorter⟩ := checkOut_places lent
  have balance := balanced.balance
  rw [same.size, balanced.size]
  omega

omit [Connection C Net] in
/-- A pool that has its places as before is in balance if what one side loses the other one gains. -/
theorem of_samePlaces (balanced : Balanced config lending) {custody : Custody C Net}
    {loans : List Nat} (same : SamePlaces lending.custody.pool custody.pool)
    (even : custody.pool.length + loans.length =
      lending.custody.pool.length + lending.loans.length) :
    Balanced config ⟨custody, loans⟩ where
  configured := same.config.trans balanced.configured
  opened := same.isOpen.trans balanced.opened
  size := same.size.trans balanced.size
  balance := even.trans balanced.balance

/-- Every event of the session keeps the balance. -/
theorem step (closes : Connection.Closes C) (balanced : Balanced config lending)
    {event : Custody.Event C Net} (allowed : lending.allows event = true) :
    Balanced config (lending.step event) := by
  have closes' : Connection.Closes (Numbered C) := Numbered.closes closes
  have opened := balanced.opened
  rcases lending with ⟨⟨pool, world, held, wasted⟩, loans⟩
  cases event with
  | start =>
    obtain ⟨failure, out⟩ := start_of_open opened world
    simp only [Lending.step, loansAfter, Custody.step, out]
    exact balanced.of_samePlaces ⟨rfl, rfl, rfl⟩ rfl
  | stop => cases allowed
  | checkOut =>
    rcases lent : pool.checkOut with error | ⟨connection, pool'⟩
    · simp only [Lending.step, loansAfter, Custody.step, lent]
      exact balanced
    · obtain ⟨same, shorter⟩ := checkOut_places lent
      simp only [Lending.step, loansAfter, Custody.step, lent]
      refine balanced.of_samePlaces same ?_
      change pool'.length + (loans.length + 1) = pool.length + loans.length
      omega
  | checkIn place =>
    rcases found : held[place]? with _ | connection
    · simp only [Lending.step, loansAfter, Custody.step, found]
      exact balanced
    · have out : connection.number ∈ loans := by
        simp only [allows, found] at allowed
        exact List.contains_iff_mem.1 allowed
      have longer : (pool.checkIn connection world).1.length = pool.length + 1 :=
        length_checkIn closes' opened (balanced.room_of_loan out) connection world
      have fewer := List.length_erase_of_mem out
      have some := List.length_pos_of_mem out
      simp only [Lending.step, loansAfter, Custody.step, found]
      refine balanced.of_samePlaces (checkIn_samePlaces pool connection world) ?_
      change (pool.checkIn connection world).1.length + (loans.erase connection.number).length =
        pool.length + loans.length
      omega
  | exchange commands =>
    rcases lent : pool.checkOut with error | ⟨connection, pool'⟩
    · simp only [Lending.step, loansAfter, Custody.step, exchange, lent]
      exact balanced
    · obtain ⟨same, shorter⟩ := checkOut_places lent
      rcases exchanges : RespClient.exchange commands connection world with
        ⟨result, commands', after, world'⟩
      have longer := length_checkIn closes' (same.isOpen.trans opened)
        (balanced.room_of_checkOut lent) after world'
      simp only [Lending.step, loansAfter, Custody.step, exchange, lent, exchanges]
      refine balanced.of_samePlaces (same.trans (checkIn_samePlaces pool' after world')) ?_
      change (pool'.checkIn after world').1.length + loans.length = pool.length + loans.length
      omega
  | use place action =>
    rcases found : held[place]? with _ | ⟨number, connection⟩
    · simp only [Lending.step, loansAfter, Custody.step, found]
      exact balanced.of_samePlaces ⟨rfl, rfl, rfl⟩ rfl
    · simp only [Lending.step, loansAfter, Custody.step, found]
      exact balanced.of_samePlaces ⟨rfl, rfl, rfl⟩ rfl
  | acquire | elsewhere => exact balanced.of_samePlaces ⟨rfl, rfl, rfl⟩ rfl

theorem run (closes : Connection.Closes C) {events : List (Custody.Event C Net)}
    (balanced : Balanced config lending) (honest : lending.honest events = true) :
    Balanced config (lending.run events) := by
  induction events generalizing lending with
  | nil => exact balanced
  | cons event later more =>
    rw [Lending.honest, Bool.and_eq_true] at honest
    exact more (balanced.step closes honest.1) honest.2

end Balanced

end Lending

/-! ## Conservation of the places -/

/-- Whatever happens to a pool, while it is open it has the places of its configuration and stores
no more connections than that; a full pool keeps what it stores when it is given another connection,
and closes that one or the new one in its place.

In a session in which callers give back nothing but what is out, the connections that are stored and
those that are out are as many as the places, whatever the borrowers do; so there is a place for
every connection that is given back, and for that of an exchange, and what it is renewed to is
stored. Without the numbers such a session is a run of the pool itself. -/
theorem capacity_conserved (closes : Connection.Closes C) :
    (∀ (config : Config) (world : World Net) (events : List (Event C Net)),
      let pool := (run { config } world events).1
      pool.isOpen = true →
        pool.length ≤ pool.size ∧ pool.size = config.capacity ∧
        (pool.length = pool.size → ∀ (connection : C) (world' : World Net),
          (pool.checkIn connection world').1.stored = pool.stored ∧
          ∃ renewed before, Renewal config connection world' renewed before ∧
            let closing := Connection.close renewed (before.report .returnedToFullPool)
            Connection.isClosed closing.2.1 = true ∧
              (pool.checkIn connection world').2 = closing.2.2)) ∧
    ∀ (before : Custody C Net) (events : List (Custody.Event C Net)),
      (before.pool.start before.world).1 = .ok () →
      (Lending.opening before).honest events = true →
      let after := (Lending.opening before).run events
      let pool := after.custody.pool
      pool.isOpen = true ∧ pool.size = before.pool.config.capacity ∧
      pool.length + after.loans.length = before.pool.config.capacity ∧
      (∀ (place : Nat) (connection : Numbered C), after.custody.held[place]? = some connection →
        connection.number ∈ after.loans → ∀ world : World (Register C Net),
        ∃ renewed before', Renewal before.pool.config connection world renewed before' ∧
          (pool.checkIn connection world).1.stored = pool.stored ++ [renewed] ∧
          (pool.checkIn connection world).2 = before') ∧
      (∀ (lent : Numbered C) (others : Pool (Numbered C)), pool.checkOut = .ok (lent, others) →
        ∀ (connection : Numbered C) (world : World (Register C Net)),
        ∃ renewed before', Renewal before.pool.config connection world renewed before' ∧
          (others.checkIn connection world).1.stored = others.stored ++ [renewed] ∧
          (others.checkIn connection world).2 = before') ∧
      ∃ plainly : List (Event C Net),
        (pool.plain, after.custody.world.plain) =
          Pool.run before.pool.plain before.world.plain plainly := by
  constructor
  · intro config world events pool opened
    have closed : Sized config ({ config } : Pool C) := ⟨rfl, nofun, Nat.le_refl 0⟩
    have sized : Sized config pool := run_induction closed (Sized.perform closes) world events
    refine ⟨sized.bounded, sized.size opened, fun full connection world' => ?_⟩
    obtain ⟨renewed, before, renewal, ⟨room, -, -⟩ | ⟨-, same, closing⟩⟩ :=
      checkIn_of_open closes opened connection world'
    · omega
    · rw [sized.configured] at renewal
      exact ⟨same, renewed, before, renewal, closes renewed _, closing⟩
  · intro before events starts honest after pool
    have closes' : Connection.Closes (Numbered C) := Numbered.closes closes
    have balanced := (Lending.Balanced.opening starts).run closes honest
    have stores : ∀ {pool : Pool (Numbered C)}, pool.config = before.pool.config →
        pool.isOpen = true → pool.length < pool.size →
        ∀ (connection : Numbered C) (world : World (Register C Net)),
        ∃ renewed before', Renewal before.pool.config connection world renewed before' ∧
          (pool.checkIn connection world).1.stored = pool.stored ++ [renewed] ∧
          (pool.checkIn connection world).2 = before' := by
      intro pool configured opened room connection world
      obtain ⟨renewed, before', renewal, ⟨-, stores, same⟩ | ⟨full, -, -⟩⟩ :=
        checkIn_of_open closes' opened connection world
      · rw [configured] at renewal
        exact ⟨renewed, before', renewal, stores, same⟩
      · omega
    refine ⟨balanced.opened, balanced.size, balanced.balance, ?_, ?_, ?_⟩
    · intro place connection held out
      exact stores balanced.configured balanced.opened (balanced.room_of_loan out) connection
    · intro lent others lends
      obtain ⟨same, -⟩ := checkOut_places lends
      exact stores (same.config.trans balanced.configured) (same.isOpen.trans balanced.opened)
        (balanced.room_of_checkOut lends)
    · obtain ⟨first, starting⟩ := Custody.step_plain before .start
      obtain ⟨plainly, running⟩ := Custody.run_plain (before.step .start) events
      refine ⟨first :: plainly, ?_⟩
      change (((Lending.opening before).run events).custody.pool.plain,
        ((Lending.opening before).run events).custody.world.plain) = _
      rw [Lending.custody_run]
      exact running.trans (congrArg (fun state => Pool.run state.1 state.2 plainly) starting)

/-- Two sessions are lent. One is given back with a reply unread, and a third, from elsewhere, is not
given back; then an exchange loses its session to a failure. Each time there is a place for the
session that comes back. A pool that is full keeps what it stores. -/
theorem capacity_conserved_instance :
    let config : Config := { capacity := 2 }
    let failing : Scripted.Script := { failReplyAfter := some 1 }
    let world : World Scripted.Stage := ⟨⟨[("127.0.0.1:6379", failing)], [], [], 0, #[]⟩, #[]⟩
    let unread : Custody.Event Scripted.Session Scripted.Stage :=
      .use 0 fun session world => (session.send "PING" [] world).2
    let foreign : Custody.Event Scripted.Session Scripted.Stage :=
      .acquire (Scripted.Session.create "127.0.0.1:6379" defaultTimeout)
    let events := [.checkOut, .checkOut, unread, .checkIn 0, foreign,
      .exchange [⟨"PING", [], none⟩, ⟨"PING", [], none⟩]]
    let before := Custody.fresh config world
    let after := (Lending.opening before).run events
    let full := (run { config } world [.start]).1
    let surplus := (Scripted.Session.create "127.0.0.1:6379" defaultTimeout world).1
    Connection.Closes Scripted.Session ∧ (before.pool.start before.world).1 = .ok () ∧
    (Lending.opening before).honest events = true ∧
    after.loans = [0] ∧ after.custody.pool.stored.map Numbered.number = [4] ∧
    after.custody.pool.length + after.loans.length = 2 ∧
    full.isOpen = true ∧ full.length = full.size ∧
    (full.checkIn surplus world).1.stored = full.stored := by
  intro config failing world unread foreign events before after full surplus
  have closes := Scripted.Session.laws.closes
  have starts : (before.pool.start before.world).1 = .ok () := rfl
  have honest : (Lending.opening before).honest events = true := by
    dsimp +zetaDelta only
    decide +kernel
  have loans : after.loans = [0] := by
    dsimp +zetaDelta only
    decide +kernel
  have stored : after.custody.pool.stored.map Numbered.number = [4] := by
    dsimp +zetaDelta only
    decide +kernel
  obtain ⟨always, session⟩ := capacity_conserved closes
  obtain ⟨-, -, balance, -⟩ := session before events starts honest
  obtain ⟨-, -, same⟩ := always config world [.start] rfl
  exact ⟨closes, starts, honest, loans, stored, balance, rfl, rfl, (same rfl surplus world).1⟩

end RespClient.Pool
