import RespClient.Proofs.ConnectionLaws
import RespClient.Proofs.PoolRun
import RespClient.Proofs.StockFilling

/-!
# Health of a pool

A pool is healthy if every connection that it stores is fit for use: not closed, and owing no
replies. Connections come to be stored in four ways, and each has its statement: set up in advance
or not (`setUp_fit`), taken back, and put in place of one that was taken back (`renewed_fit`).

`healthy_run` is the main statement. It says that a pool stays healthy whatever happens to it, and
hence that what it lends is fit for use and that its exchanges are never refused.
-/

namespace RespClient.Pool

variable {C Net : Type} [Connection C Net]

/-- Every connection that the pool stores is fit for use. -/
def Healthy (pool : Pool C) : Prop := ∀ connection ∈ pool.stored, Connection.Fit connection

/-- An exchange that is made whether or not the connection owes replies. -/
def exchangeRegardless (commands : List Command) (pool : Pool C) (world : World Net) :
    Except Failure Unit × List Command × Pool C × World Net :=
  match pool.checkOut with
  | .error error => (.error (.reported error), commands, pool, world)
  | .ok (connection, pool) =>
    let (result, commands, connection, world) := roundTrip commands connection world
    let (pool, world) := pool.checkIn connection world
    (result, commands, pool, world)

/-! ## What a stock is filled with -/

/-- What holds of the values of a stock, and of all that a factory makes, holds of the values of the
stock that is filled. -/
theorem Stock.of_mem_fillFrom {α σ : Type} {holds : α → Prop} {factory : σ → Except Error α × σ}
    (made : ∀ {state state' value}, factory state = (.ok value, state') → holds value) :
    ∀ {stock filled : Stock α} {count : Nat} {state state' : σ},
      (∀ value ∈ stock.available, holds value) →
      stock.fillFrom factory count state = (.ok filled, state') →
      ∀ value ∈ filled.available, holds value := by
  intro stock filled count state state' before fills
  let sofar (values : List α) (_ : σ) : Prop := ∀ value ∈ values, holds value
  have start : sofar stock.available state := before
  have ends := Stock.fillFrom_fills factory stock count state
  rw [fills] at ends
  cases ends with
  | whole makes complete =>
    refine makes.induction ?_ start
    intro values state state' value all gives value' stored
    rcases List.mem_append.1 stored with old | new
    · exact all value' old
    · rw [List.mem_singleton.1 new]
      exact made gives

/-- What holds of all that a factory makes holds of the values of a stock that is created. -/
theorem Stock.of_mem_create {α σ : Type} {holds : α → Prop} {factory : σ → Except Error α × σ}
    (made : ∀ {state state' value}, factory state = (.ok value, state') → holds value)
    {capacity : Nat} {filled : Stock α} {state state' : σ}
    (creates : Stock.create capacity factory state = (.ok filled, state')) :
    ∀ value ∈ filled.available, holds value := by
  unfold Stock.create at creates
  split at creates
  · cases creates
  · refine Stock.of_mem_fillFrom made ?_ creates
    intro value stored
    cases stored

/-! ## What a pool stores -/

/-- A connection that is set up is fit for use: it is new, or its server has answered. -/
theorem setUp_fit (laws : Connection.Laws C) {config : Config} {connection : C}
    {state state' : Rotation × World Net}
    (setsUp : setUp config state = (.ok connection, state')) : Connection.Fit connection := by
  rcases state with ⟨rotation, world⟩
  have fresh := laws.created rotation.current config.connectionTimeout world
  unfold setUp at setsUp
  dsimp only at setsUp
  split at setsUp
  · cases setsUp
    exact fresh
  · split at setsUp
    · next probes =>
      cases setsUp
      exact laws.probed fresh.owesNothing probes
    · cases setsUp

/-- A returned connection that is not closed for its debts owes nothing. -/
theorem closeIfOwing_fit (laws : Connection.Laws C) (connection : C) (world : World Net) :
    Connection.isClosed (closeIfOwing connection world).1 = true ∨
    Connection.Fit (closeIfOwing connection world).1 := by
  unfold closeIfOwing
  dsimp only
  split
  · exact Or.inl (laws.closed connection _)
  · next kept =>
    cases closed : Connection.isClosed connection with
    | true => exact Or.inl rfl
    | false =>
      refine Or.inr ⟨closed, ?_⟩
      rw [closed] at kept
      simpa using kept

/-- What is stored for a returned connection is fit for use, whatever the connection has been
through. -/
theorem renewed_fit (laws : Connection.Laws C) (config : Config) (connection : C)
    (rotation : Rotation) (world : World Net) :
    Connection.Fit (renewed config connection rotation world) := by
  unfold renewed renew
  split
  · exact laws.created _ _ _
  · next opened =>
    rcases closeIfOwing_fit laws connection world with closed | fit
    · exact absurd closed opened
    · exact fit

/-! ## What each event keeps -/

/-- A pool that stores nothing is healthy. -/
theorem healthy_of_stored_nil {pool : Pool C} (empty : pool.stored = []) :
    Healthy pool := by
  intro connection stored
  rw [empty] at stored
  cases stored

/-- A healthy pool stays healthy when it is started. -/
theorem Healthy.start (laws : Connection.Laws C) {pool : Pool C} (healthy : Healthy pool)
    (world : World Net) : Healthy (pool.start world).2.1 := by
  rcases start_cases pool world with same | ⟨rotation, idle, rotation', world', -, creates, starts⟩
  · rw [same]
    exact healthy
  · rw [starts]
    exact Stock.of_mem_create (setUp_fit laws) creates

/-- What a healthy pool lends is fit for use. -/
theorem Healthy.fit_of_checkOut {pool pool' : Pool C} {connection : C} (healthy : Healthy pool)
    (lent : pool.checkOut = .ok (connection, pool')) : Connection.Fit connection := by
  refine healthy connection ?_
  rw [stored_checkOut lent]
  exact List.mem_cons_self

/-- A healthy pool stays healthy when it lends a connection. -/
theorem Healthy.checkOut {pool pool' : Pool C} {connection : C} (healthy : Healthy pool)
    (lent : pool.checkOut = .ok (connection, pool')) : Healthy pool' := by
  intro other stored
  refine healthy other ?_
  rw [stored_checkOut lent]
  exact List.mem_cons_of_mem connection stored

/-- A healthy pool stays healthy whatever connection it takes back. -/
theorem Healthy.checkIn (laws : Connection.Laws C) {pool : Pool C} (healthy : Healthy pool)
    (connection : C) (world : World Net) : Healthy (pool.checkIn connection world).1 := by
  intro other stored
  rcases checkIn_cases pool connection world with same | ⟨rotation, taken⟩
  · rw [same] at stored
    exact healthy other stored
  · rw [taken] at stored
    rcases List.mem_append.1 stored with old | new
    · exact healthy other old
    · rw [List.mem_singleton.1 new]
      exact renewed_fit laws pool.config connection rotation world

/-- A healthy pool stays healthy whatever happens. -/
theorem Healthy.perform (laws : Connection.Laws C) (event : Event C Net) {pool : Pool C}
    (world : World Net) (healthy : Healthy pool) : Healthy (event.perform (pool, world)).1 :=
  Event.perform_keeps (fun world healthy => healthy.start laws world)
    (fun {pool} world _ => healthy_of_stored_nil (stored_stop pool world)) Healthy.checkOut
    (fun connection world healthy => healthy.checkIn laws connection world) event world healthy

/-- The exchanges of a healthy pool are never refused. -/
theorem Healthy.exchange_eq {pool : Pool C} (healthy : Healthy pool) (commands : List Command)
    (world : World Net) :
    pool.exchange commands world = pool.exchangeRegardless commands world := by
  rcases lent : pool.checkOut with error | ⟨connection, pool'⟩
  · simp only [exchange, exchangeRegardless, lent]
  · have fit := healthy.fit_of_checkOut lent
    have accepted : RespClient.exchange commands connection world =
        roundTrip commands connection world := by
      unfold RespClient.exchange
      rw [fit.owesNothing]
      rfl
    simp only [exchange, exchangeRegardless, lent, accepted]

/-- **Health of a pool.** After any events, in any order, every connection that the pool stores is
fit for use. So every connection that it lends is fit for use, and no exchange is refused for
replies that a connection owes. -/
theorem healthy_run (laws : Connection.Laws C) (config : Config) (world : World Net)
    (events : List (Event C Net)) :
    Healthy (run { config } world events).1 ∧
    (∀ (connection : C) (pool : Pool C),
      (run { config } world events).1.checkOut = .ok (connection, pool) →
      Connection.Fit connection) ∧
    ∀ (commands : List Command) (world' : World Net),
      (run { config } world events).1.exchange commands world' =
        (run { config } world events).1.exchangeRegardless commands world' := by
  have closed : Healthy ({ config } : Pool C) := healthy_of_stored_nil rfl
  have healthy : Healthy (run { config } world events).1 :=
    run_induction closed (Healthy.perform laws) world events
  refine ⟨healthy, ?_, ?_⟩
  · intro connection pool lent
    exact healthy.fit_of_checkOut lent
  · exact healthy.exchange_eq

/-- A borrower that leaves a reply unread, and a session that comes back from elsewhere and owes
replies, leave a new connection behind. -/
theorem healthy_run_instance :
    let config : Config := { capacity := 1 }
    let useless : Tcp.Session :=
      ⟨"127.0.0.1:6379", defaultTimeout, .connected ⟨0, ⟨[], []⟩, .silent, []⟩, 2⟩
    let unread : List (Event Scripted.Session Scripted.Stage) :=
      [.start, .borrow (fun session world => (session.send "PING" [] world).2) false]
    let foreign : List (Event Tcp.Session Tcp.Network) :=
      [.start, .checkOut, .checkIn useless]
    (Connection.Laws Scripted.Session ∧
      (run { config } ⟨⟨[], [], [], 0, #[]⟩, #[]⟩ unread).1.stored.map Scripted.Session.number =
        [1] ∧
      Healthy (run { config } ⟨⟨[], [], [], 0, #[]⟩, #[]⟩ unread).1) ∧
    Connection.Laws Tcp.Session ∧
      (run { config } ⟨{ routed := true, servers := [] }, #[]⟩ foreign).1.stored =
        [Tcp.Session.create "127.0.0.1:6379" defaultTimeout] ∧
      Healthy (run { config } ⟨{ routed := true, servers := [] }, #[]⟩ foreign).1 := by
  dsimp only
  refine ⟨⟨Scripted.Session.laws, rfl, ?_⟩, Tcp.Session.laws, rfl, ?_⟩
  · exact (healthy_run Scripted.Session.laws _ _ _).1
  · exact (healthy_run Tcp.Session.laws _ _ _).1

end RespClient.Pool
