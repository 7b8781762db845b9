import RespClient.Proofs.PoolOpening
import RespClient.Proofs.WorkerConnections

/-!
# Exchanges of a pool

An exchange of a pool is an exchange on the connection that has been idle longest. That connection
comes back whatever became of it, behind the others, and there is always a place for it since it has just left
one. `Restocked` says what is stored in the end: the connection itself if it can be used again, and else a new
one for the address whose turn it is.

`checkIn_restocks` is the statement for one return, and `onFront_of_stored` for one exchange of a pool in good
order. Whose turn it is can be told of every pool that is open (`Turning.perform`). `exchange_on_front` is the main
statement: what an exchange comes to after any events, and what it leaves as it was.
-/

namespace RespClient.Pool

variable {C Net : Type}

/-! ## Turns -/

/-- The pool is open, and makes its next connection in this turn. -/
def NextTurn (pool : Pool C) (turn : Nat) : Prop :=
  ∃ opened, pool.opened = some opened ∧ Rotation.At pool.config opened.rotation turn

theorem NextTurn.of_sameTurn {pool pool' : Pool C} {turn : Nat} (next : pool.NextTurn turn)
    (same : SameTurn pool pool') : pool'.NextTurn turn := by
  obtain ⟨opened, there, reached⟩ := next
  have sameRotation := same.rotation
  rw [there, Option.map_some, Option.map_eq_some_iff] at sameRotation
  obtain ⟨opened', there', rotation⟩ := sameRotation
  refine ⟨opened', there', ?_⟩
  rwa [same.config, rotation]

variable [Connection C Net]

/-! ## Giving a connection back -/

/-- What a pool stores for a connection that is given back, with the next turn after that. A connection that
cannot be used again has been closed, and the new one in its place has not been dialed. -/
inductive Restocked (config : Config) (turn : Nat) (returned : C) (world : World Net) :
    C → Nat → World Net → Prop where
  | kept (usable : Connection.Fit returned) :
    Restocked config turn returned world returned turn world
  | replaced {lost fresh : C} {world₁ world' : World Net} (unusable : ¬ Connection.Fit returned)
    (closes : closeIfOwing returned world = (lost, world₁)) (closed : Connection.isClosed lost = true)
    (created : Connection.create (config.addressAt turn) config.connectionTimeout world₁ =
      (fresh, world'))
    (usable : Connection.Fit fresh) (undialed : Connection.isOpen fresh = false) :
    Restocked config turn returned world fresh (turn + 1) world'

theorem closeIfOwing_of_settled {connection : C} (settled : Connection.owed connection = 0)
    (world : World Net) : closeIfOwing connection world = (connection, world) := by
  have owesNothing : (!Connection.isClosed connection && decide (0 < Connection.owed connection)) =
      false := by
    rw [settled]
    exact Bool.and_false _
  simp only [closeIfOwing, owesNothing, Bool.false_eq_true, if_false]

theorem isClosed_closeIfOwing (closes : Connection.Closes C) {connection : C}
    (unusable : ¬ Connection.Fit connection) (world : World Net) :
    Connection.isClosed (closeIfOwing connection world).1 = true := by
  unfold closeIfOwing
  dsimp only
  split
  · exact closes connection _
  · next kept =>
    by_contra notClosed
    have opened : Connection.isClosed connection = false := eq_false_of_ne_true notClosed
    refine unusable ⟨opened, ?_⟩
    rw [opened] at kept
    simpa using kept

theorem renew_restocks (laws : Connection.Laws C) (opening : Connection.Opening C) {config : Config}
    {rotation : Rotation} {turn : Nat} (reached : Rotation.At config rotation turn) (returned : C)
    (world : World Net) :
    ∃ back turn' rotation' world', Restocked config turn returned world back turn' world' ∧
      Rotation.At config rotation' turn' ∧
      renew config (closeIfOwing returned world).1 rotation (closeIfOwing returned world).2 =
        (back, rotation', world') := by
  by_cases usable : Connection.Fit returned
  · refine ⟨returned, turn, rotation, world, .kept usable, reached, ?_⟩
    rw [closeIfOwing_of_settled usable.owesNothing, renew,
      if_neg (ne_true_of_eq_false usable.notClosed)]
  · have closed := isClosed_closeIfOwing laws.closes usable world
    rcases closes : closeIfOwing returned world with ⟨lost, world₁⟩
    rw [closes] at closed
    have current := reached.current_eq
    rcases created : Connection.create (C := C) (config.addressAt turn) config.connectionTimeout world₁
      with ⟨fresh, world'⟩
    have fit := laws.created (config.addressAt turn) config.connectionTimeout world₁
    have undialed := opening.created (config.addressAt turn) config.connectionTimeout world₁
    rw [created] at fit undialed
    refine ⟨fresh, turn + 1, rotation.advance, world',
      .replaced usable closes closed created fit undialed, reached.advance, ?_⟩
    rw [renew, if_pos closed, current, created]

/-- A connection that is given back to an open pool leaves the turn or takes it. What is stored for it is
stored last, if there is a place. -/
theorem checkIn_restocks (laws : Connection.Laws C) (opening : Connection.Opening C) {pool : Pool C}
    {turn : Nat} (next : pool.NextTurn turn) (returned : C) (world : World Net) :
    ∃ back turn' world', Restocked pool.config turn returned world back turn' world' ∧
      (pool.checkIn returned world).1.NextTurn turn' ∧
      (pool.length < pool.size →
        (pool.checkIn returned world).1.stored = pool.stored ++ [back] ∧
        (pool.checkIn returned world).2 = world') := by
  obtain ⟨config, _⟩ := pool
  obtain ⟨⟨idle, rotation⟩, rfl, reached⟩ := next
  obtain ⟨back, turn', rotation', world', restocked, reached', renews⟩ :=
    renew_restocks laws opening reached returned world
  refine ⟨back, turn', world', restocked, ?_⟩
  rcases Stock.put_cases idle back with ⟨-, put⟩ | ⟨full, put⟩
  · simp only [checkIn, renews]
    rw [put]
    exact ⟨⟨_, rfl, reached'⟩, fun _ => ⟨rfl, rfl⟩⟩
  · simp only [checkIn, renews]
    rw [put]
    exact ⟨⟨_, rfl, reached'⟩, fun room => absurd room (Nat.not_lt.2 full)⟩

theorem Restocked.fit {config : Config} {turn turn' : Nat} {returned back : C} {world world' : World Net}
    (restocked : Restocked config turn returned world back turn' world') : Connection.Fit back := by
  cases restocked with
  | kept usable => exact usable
  | replaced _ _ _ _ usable _ => exact usable

/-! ## Runs -/

omit [Connection C Net] in
/-- While the pool is open some connection is its next one. -/
def Turning (pool : Pool C) : Prop := pool.isOpen = true → ∃ turn, pool.NextTurn turn

theorem Turning.perform (laws : Connection.Laws C) (opening : Connection.Opening C)
    (event : Event C Net) {pool : Pool C} (world : World Net) (turning : Turning pool) :
    Turning (event.perform (pool, world)).1 := by
  refine Event.perform_keeps ?_ ?_ ?_ ?_ event world turning
  · intro pool world turning opened
    obtain ⟨made, starts⟩ := started laws.closes pool world
    generalize pool.start world = out at starts opened
    cases starts with
    | invalid | alreadyOpen | tooLarge | aborts => exact turning opened
    | opens valid closed all complete next => exact ⟨pool.config.capacity, _, rfl, next⟩
  · intro pool world turning opened
    rcases pool with ⟨config, _ | idle⟩
    · exact turning opened
    · cases opened
  · intro pool pool' connection turning lent opened
    obtain ⟨turn, next⟩ := turning ((checkOut_places lent).1.isOpen.symm.trans opened)
    exact ⟨turn, next.of_sameTurn (sameTurn_of_checkOut lent)⟩
  · intro pool connection world turning opened
    obtain ⟨turn, next⟩ := turning ((checkIn_samePlaces pool connection world).isOpen.symm.trans opened)
    obtain ⟨-, turn', -, -, next', -⟩ := checkIn_restocks laws opening next connection world
    exact ⟨turn', next'⟩

/-! ## Exchanges -/

/-- What an exchange of a pool comes to that has a connection to lend. -/
structure OnFront (commands : List Command) (pool : Pool C) (world : World Net) (front : C)
    (others : List C) (out : Except Failure Unit × List Command × Pool C × World Net) : Prop where
  usable : Connection.Fit front
  result : out.1 = (RespClient.exchange commands front world).1
  answers : out.2.1 = (RespClient.exchange commands front world).2.1
  samePlaces : SamePlaces pool out.2.2.1
  sameLength : out.2.2.1.length = pool.length
  restocked : ∃ turn back turn', pool.NextTurn turn ∧
    Restocked pool.config turn (RespClient.exchange commands front world).2.2.1
      (RespClient.exchange commands front world).2.2.2 back turn' out.2.2.2 ∧
    out.2.2.1.NextTurn turn' ∧ out.2.2.1.stored = others ++ [back] ∧ Connection.Fit back

/-- One exchange of a pool in good order: the front is lent, used and given back, and there is a place for what
comes back since the front has just left one. -/
theorem onFront_of_stored (laws : Connection.Laws C) (opening : Connection.Opening C) {config : Config}
    {pool : Pool C} (healthy : Healthy pool) (sized : Sized config pool) (turning : Turning pool)
    {front : C} {others : List C} (stored : pool.stored = front :: others) (commands : List Command)
    (world : World Net) :
    OnFront commands pool world front others (pool.exchange commands world) := by
  obtain ⟨lending, lent, opened, rfl⟩ : ∃ lending, pool.checkOut = .ok (front, lending) ∧
      pool.isOpen = true ∧ lending.stored = others := by
    rcases pool with ⟨config', _ | ⟨⟨capacity, available⟩, rotation⟩⟩
    · cases stored
    · obtain rfl : available = front :: others := stored
      exact ⟨_, rfl, rfl, rfl⟩
  obtain ⟨places, shorter⟩ := checkOut_places lent
  rcases exchanges : RespClient.exchange commands front world with ⟨result, answers, returned, used⟩
  have whole : pool.exchange commands world = (result, answers, lending.checkIn returned used) := by
    simp only [exchange, lent, exchanges]
  obtain ⟨turn, next⟩ := turning opened
  have room : lending.length < lending.size := by
    have bounded := sized.bounded
    have sameSize := places.size
    omega
  obtain ⟨back, turn', world', restocked, next', stores⟩ :=
    checkIn_restocks laws opening (next.of_sameTurn (sameTurn_of_checkOut lent)) returned used
  obtain ⟨stored', rfl⟩ := stores room
  have more := length_checkIn laws.closes (places.isOpen.trans opened) room returned used
  rw [places.config] at restocked
  rw [whole]
  refine ⟨healthy.fit_of_checkOut lent, ?_, ?_, places.trans (checkIn_samePlaces lending returned used),
    more.trans shorter.symm, turn, back, turn', next, ?_, next', stored', restocked.fit⟩
  · rw [exchanges]
  · rw [exchanges]
  · rw [exchanges]
    exact restocked

/-! ## Main statement -/

variable {Ticket : Type} {account : Connection.Account C Ticket}

/-- **An exchange of a pool.** Take a pool after any events, and any commands and world. If the pool is closed
then the exchange says so, and if it has nothing to lend then it says that, and nothing has changed. Else its
result and the replies are those of the exchange on the connection that has been idle longest. It makes no
difference to the places of the pool nor to the number of its connections; those that were behind the first
one are stored as they were, in their order, and behind them is stored the first one itself if it can be used
again, and else a new one, not dialed, for the address whose turn it is. Unless the exchange crashed the first
one owes nothing then, so that it can be used again if it was not closed. -/
theorem exchange_on_front (laws : Connection.Laws C) (opening : Connection.Opening C)
    (accounts : account.Lawful) (config : Config) (before : World Net) (events : List (Event C Net))
    (commands : List Command) (world : World Net) :
    let pool := (run ({ config } : Pool C) before events).1
    let out := pool.exchange commands world
    (pool.isOpen = false → out = (.error (.reported .poolClosed), commands, pool, world)) ∧
    (pool.isOpen = true → pool.stored = [] →
      out = (.error (.reported .poolExhausted), commands, pool, world)) ∧
    ∀ front others, pool.stored = front :: others →
      OnFront commands pool world front others out ∧
      ((∀ crash, out.1 ≠ .error (.crashed crash)) →
        Connection.owed (RespClient.exchange commands front world).2.2.1 = 0) := by
  intro pool out
  have healthy : Healthy pool := (healthy_run laws config before events).1
  have sized : Sized config pool :=
    run_induction ⟨rfl, nofun, Nat.le_refl 0⟩ (Sized.perform laws.closes) before events
  have turning : Turning pool :=
    run_induction (show Turning ({ config } : Pool C) from nofun) (Turning.perform laws opening)
      before events
  dsimp only [out]
  generalize pool = pool at healthy sized turning
  refine ⟨fun closed => ?_, fun opened empty => ?_, fun front others stored => ?_⟩
  · rcases pool with ⟨config', _ | opened⟩
    · rfl
    · cases closed
  · rcases pool with ⟨config', _ | ⟨⟨capacity, available⟩, rotation⟩⟩
    · cases opened
    · obtain rfl : available = [] := empty
      rfl
  · have onFront := onFront_of_stored laws opening healthy sized turning stored commands world
    refine ⟨onFront, fun calm => ?_⟩
    rcases exchanges : RespClient.exchange commands front world with ⟨result, answers, returned, used⟩
    have sameResult := onFront.result
    rw [exchanges] at sameResult
    rw [sameResult] at calm
    exact accounts.settled_of_exchange onFront.usable.owesNothing exchanges calm

/-- The first of two connections is lost behind a reply. The third of three addresses has its turn. -/
theorem exchange_on_front_instance :
    let config : Config :=
      { capacity := 2, addresses := ["localhost:1", "localhost:2", "localhost:3"] }
    let world : World Scripted.Stage :=
      ⟨{ scripts := [("localhost:1", { failReplyAfter := some 1 })] }, #[]⟩
    let state := run ({ config } : Pool Scripted.Session) world [.start]
    let commands : List Command := [⟨"GET", [], none⟩, ⟨"SET", [], none⟩]
    let out := state.1.exchange commands state.2
    (Connection.Laws Scripted.Session ∧ Connection.Opening Scripted.Session ∧
      Scripted.Session.account.Lawful) ∧
    out.1 = .error (.reported .connectionClosed) ∧
    out.2.1.map Command.reply = [some (.status "GET:"), none] ∧
    out.2.2.1.stored.map Scripted.Session.address = ["localhost:2", "localhost:3"] ∧
    ∃ front others, state.1.stored = front :: others ∧
      OnFront commands state.1 state.2 front others out ∧ out.2.2.1.length = 2 ∧
      Connection.owed (RespClient.exchange commands front state.2).2.2.1 = 0 := by
  intro config world state commands out
  have laws : Connection.Laws Scripted.Session ∧ Connection.Opening Scripted.Session ∧
      Scripted.Session.account.Lawful :=
    ⟨Scripted.Session.laws, Scripted.Session.opening, Scripted.Session.account_lawful⟩
  have lost : out.1 = .error (.reported .connectionClosed) := by
    dsimp +zetaDelta only
    decide +kernel
  have answers : out.2.1.map Command.reply = [some (.status "GET:"), none] := by
    dsimp +zetaDelta only
    decide +kernel
  have addresses : out.2.2.1.stored.map Scripted.Session.address = ["localhost:2", "localhost:3"] := by
    dsimp +zetaDelta only
    decide +kernel
  obtain ⟨front, others, stored⟩ : ∃ front others, state.1.stored = front :: others := ⟨_, _, rfl⟩
  obtain ⟨-, -, exchanged⟩ :=
    exchange_on_front laws.1 laws.2.1 laws.2.2 config world [.start] commands state.2
  obtain ⟨onFront, settled⟩ := exchanged front others stored
  refine ⟨laws, lost, answers, addresses, front, others, stored, onFront, ?_, settled ?_⟩
  · exact onFront.sameLength
  · intro crash crashed
    cases lost.symm.trans crashed

end RespClient.Pool
