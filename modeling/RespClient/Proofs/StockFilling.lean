import RespClient.Pool.Stock

/-!
# Filling a stock

A stock is filled by calls of a factory, one after the other. `Makes` says which values such calls give as
long as none fails, and `Fills` lists how a filling can end. `fillFrom_fills` says that it ends in one of
these ways, and what is known of the values of a stock follows from this by `Makes.induction`. The other way
round, `Makes.fillFrom` says that calls which succeed put their values in.

To tell how many calls there were, a factory is made to keep count (`counting`). `created_by_calls` is
the main statement: a stock for which there is room is created by as many calls as it has places, or by
those up to the first that fails, and it is never given more values than it has places.
-/

namespace RespClient.Pool.Stock

variable {α σ : Type}

/-- A value is put in last, or handed back by a full stock. -/
theorem put_cases (stock : Stock α) (value : α) :
    (stock.length < stock.capacity ∧
      stock.put value = .ok { stock with available := stock.available ++ [value] }) ∨
    (stock.capacity ≤ stock.length ∧ stock.put value = .error value) := by
  unfold put
  split
  · next room => exact Or.inl ⟨room, rfl⟩
  · next full => exact Or.inr ⟨Nat.le_of_not_lt full, rfl⟩

theorem length_added (stock : Stock α) (values : List α) :
    { stock with available := stock.available ++ values }.length = stock.length + values.length :=
  List.length_append

/-! ## Calls of a factory -/

/-- Calls in a row that all succeed, with the values that they give and the state that they leave. -/
inductive Makes (factory : σ → Except Error α × σ) : σ → List α → σ → Prop where
  | none {state : σ} : Makes factory state [] state
  | more {state next last : σ} {value : α} {values : List α}
    (gives : factory state = (.ok value, next)) (others : Makes factory next values last) :
    Makes factory state (value :: values) last

/-- How it can end to put `count` values more into a stock. -/
inductive Fills (factory : σ → Except Error α × σ) (stock : Stock α) (count : Nat) (state : σ) :
    Except Failure (Stock α) × σ → Prop where
  | whole {values : List α} {last : σ} (makes : Makes factory state values last)
    (complete : values.length = count) :
    Fills factory stock count state
      (.ok { stock with available := stock.available ++ values }, last)
  | stops {values : List α} {error : Error} {between last : σ}
    (makes : Makes factory state values between) (early : values.length < count)
    (fails : factory between = (.error error, last)) :
    Fills factory stock count state (.error (.reported error), last)
  | overfills {values : List α} {value : α} {between last : σ}
    (makes : Makes factory state values between) (early : values.length < count)
    (gives : factory between = (.ok value, last))
    (full : stock.capacity ≤ stock.length + values.length) :
    Fills factory stock count state (.error (.crashed (.overfilled stock.capacity)), last)

/-- A value has been put in, and the filling goes on from there. -/
theorem Fills.more {factory : σ → Except Error α × σ} {stock : Stock α} {count : Nat}
    {state next : σ} {value : α} {out : Except Failure (Stock α) × σ}
    (gives : factory state = (.ok value, next))
    (fills : Fills factory { stock with available := stock.available ++ [value] } count next out) :
    Fills factory stock (count + 1) state out := by
  cases fills with
  | whole makes complete =>
    rw [List.append_assoc]
    exact .whole (.more gives makes) (congrArg (· + 1) complete)
  | stops makes early fails => exact .stops (.more gives makes) (Nat.succ_lt_succ early) fails
  | overfills makes early gives' full =>
    refine .overfills (.more gives makes) (Nat.succ_lt_succ early) gives' ?_
    rw [length_added, List.length_singleton] at full
    rw [List.length_cons]
    exact Nat.le_trans full (by omega)

theorem fillFrom_fills (factory : σ → Except Error α × σ) (stock : Stock α) (count : Nat)
    (state : σ) : Fills factory stock count state (stock.fillFrom factory count state) := by
  induction count generalizing stock state with
  | zero =>
    have nothing : Fills factory stock 0 state
      (.ok { stock with available := stock.available ++ [] }, state) := .whole .none rfl
    rwa [List.append_nil] at nothing
  | succ count others =>
    rcases gives : factory state with ⟨error | value, next⟩
    · simp only [fillFrom, gives]
      exact .stops .none (Nat.succ_pos count) gives
    · rcases stock.put_cases value with ⟨-, put⟩ | ⟨full, put⟩
      · simp only [fillFrom, gives, put]
        exact .more gives (others _ next)
      · simp only [fillFrom, gives, put]
        exact .overfills .none (Nat.succ_pos count) gives full

/-- What holds of the values made so far and of the state of their factory, and is kept by every
value that is made, holds after calls that succeed. -/
theorem Makes.induction {holds : List α → σ → Prop} {factory : σ → Except Error α × σ}
    (made : ∀ {values state state' value}, holds values state →
      factory state = (.ok value, state') → holds (values ++ [value]) state')
    {before values : List α} {state last : σ} (start : holds before state)
    (makes : Makes factory state values last) : holds (before ++ values) last := by
  induction makes generalizing before with
  | none => rwa [List.append_nil]
  | @more state next last value values gives others step =>
    have goesOn := step (made start gives)
    rwa [List.append_assoc] at goesOn

/-- What every failure keeps as well holds when a stock is filled or could not be. -/
theorem fillFrom_induction {holds : List α → σ → Prop} {factory : σ → Except Error α × σ}
    (made : ∀ {values state state' value}, holds values state →
      factory state = (.ok value, state') → holds (values ++ [value]) state')
    (failed : ∀ {values state state' error}, holds values state →
      factory state = (.error error, state') → holds values state') :
    ∀ {stock : Stock α} {count : Nat} {state state' : σ} {result : Except Failure (Stock α)},
      holds stock.available state → stock.fillFrom factory count state = (result, state') →
      ∃ values, holds values state' ∧ ∀ filled, result = .ok filled → filled.available = values := by
  intro stock count state state' result before fills
  have ends := fillFrom_fills factory stock count state
  rw [fills] at ends
  cases ends with
  | whole makes complete =>
    refine ⟨_, makes.induction made before, fun filled same => ?_⟩
    cases same
    rfl
  | stops makes early fails => exact ⟨_, failed (makes.induction made before) fails, nofun⟩
  | overfills makes early gives full => exact ⟨_, made (makes.induction made before) gives, nofun⟩

/-- Calls that succeed put their values in, and the filling goes on with the calls behind them. -/
theorem Makes.fillFrom {factory : σ → Except Error α × σ} {stock : Stock α} {values : List α}
    {state last : σ} (makes : Makes factory state values last)
    (room : stock.length + values.length ≤ stock.capacity) (count : Nat) :
    stock.fillFrom factory (values.length + count) state =
      { stock with available := stock.available ++ values }.fillFrom factory count last := by
  induction makes generalizing stock with
  | none => rw [List.append_nil, List.length_nil, Nat.zero_add]
  | @more state next last value values gives others step =>
    rw [List.length_cons] at room
    have put : stock.put value = .ok { stock with available := stock.available ++ [value] } :=
      if_pos (by omega)
    have room' : { stock with available := stock.available ++ [value] }.length + values.length ≤
        stock.capacity := by
      rw [length_added, List.length_singleton]
      omega
    rw [List.length_cons, Nat.add_right_comm]
    simp only [Stock.fillFrom, gives, put]
    rw [step room', List.append_assoc]
    rfl

/-! ## Calls that are counted -/

/-- A factory that counts its calls, each of which is told how many came before it. -/
def counting (factory : Nat → σ → Except Error α × σ) : Nat × σ → Except Error α × Nat × σ
  | (calls, state) => ((factory calls state).1, calls + 1, (factory calls state).2)

theorem Makes.count {factory : Nat → σ → Except Error α × σ} {start last : Nat × σ}
    {values : List α} (makes : Makes (counting factory) start values last) :
    last.1 = start.1 + values.length := by
  induction makes with
  | none => rfl
  | @more state next last value values gives others step =>
    have counted : next.1 = state.1 + 1 := (congrArg (·.2.1) gives).symm
    rw [step, counted, List.length_cons]
    omega

/-- How it can end to create a stock with a factory that keeps count: with as many calls as there are
places, or with those up to the first that fails. -/
inductive Creates (factory : Nat → σ → Except Error α × σ) (size : Nat) (state : σ) :
    Except Failure (Stock α) × Nat × σ → Prop where
  | whole {values : List α} {last : σ}
    (makes : Makes (counting factory) (0, state) values (size, last))
    (complete : values.length = size) :
    Creates factory size state (.ok ⟨size, values⟩, size, last)
  | stops {values : List α} {error : Error} {between last : σ}
    (makes : Makes (counting factory) (0, state) values (values.length, between))
    (early : values.length < size)
    (fails : factory values.length between = (.error error, last)) :
    Creates factory size state (.error (.reported error), values.length + 1, last)

theorem Creates.of_fills {factory : Nat → σ → Except Error α × σ} {size : Nat} {state : σ}
    {out : Except Failure (Stock α) × Nat × σ}
    (fills : Fills (counting factory) (empty size) size (0, state) out) :
    Creates factory size state out := by
  cases fills with
  | @whole values last makes complete =>
    obtain ⟨calls, last⟩ := last
    obtain rfl : calls = size := makes.count.trans ((Nat.zero_add _).trans complete)
    exact .whole makes complete
  | @stops values error between last makes early fails =>
    obtain ⟨calls, between⟩ := between
    obtain ⟨calls', last⟩ := last
    obtain rfl : calls = values.length := makes.count.trans (Nat.zero_add _)
    obtain rfl : values.length + 1 = calls' := congrArg (·.2.1) fails
    exact .stops makes early (Prod.ext (congrArg (·.1) fails) (congrArg (·.2.2) fails))
  | overfills makes early gives full =>
    rw [length, empty, List.length_nil, Nat.zero_add] at full
    exact absurd early (Nat.not_lt_of_le full)

/-- What the factory answers leaves no choice of how it ends. -/
theorem Creates.fill_eq {factory : Nat → σ → Except Error α × σ} {size : Nat} {state : σ}
    {out : Except Failure (Stock α) × Nat × σ} (creates : Creates factory size state out) :
    fill size (counting factory) (0, state) = out := by
  have none : (empty size : Stock α).length = 0 := rfl
  cases creates with
  | @whole values last makes complete =>
    have room : (empty size : Stock α).length + values.length ≤ size := by omega
    have all := makes.fillFrom room 0
    rwa [complete] at all
  | @stops values error between last makes early fails =>
    obtain ⟨missing, rfl⟩ : ∃ missing, size = values.length + (missing + 1) :=
      ⟨size - values.length - 1, by omega⟩
    have room : (empty (values.length + (missing + 1)) : Stock α).length + values.length ≤
        values.length + (missing + 1) := by omega
    rw [fill, makes.fillFrom room (missing + 1)]
    simp only [fillFrom, counting, fails]

/-! ## Main statement -/

/-- **A stock is created by its calls of the factory.** The factory may answer as it likes, by its state and by
the number of the call. If there is room for the stock, its creation ends in one way: if none of
the calls for its places fails, all of them are made and no more, and their values are in the stock in the
order of the calls; if one fails, it is the last call, and its error is the answer. However large the stock,
it is never given a value that it has no place for. -/
theorem created_by_calls (factory : Nat → σ → Except Error α × σ) (size : Nat) (state : σ) :
    (size ≤ maxRoom → ∀ out,
      create size (counting factory) (0, state) = out ↔ Creates factory size state out) ∧
    ∀ places, (create size (counting factory) (0, state)).1 ≠
      .error (.crashed (.overfilled places)) := by
  have ends : Creates factory size state (fill size (counting factory) (0, state)) :=
    .of_fills (fillFrom_fills (counting factory) (empty size) size (0, state))
  refine ⟨fun room out => ?_, fun places => ?_⟩
  · rw [create, if_neg (Nat.not_lt_of_le room)]
    exact ⟨fun same => same ▸ ends, Creates.fill_eq⟩
  · unfold create
    split
    · nofun
    · generalize fill size (counting factory) (0, state) = out at ends
      cases ends <;> nofun

/-- Of three values the second one fails to be made: two calls are made, and none for the third. -/
theorem created_by_calls_instance :
    let factory (call : Nat) (made : List Nat) : Except Error Nat × List Nat :=
      (if call = 1 then .error .connectionClosed else .ok (10 * call), call :: made)
    3 ≤ maxRoom ∧
      create 3 (counting factory) (0, []) = (.error (.reported .connectionClosed), 2, [1, 0]) ∧
      create 1 (counting factory) (0, []) = (.ok ⟨1, [0]⟩, 1, [0]) := by
  intro factory
  have room : 3 ≤ maxRoom := by decide
  have first : counting factory (0, []) = (.ok 0, 1, [0]) := rfl
  have second : factory 1 [0] = (.error .connectionClosed, [1, 0]) := rfl
  have calls : Makes (counting factory) (0, []) [0] (1, [0]) := .more first .none
  exact ⟨room, ((created_by_calls factory 3 []).1 room _).2 (.stops calls (by decide) second),
    ((created_by_calls factory 1 []).1 (by decide) _).2 (.whole calls rfl)⟩

/-- A stock with more places than there can be room for is not created by any calls: the caller crashes before
the first of them, so that the error of the factory never comes up. -/
theorem not_created_by_calls_of_large_size :
    ¬∀ (factory : Nat → Unit → Except Error Nat × Unit) (size : Nat)
      (out : Except Failure (Stock Nat) × Nat × Unit),
      create size (counting factory) (0, ()) = out ↔ Creates factory size () out := by
  intro always
  let factory (_ : Nat) (_ : Unit) : Except Error Nat × Unit :=
    (.error (.config (.other "factory failed")), ())
  have none : Makes (counting factory) (0, ()) ([] : List Nat) (0, ()) := .none
  have stops : Creates factory (1 <<< 63) ()
      (.error (.reported (.config (.other "factory failed"))), 1, ()) := .stops none (by decide) rfl
  have crashes : create (1 <<< 63) (counting factory) (0, ()) =
      (.error (.crashed .capacityOverflow), 0, ()) := if_pos (by decide)
  have same := crashes.symm.trans ((always factory (1 <<< 63) _).2 stops)
  cases same

end RespClient.Pool.Stock
