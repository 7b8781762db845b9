import RespClient.Proofs.StockFilling

/-!
# Use of a stock

Values are taken from a stock and put into it in any order, also ones that were never in it and ones
that were put in before. `serve` is one such request with its answer, and the journal of a run lists all
of them. `serve_cases` says what a request can do; it keeps a stock within its capacity (`length_serve_le`) and
keeps the account of the values (`balance_serve`).

`loses_nothing` is the main statement: what was taken, followed by what is there, is what was there at
first, followed by what was put in.
-/

namespace RespClient.Pool.Stock

variable {α : Type}

/-! ## Requests and answers -/

/-- What may be asked of a stock. -/
inductive Request (α : Type) where
  | take
  | put (value : α)
  deriving DecidableEq, Repr

/-- What a stock answers. -/
inductive Answer (α : Type) where
  | taken (value : α)
  /-- There was nothing to be taken. -/
  | nothing
  | accepted
  /-- There was no place for the value, which is handed back. -/
  | refused (value : α)
  deriving DecidableEq, Repr

/-- The answer to a request, and the stock after it. -/
def serve (stock : Stock α) : Request α → Answer α × Stock α
  | .take =>
    match stock.take with
    | none => (.nothing, stock)
    | some (value, stock) => (.taken value, stock)
  | .put value =>
    match stock.put value with
    | .ok stock => (.accepted, stock)
    | .error surplus => (.refused surplus, stock)

/-- The journal of requests, one after the other, and the stock after them. -/
def serveAll (stock : Stock α) : List (Request α) → List (Request α × Answer α) × Stock α
  | [] => ([], stock)
  | request :: rest =>
    let (answer, stock) := stock.serve request
    let (journal, stock) := stock.serveAll rest
    ((request, answer) :: journal, stock)

/-- The value that was taken by a request. -/
def takenBy : Request α × Answer α → List α
  | (_, .taken value) => [value]
  | _ => []

/-- The value that was put in by a request. -/
def putBy : Request α × Answer α → List α
  | (.put value, .accepted) => [value]
  | _ => []

/-- The values that were taken, in order. -/
def taken (journal : List (Request α × Answer α)) : List α := journal.flatMap takenBy

/-- The values that were put in, in order. -/
def accepted (journal : List (Request α × Answer α)) : List α := journal.flatMap putBy

/-! ## One request -/

/-- What a request does to a stock. -/
inductive Serves (stock : Stock α) : Request α → Answer α × Stock α → Prop where
  | takes {value : α} {rest : List α} (first : stock.available = value :: rest) :
    Serves stock .take (.taken value, { stock with available := rest })
  | findsNothing (empty : stock.available = []) : Serves stock .take (.nothing, stock)
  | accepts {value : α} (room : stock.length < stock.capacity) :
    Serves stock (.put value) (.accepted, { stock with available := stock.available ++ [value] })
  | refuses {value : α} (full : stock.capacity ≤ stock.length) :
    Serves stock (.put value) (.refused value, stock)

theorem serve_cases (stock : Stock α) (request : Request α) :
    Serves stock request (stock.serve request) := by
  cases request with
  | take =>
    rcases stock with ⟨capacity, _ | ⟨value, rest⟩⟩
    · exact .findsNothing rfl
    · exact .takes rfl
  | put value =>
    rcases stock.put_cases value with ⟨room, put⟩ | ⟨full, put⟩
    · rw [serve, put]
      exact .accepts room
    · rw [serve, put]
      exact .refuses full

theorem capacity_serve (stock : Stock α) (request : Request α) :
    (stock.serve request).2.capacity = stock.capacity := by
  have serves := stock.serve_cases request
  generalize stock.serve request = out at serves
  cases serves <;> rfl

/-- A stock is not filled beyond its capacity. -/
theorem length_serve_le {stock : Stock α} (fits : stock.length ≤ stock.capacity)
    (request : Request α) : (stock.serve request).2.length ≤ stock.capacity := by
  have serves := stock.serve_cases request
  generalize stock.serve request = out at serves
  cases serves with
  | takes first =>
    rw [length, first, List.length_cons] at fits
    exact Nat.le_of_succ_le fits
  | findsNothing | refuses => exact fits
  | accepts room =>
    rw [length_added, List.length_singleton]
    exact room

/-- Nothing is found exactly in a stock without values. -/
theorem nothing_iff (stock : Stock α) : (stock.serve .take).1 = .nothing ↔ stock.length = 0 := by
  rcases stock with ⟨capacity, _ | ⟨value, rest⟩⟩
  · exact iff_of_true rfl rfl
  · simp [serve, take, length]

/-- A value is accepted exactly if there is a place for it. -/
theorem accepted_iff (stock : Stock α) (value : α) :
    (stock.serve (.put value)).1 = .accepted ↔ stock.length < stock.capacity := by
  rcases stock.put_cases value with ⟨room, put⟩ | ⟨full, put⟩
  · simp [serve, put, room]
  · simp [serve, put, Nat.not_lt_of_le full]

/-- Otherwise it is handed back, and nothing changes. -/
theorem refused_iff (stock : Stock α) (value : α) :
    stock.serve (.put value) = (.refused value, stock) ↔ stock.capacity ≤ stock.length := by
  rcases stock.put_cases value with ⟨room, put⟩ | ⟨full, put⟩
  · simp [serve, put, Nat.not_le_of_lt room]
  · simp [serve, put, full]

/-- A request keeps the account of the values. -/
theorem balance_serve (stock : Stock α) (request : Request α) :
    takenBy (request, (stock.serve request).1) ++ (stock.serve request).2.available =
      stock.available ++ putBy (request, (stock.serve request).1) := by
  have serves := stock.serve_cases request
  generalize stock.serve request = out at serves
  cases serves with
  | takes first => simp [takenBy, putBy, first]
  | findsNothing | accepts | refuses => simp [takenBy, putBy]

/-! ## Requests in a row -/

theorem capacity_serveAll (stock : Stock α) (requests : List (Request α)) :
    (stock.serveAll requests).2.capacity = stock.capacity := by
  induction requests generalizing stock with
  | nil => rfl
  | cons request rest step => exact (step _).trans (stock.capacity_serve request)

theorem length_serveAll_le {stock : Stock α} (fits : stock.length ≤ stock.capacity)
    (requests : List (Request α)) : (stock.serveAll requests).2.length ≤ stock.capacity := by
  induction requests generalizing stock with
  | nil => exact fits
  | cons request rest step =>
    have same := stock.capacity_serve request
    have fits' := length_serve_le fits request
    rw [← same] at fits' ⊢
    exact step fits'

theorem balance_serveAll (stock : Stock α) (requests : List (Request α)) :
    taken (stock.serveAll requests).1 ++ (stock.serveAll requests).2.available =
      stock.available ++ accepted (stock.serveAll requests).1 := by
  induction requests generalizing stock with
  | nil => exact (List.append_nil _).symm
  | cons request rest step =>
    let after := (stock.serve request).2
    let entry := (request, (stock.serve request).1)
    change takenBy entry ++ taken (after.serveAll rest).1 ++ (after.serveAll rest).2.available =
      stock.available ++ (putBy entry ++ accepted (after.serveAll rest).1)
    calc takenBy entry ++ taken (after.serveAll rest).1 ++ (after.serveAll rest).2.available
      _ = takenBy entry ++ after.available ++ accepted (after.serveAll rest).1 := by
        rw [List.append_assoc, step after, List.append_assoc]
      _ = stock.available ++ (putBy entry ++ accepted (after.serveAll rest).1) := by
        rw [stock.balance_serve request, List.append_assoc]

/-! ## Main statement -/

/-- **A stock loses nothing, and hands out in order.** After any requests, the values that were taken, followed
by those that are there, are the ones that were there at first, followed by those that were put in. There
are at most as many as the stock has places. Nothing is found exactly if there are none. A value that is
put in is refused exactly if all places are taken; then it is handed back, and the stock stays as it is. A stock
without places refuses every value. -/
theorem loses_nothing {stock : Stock α} (fits : stock.length ≤ stock.capacity)
    (requests : List (Request α)) :
    let journal := (stock.serveAll requests).1
    let after := (stock.serveAll requests).2
    taken journal ++ after.available = stock.available ++ accepted journal ∧
    after.capacity = stock.capacity ∧ after.length ≤ stock.capacity ∧
    ((after.serve .take).1 = .nothing ↔ after.length = 0) ∧
    (∀ value, ((after.serve (.put value)).1 = .accepted ↔ after.length ≠ stock.capacity) ∧
      (after.serve (.put value) = (.refused value, after) ↔ after.length = stock.capacity)) ∧
    (stock.capacity = 0 → ∀ value, after.serve (.put value) = (.refused value, after)) := by
  intro journal after
  have sameCapacity : after.capacity = stock.capacity := stock.capacity_serveAll requests
  have bounded : after.length ≤ stock.capacity := length_serveAll_le fits requests
  refine ⟨stock.balance_serveAll requests, sameCapacity, bounded, after.nothing_iff, fun value => ?_,
    fun none value => ?_⟩
  · rw [after.accepted_iff, after.refused_iff, sameCapacity]
    omega
  · rw [after.refused_iff, sameCapacity, none]
    exact Nat.zero_le _

/-- A stock that is created with values that may be absent: the absent one is put in twice, once for each value
that was taken, and a third time in vain. -/
theorem loses_nothing_instance :
    let factory (call : Nat) : Except Error (Option Nat) × Nat :=
      (.ok (if call = 0 then some 1 else none), call + 1)
    let stock : Stock (Option Nat) := ⟨2, [some 1, none]⟩
    let requests : List (Request (Option Nat)) :=
      [.take, .take, .take, .put none, .put none, .put none, .take]
    let journal := (stock.serveAll requests).1
    let after := (stock.serveAll requests).2
    create 2 factory 0 = (.ok stock, 2) ∧ stock.length ≤ stock.capacity ∧
      journal.map Prod.snd =
        [.taken (some 1), .taken none, .nothing, .accepted, .accepted, .refused none, .taken none] ∧
      taken journal ++ after.available = [some 1, none] ++ accepted journal ∧
      after.length ≤ 2 ∧ ((after.serve .take).1 = .nothing ↔ after.length = 0) := by
  intro factory stock requests journal after
  have fits : stock.length ≤ stock.capacity := by decide
  obtain ⟨balance, -, bounded, nothing, -⟩ := loses_nothing fits requests
  exact ⟨rfl, fits, rfl, balance, bounded, nothing⟩

end RespClient.Pool.Stock
