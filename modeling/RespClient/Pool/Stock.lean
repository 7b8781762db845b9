import RespClient.Error

/-!
# Stocks of reusable values

A stock holds values for reuse, up to a fixed capacity, and hands them out first in, first out. It
starts full; `Stock.create` makes one. Values are opaque: one that stands for nothing is kept like
any other.
-/

namespace RespClient.Pool

/-- Values ready for use, the one that is next first, and the most that may be held. -/
structure Stock (α : Type) where
  capacity : Nat
  available : List α
  deriving DecidableEq, Repr

namespace Stock

variable {α σ : Type}

/-- A stock without values. -/
def empty (capacity : Nat) : Stock α := ⟨capacity, []⟩

/-- The number of values in the stock. -/
def length (stock : Stock α) : Nat := stock.available.length

/-- Whether nothing is left. -/
def isEmpty (stock : Stock α) : Bool := stock.length = 0

/-- Takes the value that has been there longest. -/
def take (stock : Stock α) : Option (α × Stock α) :=
  match stock.available with
  | [] => none
  | value :: rest => some (value, { stock with available := rest })

/-- Puts a value in last; a full stock hands it back. -/
def put (stock : Stock α) (value : α) : Except α (Stock α) :=
  if stock.length < stock.capacity then
    .ok { stock with available := stock.available ++ [value] }
  else .error value

/-- A value that is put in is the last one. -/
theorem available_of_put {stock stock' : Stock α} {value : α}
    (puts : stock.put value = .ok stock') : stock'.available = stock.available ++ [value] := by
  unfold put at puts
  split at puts
  · cases puts
    rfl
  · cases puts

/-- Puts in `count` more values from a factory that has a state of its own, up to its first
failure. -/
def fillFrom (factory : σ → Except Error α × σ) (stock : Stock α) :
    Nat → σ → Except Failure (Stock α) × σ
  | 0, state => (.ok stock, state)
  | count + 1, state =>
    match factory state with
    | (.error error, state) => (.error (.reported error), state)
    | (.ok value, state) =>
      match stock.put value with
      | .ok stock => fillFrom factory stock count state
      | .error _ => (.error (.crashed (.overfilled stock.capacity)), state)

/-- A full stock, with values from a factory in the order in which they are made; the first failure
of the factory is the answer instead, and what was made before it is given up. -/
def fill (capacity : Nat) (factory : σ → Except Error α × σ) (state : σ) :
    Except Failure (Stock α) × σ :=
  fillFrom factory (empty capacity) capacity state

/-- A stock that is filled, if there is room for it. -/
def create (capacity : Nat) (factory : σ → Except Error α × σ) (state : σ) :
    Except Failure (Stock α) × σ :=
  if maxRoom < capacity then (.error (.crashed .capacityOverflow), state)
  else fill capacity factory state

/-- The stock in full, by the number of its values. -/
def describe (stock : Stock α) : String :=
  "ResourcePool \x7b capacity: " ++ toString stock.capacity ++
    ", available: " ++ toString stock.length ++ " \x7d"

end Stock

end RespClient.Pool
