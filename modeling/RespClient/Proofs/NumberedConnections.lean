import Mathlib.Data.List.Nodup
import RespClient.Proofs.ConnectionLaws
import RespClient.Proofs.ConnectionViews
import RespClient.Proofs.ExchangeOutcome

/-!
# Numbered connections

Connections are values, and two of them may be equal; a number tells them apart. For every type of
connections, `Numbered` is a type of connections too: a number goes with a connection through every
call, and a `Register` in the world keeps what each connection was like after the last call on it.
Nothing else changes, so that the number of a connection says which one it is and the register says
what has become of it, wherever it has gone.

`Kept` says that every connection is in one place. Each lemma about it says what one call does to
the places: it changes a connection where it is, takes away one that was closed, or adds a new one.
-/

namespace RespClient

variable {C Net : Type}

/-- A connection with the number by which it is told from all others. -/
structure Numbered (C : Type) where
  number : Nat
  connection : C

/-- A network, and each connection as its last call has left it, by number. -/
structure Register (C Net : Type) where
  net : Net
  states : List C

/-- The world without the register. -/
def World.plain (world : World (Register C Net)) : World Net := ⟨world.net.net, world.log⟩

/-- The world with a register. -/
def World.registering (world : World Net) (states : List C) : World (Register C Net) :=
  ⟨⟨world.net, states⟩, world.log⟩

namespace Numbered

/-- A call on a connection, which leaves it its number. -/
def call {ε α : Type} (call : Call C Net ε α) : Call (Numbered C) (Register C Net) ε α :=
  fun connection world =>
    let (result, after, world') := call connection.connection world.plain
    (result, ⟨connection.number, after⟩,
      world'.registering (world.net.states.set connection.number after))

/-- A new connection, with the next number. -/
def enter (connection : C) (states : List C) (world : World Net) :
    Numbered C × World (Register C Net) :=
  (⟨states.length, connection⟩, world.registering (states ++ [connection]))

instance [Connection C Net] : Connection (Numbered C) (Register C Net) where
  create address timeout world :=
    let (connection, world') := Connection.create address timeout world.plain
    enter connection world.net.states world'
  ask name args := call (Connection.ask name args)
  send name args := call (Connection.send name args)
  receive := call Connection.receive
  owed connection := Connection.owed connection.connection
  probe := call Connection.probe
  isOpen connection := Connection.isOpen connection.connection
  isClosed connection := Connection.isClosed connection.connection
  close := call Connection.close
  sibling connection world :=
    match Connection.sibling connection.connection world.plain with
    | (.error error, world') => (.error error, world'.registering world.net.states)
    | (.ok fresh, world') =>
      let (fresh, world') := enter fresh world.net.states world'
      (.ok fresh, world')
  abandon connection world :=
    (Connection.abandon connection.connection world.plain).registering world.net.states

end Numbered

theorem Numbered.length_call {ε α : Type} (action : Call C Net ε α) (place : Numbered C)
    (world : World (Register C Net)) :
    (Numbered.call action place world).2.2.net.states.length = world.net.states.length :=
  List.length_set

/-! ## Every connection in one place -/

variable [Connection C Net]

theorem Numbered.length_create (address : String) (timeout : Duration)
    (world : World (Register C Net)) :
    (Connection.create (C := Numbered C) address timeout world).2.net.states.length =
      world.net.states.length + 1 :=
  List.length_append

theorem Numbered.length_exchange (commands : List Command) (place : Numbered C)
    (world : World (Register C Net)) :
    (exchange commands place world).2.2.2.net.states.length = world.net.states.length := by
  let same (_ : Numbered C) (other : World (Register C Net)) : Prop :=
    other.net.states.length = world.net.states.length
  have before : same place world := rfl
  exact exchange_keeps same
    (fun name args place other before =>
      (Numbered.length_call (Connection.send name args) place other).trans before)
    (fun {place other} before =>
      (Numbered.length_call Connection.receive place other).trans before) commands before

theorem Numbered.sibling_of_error {place : Numbered C} {world : World (Register C Net)}
    {error : Error} {world' : World Net}
    (copies : Connection.sibling place.connection world.plain = (.error error, world')) :
    Connection.sibling place world = (.error error, world'.registering world.net.states) := by
  simp only [Connection.sibling, copies]

theorem Numbered.sibling_of_ok {place : Numbered C} {world : World (Register C Net)}
    {fresh : C} {world' : World Net}
    (copies : Connection.sibling place.connection world.plain = (.ok fresh, world')) :
    Connection.sibling place world = (.ok (Numbered.enter fresh world.net.states world').1,
      (Numbered.enter fresh world.net.states world').2) := by
  simp only [Connection.sibling, copies]

/-- Of the connections in a register, those in `places` are as the register has them and are there
once, and all others are closed, up to those whose numbers are `excepted`. -/
structure Kept (states : List C) (excepted : List Nat) (places : List (Numbered C)) : Prop where
  current : ∀ place ∈ places, states[place.number]? = some place.connection
  distinct : (places.map Numbered.number).Nodup
  accounted : ∀ {number : Nat} {connection : C}, states[number]? = some connection →
    Connection.isClosed connection = false → number ∉ excepted →
    number ∈ places.map Numbered.number

namespace Kept

variable {states : List C} {excepted : List Nat} {places places' : List (Numbered C)}
  {place : Numbered C}

theorem perm (kept : Kept states excepted places) (same : places.Perm places') :
    Kept states excepted places' where
  current place there := kept.current place (same.mem_iff.2 there)
  distinct := (same.map _).nodup_iff.1 kept.distinct
  accounted found opened counts := (same.map _).mem_iff.1 (kept.accounted found opened counts)

theorem number_lt (kept : Kept states excepted places) (there : place ∈ places) :
    place.number < states.length := by
  have found := kept.current place there
  exact (List.getElem?_eq_some_iff.1 found).1

/-- Without connections there are no places. -/
theorem nil : Kept (C := C) [] excepted [] where
  current _ there := nomatch there
  distinct := List.nodup_nil
  accounted found _ _ := nomatch found

/-- A connection may change where it is. -/
theorem set (kept : Kept states excepted (place :: places)) (after : C) :
    Kept (states.set place.number after) excepted (⟨place.number, after⟩ :: places) where
  current other there := by
    have inside := kept.number_lt List.mem_cons_self
    rcases List.mem_cons.1 there with rfl | elsewhere
    · exact List.getElem?_set_self inside
    · have different : place.number ≠ other.number := by
        have distinct := kept.distinct
        rw [List.map_cons, List.nodup_cons] at distinct
        exact fun same => distinct.1 (same ▸ List.mem_map_of_mem elsewhere)
      rw [List.getElem?_set_ne different]
      exact kept.current other (List.mem_cons_of_mem place elsewhere)
  distinct := kept.distinct
  accounted {number connection} found opened counts := by
    by_cases same : place.number = number
    · exact same ▸ List.mem_cons_self
    · rw [List.getElem?_set_ne same] at found
      exact kept.accounted found opened counts

/-- A connection that is closed may go. -/
theorem drop (kept : Kept states excepted (place :: places))
    (closed : Connection.isClosed place.connection = true) : Kept states excepted places where
  current other there := kept.current other (List.mem_cons_of_mem place there)
  distinct := (List.nodup_cons.1 kept.distinct).2
  accounted {number connection} found opened counts := by
    rcases List.mem_cons.1 (kept.accounted found opened counts) with rfl | elsewhere
    · have same := (kept.current place List.mem_cons_self).symm.trans found
      rw [Option.some.inj same, opened] at closed
      cases closed
    · exact elsewhere

/-- Connections may go if their numbers are excepted from now on. -/
theorem except (kept : Kept states excepted (places ++ places')) {more : List Nat}
    (excepts : ∀ place ∈ places, place.number ∈ more) :
    Kept states (excepted ++ more) places' where
  current other there := kept.current other (List.mem_append_right places there)
  distinct := by
    have distinct := kept.distinct
    rw [List.map_append] at distinct
    exact distinct.of_append_right
  accounted {number connection} found opened counts := by
    rw [List.mem_append, not_or] at counts
    have somewhere := kept.accounted found opened counts.1
    rw [List.map_append] at somewhere
    rcases List.mem_append.1 somewhere with gone | there
    · obtain ⟨place, there, rfl⟩ := List.mem_map.1 gone
      exact absurd (excepts place there) counts.2
    · exact there

/-- A new connection has a place of its own. -/
theorem enter (kept : Kept states excepted places) (fresh : C) :
    Kept (states ++ [fresh]) excepted (⟨states.length, fresh⟩ :: places) where
  current other there := by
    rcases List.mem_cons.1 there with rfl | old
    · exact List.getElem?_concat_length
    · rw [List.getElem?_append_left (kept.number_lt old)]
      exact kept.current other old
  distinct := by
    rw [List.map_cons, List.nodup_cons]
    refine ⟨fun taken => ?_, kept.distinct⟩
    obtain ⟨other, there, same⟩ := List.mem_map.1 taken
    exact absurd same (Nat.ne_of_lt (kept.number_lt there))
  accounted {number connection} found opened counts := by
    rcases Nat.lt_or_ge number states.length with old | new
    · rw [List.getElem?_append_left old] at found
      exact List.mem_cons_of_mem _ (kept.accounted found opened counts)
    · have inside := (List.getElem?_eq_some_iff.1 found).1
      rw [List.length_append, List.length_singleton] at inside
      have last : number = states.length := by omega
      exact last ▸ List.mem_cons_self

/-- A call changes the connection that it is made on where it is. -/
theorem call {ε α : Type} (world : World (Register C Net))
    (kept : Kept world.net.states excepted (place :: places)) (action : Call C Net ε α) :
    Kept (Numbered.call action place world).2.2.net.states excepted
      ((Numbered.call action place world).2.1 :: places) :=
  kept.set _

/-- A connection that is told to close may go. -/
theorem close (closes : Connection.Closes C) (world : World (Register C Net))
    (kept : Kept world.net.states excepted (place :: places)) :
    Kept (Connection.close place world).2.2.net.states excepted places :=
  (kept.call world Connection.close).drop (closes place.connection world.plain)

theorem create {world : World (Register C Net)} (kept : Kept world.net.states excepted places)
    (address : String) (timeout : Duration) :
    Kept (Connection.create (C := Numbered C) address timeout world).2.net.states excepted
      ((Connection.create address timeout world).1 :: places) :=
  kept.enter _

/-- An exchange changes the connection that it is made on where it is. -/
theorem exchange {world : World (Register C Net)}
    (kept : Kept world.net.states excepted (place :: places)) (commands : List Command) :
    Kept (RespClient.exchange commands place world).2.2.2.net.states excepted
      ((RespClient.exchange commands place world).2.2.1 :: places) :=
  exchange_keeps (fun place world => Kept world.net.states excepted (place :: places))
    (fun name args _ world kept => kept.call world (Connection.send name args))
    (fun {_ world} kept => kept.call world Connection.receive) commands kept

end Kept

/-! ## Without the numbers -/

/-- Shows connections without their numbers. -/
def Numbered.view : Connection.View (Numbered C) C where
  bare := Numbered.connection
  net := Register.net
  owed _ := rfl
  isOpen _ := rfl
  isClosed _ := rfl
  create _ _ _ := rfl
  ask _ _ _ _ := rfl
  send _ _ _ _ := rfl
  receive _ _ := rfl
  probe _ _ := rfl
  close _ _ := rfl
  sibling place world := by
    change Connection.sibling place.connection world.plain = _
    rcases copies : Connection.sibling place.connection world.plain with ⟨error | fresh, world'⟩
    · rw [Numbered.sibling_of_error copies]
      rfl
    · rw [Numbered.sibling_of_ok copies]
      rfl
  abandon _ _ := rfl

end RespClient
