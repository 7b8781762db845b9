import RespClient.Error

/-!
# Rotation over addresses

A cursor that goes round a fixed list of addresses. A copy of a rotation goes on from the same place
and independently of it.
-/

namespace RespClient.Pool

/-- A place in a nonempty list of addresses. -/
structure Rotation where
  addresses : List String
  position : Nat
  inside : position < addresses.length
  deriving DecidableEq, Repr

namespace Rotation

/-- The rotation that starts with the first address; there has to be one. -/
def ofAddresses (addresses : List String) : Except Error Rotation :=
  if nonempty : 0 < addresses.length then .ok ⟨addresses, 0, nonempty⟩
  else .error (.config .emptyRotation)

/-- The number of addresses. -/
def size (rotation : Rotation) : Nat := rotation.addresses.length

/-- The address whose turn it is. -/
def current (rotation : Rotation) : String :=
  rotation.addresses.get ⟨rotation.position, rotation.inside⟩

/-- The rotation after that address has had its turn. -/
def advance (rotation : Rotation) : Rotation where
  addresses := rotation.addresses
  position := (rotation.position + 1) % rotation.addresses.length
  inside := Nat.mod_lt _ (Nat.lt_of_le_of_lt (Nat.zero_le _) rotation.inside)

end Rotation

end RespClient.Pool
