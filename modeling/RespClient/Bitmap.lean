import RespClient.Bytes

/-!
# Bitmaps

A byte string holds a bitmap: bit `n` lives in byte `n / 8`, counted from the most significant bit
of that byte. `Bitmap.setBits` lists the set bits and `Bitmap.locate` says where a bit lives.
-/

namespace RespClient.Bitmap

/-- The byte with only the bit `offset` places below the most significant one set. -/
def mask (offset : Nat) : UInt8 := 0x80 >>> UInt8.ofNat offset

/-- Whether the bit `offset` places below the most significant one is set. -/
def isSet (byte : UInt8) (offset : Nat) : Bool := byte &&& mask offset != 0

/-- The index of a bit `offset` places below the most significant one of the byte at `position`. -/
def index (position offset : Nat) : UInt64 := UInt64.ofNat position * 8 + UInt64.ofNat offset

/-- The indices of the set bits, ascending, of the byte at `position`. The bits of a byte that is
zero are not looked at one by one. -/
def setBitsOf (position : Nat) (byte : UInt8) : List UInt64 :=
  if byte = 0 then [] else ((List.range 8).filter (isSet byte)).map (index position)

/-- The indices of the set bits, ascending, of bytes that stand behind `position` others. -/
def setBitsFrom (position : Nat) : Bytes → List UInt64
  | [] => []
  | byte :: rest => setBitsOf position byte ++ setBitsFrom (position + 1) rest

/-- The indices of the set bits, ascending. -/
def setBits (bytes : Bytes) : List UInt64 := setBitsFrom 0 bytes

/-- The byte that holds a bit, and how far below its most significant bit the bit stands. -/
def locate (index : UInt64) : UInt64 × UInt8 := (index / 8, (index % 8).toUInt8)

end RespClient.Bitmap
