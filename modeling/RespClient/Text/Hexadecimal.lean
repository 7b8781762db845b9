/-!
# Hexadecimal numbers

Code points and bytes as they are named in messages: lower-case hexadecimal digits.
-/

namespace RespClient.Hexadecimal

/-- The digits of a number, without leading zeros. -/
def ofNat (value : Nat) : String := String.ofList (Nat.toDigits 16 value)

/-- The two digits of a byte. -/
def ofByte (byte : UInt8) : String :=
  String.ofList [Nat.digitChar (byte.toNat / 16), Nat.digitChar (byte.toNat % 16)]

end RespClient.Hexadecimal
