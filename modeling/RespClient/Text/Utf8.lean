import RespClient.Bytes

/-!
# Reading bytes as UTF-8 text

Two readings of a byte string as text. `Utf8.decode?` is strict and answers only for well-formed
UTF-8. `Utf8.lossy` always answers: each maximal prefix that no well-formed character continues
becomes one replacement character, and reading goes on behind it.

A character is scanned by its lead byte, which fixes how many continuation bytes follow and the
range of the first of them; the narrowed ranges rule out overlong forms, surrogates, and code
points above `U+10FFFF`.
-/

namespace RespClient.Utf8

/-- The character that stands for bytes that are not text. -/
def replacement : Char := '\uFFFD'

/-- What a lead byte announces: the bits it contributes to the code point, the number of
continuation bytes, and the range of the first of those. -/
structure Lead where
  bits : UInt32
  owed : Nat
  low : UInt8
  high : UInt8

/-- The announcement of a lead byte, if the byte can start a character. -/
def lead? (byte : UInt8) : Option Lead :=
  if byte < 0x80 then some ⟨byte.toUInt32, 0, 0x80, 0xBF⟩
  else if byte < 0xC2 then none
  else if byte < 0xE0 then some ⟨byte.toUInt32 &&& 0x1F, 1, 0x80, 0xBF⟩
  else if byte = 0xE0 then some ⟨0, 2, 0xA0, 0xBF⟩
  else if byte = 0xED then some ⟨0x0D, 2, 0x80, 0x9F⟩
  else if byte < 0xF0 then some ⟨byte.toUInt32 &&& 0x0F, 2, 0x80, 0xBF⟩
  else if byte = 0xF0 then some ⟨0, 3, 0x90, 0xBF⟩
  else if byte < 0xF4 then some ⟨byte.toUInt32 &&& 0x07, 3, 0x80, 0xBF⟩
  else if byte = 0xF4 then some ⟨4, 3, 0x80, 0x8F⟩
  else none

/-- Reads the `owed` continuation bytes of a character, the first of them within `low` and `high`,
and returns the character with what follows it. A byte out of range is left unread. -/
def scanTail (bits : UInt32) (low high : UInt8) : Nat → Bytes → Option Char × Bytes
  | 0, rest => (some (Char.ofNat bits.toNat), rest)
  | _ + 1, [] => (none, [])
  | owed + 1, byte :: rest =>
    if low ≤ byte ∧ byte ≤ high then
      scanTail (bits * 64 + (byte.toUInt32 &&& 0x3F)) 0x80 0xBF owed rest
    else (none, byte :: rest)

/-- The character at the front of a nonempty byte string and what follows it; no character, if the
bytes in front of what follows can start none. -/
def scan (byte : UInt8) (rest : Bytes) : Option Char × Bytes :=
  match lead? byte with
  | none => (none, rest)
  | some lead => scanTail lead.bits lead.low lead.high lead.owed rest

/-- Continuation bytes are taken from the front of what is there. -/
theorem length_scanTail_le (bits : UInt32) (low high : UInt8) (owed : Nat) (rest : Bytes) :
    (scanTail bits low high owed rest).2.length ≤ rest.length := by
  induction owed generalizing bits low high rest with
  | zero => simp [scanTail]
  | succ owed step =>
    cases rest with
    | nil => simp [scanTail]
    | cons byte rest =>
      simp only [scanTail]
      split
      · exact Nat.le_succ_of_le (step _ _ _ rest)
      · exact Nat.le_refl _

/-- A scan consumes its lead byte. -/
theorem length_scan_le (byte : UInt8) (rest : Bytes) :
    (scan byte rest).2.length ≤ rest.length := by
  unfold scan
  split
  · exact Nat.le_refl _
  · exact length_scanTail_le _ _ _ _ _

/-- The characters of a byte string, with a replacement character for each maximal prefix that
starts no character. -/
def lossyChars : Bytes → List Char
  | [] => []
  | byte :: rest =>
    (scan byte rest).1.getD replacement :: lossyChars (scan byte rest).2
termination_by bytes => bytes.length
decreasing_by exact Nat.lt_succ_of_le (length_scan_le byte rest)

/-- The text of a byte string, whatever the bytes are. -/
def lossy (bytes : Bytes) : String := String.ofList (lossyChars bytes)

/-- The text of a byte string that is well-formed UTF-8. -/
def decode? (bytes : Bytes) : Option String := String.fromUTF8? ⟨bytes.toArray⟩

/-- The encoding of a text reads back as that text. -/
theorem decode?_utf8 (text : String) : decode? (utf8 text) = some text := by
  simp [decode?, utf8, String.fromUTF8?, text.isValidUTF8, String.fromUTF8]

end RespClient.Utf8
