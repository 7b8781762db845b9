import RespClient.Bytes
import RespClient.Text.Hexadecimal
import RespClient.Text.Invisible

/-!
# Quoted text

How texts and byte strings appear in the description of a value: between double quotes, with a
backslash in front of a quote or a backslash, the usual letters for NUL, tab and the line ends, and
the code point of whatever does not show by itself.
-/

namespace RespClient.Quoted

/-- How one character appears in a quoted text. -/
def char (c : Char) : String :=
  if c = '\x00' then "\\0"
  else if c = '\t' then "\\t"
  else if c = '\r' then "\\r"
  else if c = '\n' then "\\n"
  else if c = '"' then "\\\""
  else if c = '\\' then "\\\\"
  else if isInvisible c then "\\u\x7b" ++ Hexadecimal.ofNat c.toNat ++ "\x7d"
  else c.toString

/-- A text between quotes. -/
def text (content : String) : String :=
  "\"" ++ String.join (content.toList.map char) ++ "\""

/-- How one byte appears in a quoted byte string. -/
def byte (b : UInt8) : String :=
  if b = lf then "\\n"
  else if b = cr then "\\r"
  else if b = 0x09 then "\\t"
  else if b = 0x5C then "\\\\"
  else if b = 0x22 then "\\\""
  else if b = 0 then "\\0"
  else if 0x20 ≤ b ∧ b < 0x7F then (Char.ofUInt8 b).toString
  else "\\x" ++ Hexadecimal.ofByte b

/-- A byte string between quotes, marked as such. -/
def bytes (content : Bytes) : String :=
  "b\"" ++ String.join (content.map byte) ++ "\""

end RespClient.Quoted
