/-!
# Bytes

What crosses a connection is a list of bytes. A text goes onto the wire as its UTF-8 encoding.
-/

namespace RespClient

/-- A string of bytes, of any content. -/
abbrev Bytes := List UInt8

/-- The carriage return byte. -/
abbrev cr : UInt8 := 0x0D

/-- The line feed byte. -/
abbrev lf : UInt8 := 0x0A

/-- The two bytes that end every line of the protocol. -/
def crlf : Bytes := [cr, lf]

/-- The UTF-8 encoding of a text. -/
def utf8 (text : String) : Bytes := text.toByteArray.data.toList

/-- Texts with the same encoding are the same text. -/
theorem utf8_injective {first second : String} (same : utf8 first = utf8 second) :
    first = second := by
  have bytes : first.toByteArray = second.toByteArray :=
    ByteArray.ext (Array.toList_inj.1 same)
  exact String.toByteArray_inj.1 bytes

end RespClient
