/-!
# White space

The characters with the Unicode property `White_Space`. A text made of these alone is blank.
-/

namespace RespClient

/-- Whether a character has the property `White_Space`. -/
def isWhiteSpace (c : Char) : Bool :=
  (0x09 ≤ c.val && c.val ≤ 0x0D) || c.val = 0x20 || c.val = 0x85 || c.val = 0xA0 ||
    c.val = 0x1680 || (0x2000 ≤ c.val && c.val ≤ 0x200A) || c.val = 0x2028 || c.val = 0x2029 ||
    c.val = 0x202F || c.val = 0x205F || c.val = 0x3000

/-- Whether a text has no character other than white space. -/
def isBlank (text : String) : Bool := text.toList.all isWhiteSpace

end RespClient
