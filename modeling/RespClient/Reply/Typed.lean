import RespClient.Bitmap
import RespClient.Error
import RespClient.Reply
import RespClient.Text.Decimal

/-!
# Replies as typed values

What a caller makes of a reply: bytes, text, an integer, a truth value, or a list of these. The
absent value of a reply is `none`, so that a missing key differs from an empty one. A reply of
another shape is an error, and the failure of a command becomes the server's error.
-/

namespace RespClient.Reply

/-- The error of a reply that does not have the expected shape. -/
def mismatch (expected : Expectation) : Reply → Error
  | .error text => .server text
  | reply => .unexpectedReply expected reply.summary

/-- The integer written in a bulk. -/
def integerOfBulk (data : Bytes) : Except Error Int64 :=
  match Decimal.int64? data with
  | some value => .ok value
  | none => .error (.unexpectedReply .integer ("bulk '" ++ Utf8.lossy data ++ "'"))

/-- The bytes of a scalar; an integer gives its decimal text. -/
def toBytes : Reply → Except Error (Option Bytes)
  | .nil => .ok none
  | .bulk data => .ok (some data)
  | .status text => .ok (some (utf8 text))
  | .integer value => .ok (some (Decimal.ofInt value.toInt))
  | reply => .error (mismatch .scalar reply)

/-- The text of a scalar, if it is UTF-8. -/
def toText (reply : Reply) : Except Error (Option String) :=
  match reply.toBytes with
  | .error cause => .error cause
  | .ok none => .ok none
  | .ok (some data) =>
    match Utf8.decode? data with
    | some text => .ok (some text)
    | none => .error (.protocol .notText)

/-- The value of an integer, or of a bulk that holds a decimal integer. -/
def toInt64 : Reply → Except Error (Option Int64)
  | .nil => .ok none
  | .integer value => .ok (some value)
  | .bulk data => (integerOfBulk data).map some
  | reply => .error (mismatch .integer reply)

/-- The truth of an integer other than zero, or of the status `OK`. -/
def toBool : Reply → Except Error (Option Bool)
  | .nil => .ok none
  | .integer value => .ok (some (value != 0))
  | .status "OK" => .ok (some true)
  | reply => .error (mismatch .integerOrOk reply)

/-- The values of an array's elements, up to the first that has none of the type; the absent value
counts as an empty array. -/
def elements (read : Reply → Except Error α) : Reply → Except Error (List α)
  | .nil => .ok []
  | .array items => items.mapM read
  | reply => .error (mismatch .array reply)

/-- The bytes of each element of an array of scalars. -/
def toBytesList : Reply → Except Error (List (Option Bytes)) := elements toBytes

/-- The value of each element of an array of integers. -/
def toInt64List : Reply → Except Error (List (Option Int64)) := elements toInt64

/-- The indices of the bits that are set in the bytes of a scalar. -/
def toSetBits (reply : Reply) : Except Error (Option (List UInt64)) :=
  reply.toBytes.map fun data => data.map Bitmap.setBits

end RespClient.Reply
