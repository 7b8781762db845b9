import RespClient.Wire.Reader

/-!
# The grammar of replies

Which bytes are which reply, stated without reading them: `Derives bytes reply` holds if `bytes` is
one whole frame of `reply`, and `DerivesAll bytes replies` if `bytes` is made of one frame for each
reply, in order. A reply has many frames, since its numerals may have signs and leading zeros.
-/

namespace RespClient

mutual

/-- The frames of a reply. -/
inductive Derives : Bytes → Reply → Prop where
  | status {text : Bytes} (oneLine : lf ∉ text) :
    Derives (Marker.status.byte :: (text ++ crlf)) (.status (Utf8.lossy text))
  | error {text : Bytes} (oneLine : lf ∉ text) :
    Derives (Marker.error.byte :: (text ++ crlf)) (.error (Utf8.lossy text))
  | integer {text : Bytes} {value : Int64} (numeral : Decimal.Writes text value.toInt) :
    Derives (Marker.integer.byte :: (text ++ crlf)) (.integer value)
  | absentBulk {text : Bytes} {value : Int64} (numeral : Decimal.Writes text value.toInt)
      (negative : value.toInt < 0) :
    Derives (Marker.bulk.byte :: (text ++ crlf)) .nil
  | bulk {text data : Bytes} (numeral : Decimal.Writes text data.length)
      (small : data.length ≤ maxBulkLength) :
    Derives (Marker.bulk.byte :: (text ++ crlf ++ (data ++ crlf))) (.bulk data)
  | absentArray {text : Bytes} {value : Int64} (numeral : Decimal.Writes text value.toInt)
      (negative : value.toInt < 0) :
    Derives (Marker.array.byte :: (text ++ crlf)) .nil
  | array {text elements : Bytes} {items : List Reply}
      (numeral : Decimal.Writes text items.length) (small : items.length ≤ maxArrayLength)
      (frames : DerivesAll elements items) :
    Derives (Marker.array.byte :: (text ++ crlf ++ elements)) (.array items)

/-- The frames of replies, one after the other. -/
inductive DerivesAll : Bytes → List Reply → Prop where
  | nil : DerivesAll [] []
  | cons {bytes rest : Bytes} {reply : Reply} {replies : List Reply}
      (first : Derives bytes reply) (others : DerivesAll rest replies) :
    DerivesAll (bytes ++ rest) (reply :: replies)

end

end RespClient
