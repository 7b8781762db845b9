import RespClient.Proofs.ReplyStreams
import RespClient.Reply.Typed
import RespClient.Request

/-!
# One grammar of integers

Integers come from the server as replies of their own and as bulk strings, and go to it as arguments.
All of them are decimal text, and `Decimal.Writes` tells which text stands for which integer. Here the
text of an integer reply (`Reply.read_integer_iff`) and the content of a bulk string
(`Reply.toInt64_bulk_iff`) are shown to be read by that grammar, with the same limits.

The two differ where the text has a line end. In a bulk string that is a fault; an integer reply ends
with its line, so what is behind the line end is no part of it (`Reply.read_integer_cases`).
-/

namespace RespClient

/-! ## Numerals within 64 bits -/

/-- The integers of 64 bits are those within the limits. -/
theorem Decimal.exists_writes_toInt_iff {text : Bytes} :
    (∃ value : Int64, Writes text value.toInt) ↔
      ∃ value : Int, Writes text value ∧
        -9223372036854775808 ≤ value ∧ value ≤ 9223372036854775807 := by
  constructor
  · rintro ⟨value, written⟩
    exact ⟨value.toInt, written, value.minValue_le_toInt, value.toInt_le⟩
  · rintro ⟨value, written, low, high⟩
    have fits : fitsInt64 value = true := by
      rw [fitsInt64, Bool.and_eq_true, decide_eq_true_eq, decide_eq_true_eq]
      exact ⟨low, high⟩
    exact ⟨Int64.ofInt value, by rwa [toInt_ofInt_of_fits fits]⟩

/-- Nothing but a numeral of an integer of 64 bits is read. -/
theorem Decimal.int64?_eq_none_iff {text : Bytes} :
    int64? text = none ↔ ¬ ∃ value : Int64, Writes text value.toInt := by
  simp only [Option.eq_none_iff_forall_ne_some, ne_eq, int64?_eq_some_iff, not_exists]

/-- A printed integer is a numeral. -/
theorem Decimal.writes_ofInt (value : Int64) : Writes (ofInt value.toInt) value.toInt :=
  int64?_eq_some_iff.1 (int64?_ofInt value)

theorem lf_mem_of_crlf (front back : Bytes) : lf ∈ front ++ crlf ++ back :=
  List.mem_append_left _ (List.mem_append_right _ (List.mem_cons_of_mem cr (List.mem_cons_self ..)))

/-- No numeral goes on behind a line end. -/
theorem Decimal.not_writes_of_crlf {front back : Bytes} :
    ¬ ∃ value : Int, Writes (front ++ crlf ++ back) value ∧
      -9223372036854775808 ≤ value ∧ value ≤ 9223372036854775807 := by
  rintro ⟨value, written, -⟩
  exact written.lf_notMem (lf_mem_of_crlf front back)

/-! ## Bulk strings -/

/-- A bulk string is read as the integer that its content writes. -/
theorem Reply.toInt64_bulk_iff {text : Bytes} {value : Int64} :
    (Reply.bulk text).toInt64 = .ok (some value) ↔ Decimal.Writes text value.toInt := by
  rw [toInt64, integerOfBulk, ← Decimal.int64?_eq_some_iff]
  cases Decimal.int64? text <;> simp [Except.map]

/-- A bulk string that writes no integer is refused. -/
theorem Reply.toInt64_bulk_of_not_writes {text : Bytes}
    (noNumeral : ¬ ∃ value : Int64, Decimal.Writes text value.toInt) :
    (Reply.bulk text).toInt64 =
      .error (.unexpectedReply .integer ("bulk '" ++ Utf8.lossy text ++ "'")) := by
  rw [toInt64, integerOfBulk, Decimal.int64?_eq_none_iff.2 noNumeral]
  rfl

/-! ## Integer replies -/

/-- The frame of an integer reply with this text. -/
def integerFrame (text : Bytes) : Bytes := Marker.integer.byte :: (text ++ crlf)

/-- An integer reply is read as the integer that its text writes. -/
theorem Reply.read_integer_iff {ending : Ending} {text : Bytes} {value : Int64} :
    Reply.read ending (integerFrame text) = (.ok (.integer value), []) ↔
      Decimal.Writes text value.toInt := by
  rw [read_eq_ok_iff]
  constructor
  · rintro ⟨front, whole, derived⟩
    cases derived with
    | integer numeral =>
      rw [integerFrame, List.append_nil, List.cons.injEq] at whole
      rwa [List.append_cancel_right whole.2]
  · exact fun numeral => ⟨integerFrame text, (List.append_nil _).symm, .integer numeral⟩

/-- A line is refused as the text of an integer reply, or writes an integer. -/
theorem Reply.read_integer_line (ending : Ending) {text : Bytes} (oneLine : lf ∉ text)
    (behind : Bytes) :
    Reply.read ending (integerFrame text ++ behind) =
        (.error (.protocol (.badInteger text)), behind) ∨
      ∃ value : Int64, Decimal.Writes text value.toInt := by
  by_cases numeral : ∃ value : Int64, Decimal.Writes text value.toInt
  · exact Or.inr numeral
  · rw [integerFrame, List.cons_append, read_eq, readHeader_line .integer oneLine]
    simp only [readDeclared, Decimal.int64?_eq_none_iff.2 numeral, true_or]

/-- A text with a line feed makes a faulty line, or has a line end behind its first line. -/
theorem integerFrame_cases {text : Bytes} (feed : lf ∈ text) (ending : Ending) :
    (∃ violation rest, Reply.read ending (integerFrame text) =
        (.error (.protocol violation), rest)) ∨
      ∃ front back, lf ∉ front ∧ text = front ++ crlf ++ back := by
  obtain ⟨front, back, rfl, oneLine⟩ := List.eq_append_cons_of_mem feed
  have oneLine' : lf ∉ Marker.integer.byte :: front := by
    rw [List.mem_cons, not_or]
    exact ⟨Marker.byte_ne_lf .integer, oneLine⟩
  have frame : integerFrame (front ++ lf :: back) =
      (Marker.integer.byte :: front) ++ lf :: (back ++ crlf) := by
    rw [integerFrame, List.cons_append, List.append_assoc, List.cons_append]
  rcases readHeader_cases_of_line oneLine' with
    ⟨violation, line, faulty⟩ | ⟨marker, line, oneLine, whole⟩
  · exact Or.inl ⟨violation, back ++ crlf, by rw [frame, Reply.read_eq, faulty]⟩
  · have ended : Marker.integer.byte = marker.byte ∧ front ++ [lf] = line ++ crlf := by
      simpa using whole []
    refine Or.inr ⟨line, back, oneLine, ?_⟩
    rw [← ended.2, List.append_assoc, List.singleton_append]

/-- A text goes on behind its first line in the stream, and not in the reply. -/
theorem integerFrame_append (front back : Bytes) :
    integerFrame (front ++ crlf ++ back) = integerFrame front ++ (back ++ crlf) := by
  simp only [integerFrame, List.cons_append, List.append_assoc]

/-- The integer that the first line writes is read, and the rest is left. -/
theorem Reply.read_integer_of_writes {ending : Ending} {front : Bytes} {value : Int64}
    (numeral : Decimal.Writes front value.toInt) (back : Bytes) :
    Reply.read ending (integerFrame (front ++ crlf ++ back)) =
      (.ok (.integer value), back ++ crlf) :=
  read_eq_ok_iff.2 ⟨integerFrame front, integerFrame_append front back, .integer numeral⟩

/-- An integer reply with any text violates the protocol, unless the text is a numeral or has a line
end behind one. -/
theorem Reply.read_integer_cases (ending : Ending) (text : Bytes) :
    (∃ violation rest, Reply.read ending (integerFrame text) =
        (.error (.protocol violation), rest)) ∨
      (∃ value : Int64, Decimal.Writes text value.toInt) ∨
      ∃ front back, ∃ value : Int64, text = front ++ crlf ++ back ∧
        Decimal.Writes front value.toInt := by
  by_cases feed : lf ∈ text
  · rcases integerFrame_cases feed ending with faulty | ⟨front, back, oneLine, rfl⟩
    · exact Or.inl faulty
    · rw [integerFrame_append]
      rcases read_integer_line ending oneLine (back ++ crlf) with refused | ⟨value, numeral⟩
      · exact Or.inl ⟨_, _, refused⟩
      · exact Or.inr (Or.inr ⟨front, back, value, rfl, numeral⟩)
  · have read := read_integer_line ending feed []
    rw [List.append_nil] at read
    rcases read with refused | numeral
    · exact Or.inl ⟨_, _, refused⟩
    · exact Or.inr (Or.inl numeral)

/-! ## Main statement -/

/-- **There is one grammar of integers.** For every text, an integer reply of this text is read as a
value with nothing left, if and only if a bulk string with this content is read as that value, if and
only if the text is a numeral of that value. What is not a numeral of a value within 64 bits is
refused in a bulk string. It is refused in an integer reply too, unless the text has a line end and a
numeral in front of it, which is then what is read; the rest of the text and the line end behind it
are left. And the text that is printed for a value, as the bytes of an integer reply and as the
argument of an increment, is read as that value. -/
theorem one_integer_grammar :
    (∀ (ending : Ending) (line text : Bytes),
      (∀ value : Int64,
        (((Reply.readFrom ending ⟨line, integerFrame text⟩).1 = .ok (.integer value) ∧
            (Reply.readFrom ending ⟨line, integerFrame text⟩).2.unread = []) ↔
          (Reply.bulk text).toInt64 = .ok (some value)) ∧
        ((Reply.bulk text).toInt64 = .ok (some value) ↔ Decimal.Writes text value.toInt)) ∧
      ((¬ ∃ value : Int, Decimal.Writes text value ∧
          -9223372036854775808 ≤ value ∧ value ≤ 9223372036854775807) →
        (Reply.bulk text).toInt64 =
          .error (.unexpectedReply .integer ("bulk '" ++ Utf8.lossy text ++ "'")) ∧
        (∀ front back, ∀ value : Int64, text = front ++ crlf ++ back →
          Decimal.Writes front value.toInt →
            (Reply.readFrom ending ⟨line, integerFrame text⟩).1 = .ok (.integer value) ∧
            (Reply.readFrom ending ⟨line, integerFrame text⟩).2.unread = back ++ crlf) ∧
        ((¬ ∃ front back, ∃ value : Int64, text = front ++ crlf ++ back ∧
            Decimal.Writes front value.toInt) →
          ∃ violation, (Reply.readFrom ending ⟨line, integerFrame text⟩).1 =
            .error (.protocol violation)))) ∧
    ∀ value : Int64, ∃ printed,
      (Reply.integer value).toBytes = .ok (some printed) ∧
      (∀ key field, (Request.hincrby key field value).args = [key, field, printed]) ∧
      (Reply.bulk printed).toInt64 = .ok (some value) ∧
      ∀ (ending : Ending) (line : Bytes),
        (Reply.readFrom ending ⟨line, integerFrame printed⟩).1 = .ok (.integer value) ∧
          (Reply.readFrom ending ⟨line, integerFrame printed⟩).2.unread = [] := by
  have view (ending : Ending) (line text : Bytes) :=
    Reply.read_unread ending ⟨line, integerFrame text⟩
  have whole (ending : Ending) (line text : Bytes) (value : Int64) :
      ((Reply.readFrom ending ⟨line, integerFrame text⟩).1 = .ok (.integer value) ∧
        (Reply.readFrom ending ⟨line, integerFrame text⟩).2.unread = []) ↔
      Decimal.Writes text value.toInt := by
    rw [← Prod.mk.injEq, ← view, Reply.read_integer_iff]
  refine ⟨fun ending line text => ⟨fun value => ?_, fun noNumeral => ?_⟩, fun value => ?_⟩
  · exact ⟨(whole ending line text value).trans Reply.toInt64_bulk_iff.symm,
      Reply.toInt64_bulk_iff⟩
  · rw [← Decimal.exists_writes_toInt_iff] at noNumeral
    refine ⟨Reply.toInt64_bulk_of_not_writes noNumeral, fun front back value split numeral => ?_,
      fun noFront => ?_⟩
    · rw [← Prod.mk.injEq, ← view, split, Reply.read_integer_of_writes numeral back]
    · rcases Reply.read_integer_cases ending text with ⟨violation, rest, refused⟩ | numeral | front
      · have read := (view ending line text).symm.trans refused
        exact ⟨violation, (Prod.mk.inj read).1⟩
      · exact absurd numeral noNumeral
      · exact absurd front noFront
  · have printed := Decimal.writes_ofInt value
    exact ⟨Decimal.ofInt value.toInt, rfl, fun _ _ => rfl, Reply.toInt64_bulk_iff.2 printed,
      fun ending line => (whole ending line _ value).2 printed⟩

/-- The least value is printed and read back, the value above the greatest is refused, and of two
lines the first is read. -/
theorem one_integer_grammar_instance :
    let beyond := Decimal.ofNat 9223372036854775808
    let lines := Decimal.ofNat 5 ++ crlf ++ Decimal.ofNat 6
    (∃ printed, (Reply.integer Int64.minValue).toBytes = .ok (some printed) ∧
      (Reply.bulk printed).toInt64 = .ok (some Int64.minValue)) ∧
    ((¬ ∃ value : Int, Decimal.Writes beyond value ∧
        -9223372036854775808 ≤ value ∧ value ≤ 9223372036854775807) ∧
      ∃ violation, (Reply.readFrom .closed ⟨[], integerFrame beyond⟩).1 =
        .error (.protocol violation)) ∧
    (¬ ∃ value : Int, Decimal.Writes lines value ∧
        -9223372036854775808 ≤ value ∧ value ≤ 9223372036854775807) ∧
      (Reply.readFrom .silent ⟨[], integerFrame lines⟩).1 = .ok (.integer 5) := by
  intro beyond lines
  have tooLarge : ¬ ∃ value : Int, Decimal.Writes beyond value ∧
      -9223372036854775808 ≤ value ∧ value ≤ 9223372036854775807 := by
    rintro ⟨value, written, -, high⟩
    rw [written.unique (Decimal.writes_ofNat 9223372036854775808)] at high
    exact absurd high (by decide)
  have oneLine : ¬ ∃ front back, ∃ value : Int64, beyond = front ++ crlf ++ back ∧
      Decimal.Writes front value.toInt := by
    rintro ⟨front, back, value, split, -⟩
    have feed := lf_mem_of_crlf front back
    rw [← split] at feed
    exact (Decimal.writes_ofNat 9223372036854775808).lf_notMem feed
  obtain ⟨printed, bytes, -, back, -⟩ := one_integer_grammar.2 Int64.minValue
  obtain ⟨-, -, refused⟩ := (one_integer_grammar.1 .closed [] beyond).2 tooLarge
  obtain ⟨-, taken, -⟩ := (one_integer_grammar.1 .silent [] lines).2 Decimal.not_writes_of_crlf
  exact ⟨⟨printed, bytes, back⟩, ⟨tooLarge, refused oneLine⟩, Decimal.not_writes_of_crlf,
    (taken _ _ 5 rfl (Decimal.writes_ofNat 5)).1⟩

/-- Texts that are no numerals are not all refused: an integer reply ends with its line, and what
looks like the rest of its text is left for the next reply. -/
theorem not_refuses_all_but_numerals :
    ¬∀ (ending : Ending) (line text : Bytes),
      (¬ ∃ value : Int, Decimal.Writes text value ∧
          -9223372036854775808 ≤ value ∧ value ≤ 9223372036854775807) →
        ∃ cause, (Reply.readFrom ending ⟨line, integerFrame text⟩).1 = .error cause := by
  intro always
  let text := Decimal.ofNat 5 ++ crlf ++ []
  have numeral : Decimal.Writes (Decimal.ofNat 5) (5 : Int64).toInt := Decimal.writes_ofNat 5
  have taken : Reply.read .closed (integerFrame text) = (.ok (.integer 5), crlf) :=
    Reply.read_integer_of_writes numeral []
  obtain ⟨cause, refused⟩ := always .closed [] text Decimal.not_writes_of_crlf
  have read := (Reply.read_unread .closed ⟨[], integerFrame text⟩).symm.trans taken
  cases refused.symm.trans (Prod.mk.inj read).1

end RespClient
