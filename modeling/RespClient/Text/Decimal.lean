import RespClient.Bytes

/-!
# Decimal integers

Integers on the wire are decimal text in ASCII. A printed integer has no leading zeros and a minus
sign only if it is negative. Reading is more generous: one sign may stand in front, zeros may lead,
at least one digit is needed, nothing else may occur, and the value has to fit the type that is
read.

What is printed reads back (`int64?_ofInt`), and an integer is read from exactly the numerals that
write it (`signed?_eq_some_iff`, and `int64?_eq_some_iff` for 64 bits).
-/

namespace RespClient.Decimal

/-- The ASCII digit of a number below ten. -/
def digit (value : Nat) : UInt8 := UInt8.ofNat (0x30 + value)

/-- The value of an ASCII digit. -/
def digitValue? (byte : UInt8) : Option Nat :=
  if 0x30 ≤ byte ∧ byte ≤ 0x39 then some (byte.toNat - 0x30) else none

/-- The digits of a natural number, the most significant first. -/
def ofNat (value : Nat) : Bytes :=
  if value < 10 then [digit value] else ofNat (value / 10) ++ [digit (value % 10)]

/-- The decimal text of an integer. -/
def ofInt (value : Int) : Bytes :=
  if value < 0 then 0x2D :: ofNat value.natAbs else ofNat value.natAbs

/-- Reads further digits behind those that gave `value`. -/
def digitsFrom? (value : Nat) : Bytes → Option Nat
  | [] => some value
  | byte :: rest => do digitsFrom? (10 * value + (← digitValue? byte)) rest

/-- The number written by one or more digits. -/
def digits? : Bytes → Option Nat
  | [] => none
  | byte :: rest => digitsFrom? 0 (byte :: rest)

/-- The integer written by an optional sign and one or more digits. -/
def signed? : Bytes → Option Int
  | 0x2B :: rest => (digits? rest).map Int.ofNat
  | 0x2D :: rest => (digits? rest).map fun value => -Int.ofNat value
  | bytes => (digits? bytes).map Int.ofNat

/-- The number written by an optional plus sign and one or more digits. -/
def unsigned? : Bytes → Option Nat
  | 0x2B :: rest => digits? rest
  | bytes => digits? bytes

/-- Whether an integer fits 64 bits with a sign. -/
def fitsInt64 (value : Int) : Bool :=
  Int64.minValue.toInt ≤ value && value ≤ Int64.maxValue.toInt

/-- The 64-bit integer written by a byte string. -/
def int64? (bytes : Bytes) : Option Int64 := do
  let value ← signed? bytes
  if fitsInt64 value then some (Int64.ofInt value) else none

/-- The number below `2 ^ bits` written by a byte string. -/
def word? (bits : Nat) (bytes : Bytes) : Option Nat := do
  let value ← unsigned? bytes
  if value < 1 <<< bits then some value else none

/-! ## Reading what is printed -/

theorem digitValue?_digit {value : Nat} (small : value < 10) :
    digitValue? (digit value) = some value := by
  rcases value with _ | _ | _ | _ | _ | _ | _ | _ | _ | _ | value
  all_goals first | rfl | omega

/-- Digits are read one after the other. -/
theorem digitsFrom?_append (value : Nat) (front back : Bytes) :
    digitsFrom? value (front ++ back) =
      (digitsFrom? value front).bind fun read => digitsFrom? read back := by
  induction front generalizing value with
  | nil => rfl
  | cons byte front step =>
    rw [List.cons_append, digitsFrom?, digitsFrom?]
    cases digitValue? byte with
    | none => rfl
    | some more => exact step _

theorem digitsFrom?_ofNat (value : Nat) : digitsFrom? 0 (ofNat value) = some value := by
  induction value using ofNat.induct with
  | case1 value small =>
    rw [ofNat, if_pos small]
    simp [digitsFrom?, digitValue?_digit small]
  | case2 value large step =>
    rw [ofNat, if_neg large, digitsFrom?_append, step]
    simp only [digitsFrom?, digitValue?_digit (Nat.mod_lt value (by decide)),
      Option.some.injEq, bind, Option.bind]
    omega

/-- A printed number has at least one digit. -/
theorem ofNat_ne_nil (value : Nat) : ofNat value ≠ [] := by
  rw [ofNat]
  split <;> simp

theorem digits?_ofNat (value : Nat) : digits? (ofNat value) = some value := by
  have read := digitsFrom?_ofNat value
  cases text : ofNat value with
  | nil => exact absurd text (ofNat_ne_nil value)
  | cons byte rest => rw [text] at read; exact read

/-- Different numbers are printed differently. -/
theorem ofNat_injective {first second : Nat} (same : ofNat first = ofNat second) :
    first = second := by
  have read := digits?_ofNat first
  rw [same, digits?_ofNat] at read
  exact (Option.some.inj read).symm

/-- A printed number starts with a byte beyond the signs. -/
theorem ofNat_head (value : Nat) : ∃ byte rest, ofNat value = byte :: rest ∧ 0x30 ≤ byte := by
  induction value using ofNat.induct with
  | case1 value small =>
    refine ⟨digit value, [], by rw [ofNat, if_pos small], ?_⟩
    rcases value with _ | _ | _ | _ | _ | _ | _ | _ | _ | _ | value
    all_goals first | decide | omega
  | case2 value large step =>
    obtain ⟨byte, rest, text, digit⟩ := step
    refine ⟨byte, rest ++ [Decimal.digit (value % 10)], ?_, digit⟩
    rw [ofNat, if_neg large, text, List.cons_append]

/-- A printed integer reads back. -/
theorem signed?_ofInt (value : Int) : signed? (ofInt value) = some value := by
  unfold ofInt
  split
  · next negative =>
    simp only [signed?, digits?_ofNat, Option.map_some, Option.some.injEq, Int.ofNat_eq_natCast]
    omega
  · next natural =>
    obtain ⟨byte, rest, text, digit⟩ := ofNat_head value.natAbs
    have read := digits?_ofNat value.natAbs
    rw [text] at read ⊢
    have noPlus : byte ≠ 0x2B := by rintro rfl; exact absurd digit (by decide)
    have noMinus : byte ≠ 0x2D := by rintro rfl; exact absurd digit (by decide)
    have plain : signed? (byte :: rest) = (digits? (byte :: rest)).map Int.ofNat := by
      unfold signed?
      split <;> simp_all
    rw [plain, read, Option.map_some, Option.some.injEq, Int.ofNat_eq_natCast]
    omega

theorem fitsInt64_toInt (value : Int64) : fitsInt64 value.toInt = true := by
  simp only [fitsInt64, Bool.and_eq_true, decide_eq_true_eq]
  exact ⟨value.minValue_le_toInt, value.toInt_le⟩

/-- An integer that fits 64 bits is what is made of it. -/
theorem toInt_ofInt_of_fits {value : Int} (fits : fitsInt64 value = true) :
    (Int64.ofInt value).toInt = value := by
  simp only [fitsInt64, Bool.and_eq_true, decide_eq_true_eq] at fits
  obtain ⟨low, high⟩ := fits
  exact Int64.toInt_ofInt_of_le low (Int.lt_of_le_sub_one high)

theorem int64?_ofInt (value : Int64) : int64? (ofInt value.toInt) = some value := by
  simp [int64?, signed?_ofInt, fitsInt64_toInt]

/-! ## Numerals -/

/-- Whether a byte is an ASCII digit. -/
def IsDigit (byte : UInt8) : Prop := 0x30 ≤ byte ∧ byte ≤ 0x39

/-- The number that further digits make of `value`. -/
def valueFrom (value : Nat) (digits : Bytes) : Nat :=
  digits.foldl (fun value byte => 10 * value + (byte.toNat - 0x30)) value

/-- The numerals: an integer is written by one or more digits, with at most one sign in front. -/
inductive Writes : Bytes → Int → Prop where
  | plain {digits : Bytes} (nonempty : digits ≠ []) (decimal : ∀ byte ∈ digits, IsDigit byte) :
    Writes digits (valueFrom 0 digits)
  | plus {digits : Bytes} (nonempty : digits ≠ []) (decimal : ∀ byte ∈ digits, IsDigit byte) :
    Writes (0x2B :: digits) (valueFrom 0 digits)
  | minus {digits : Bytes} (nonempty : digits ≠ []) (decimal : ∀ byte ∈ digits, IsDigit byte) :
    Writes (0x2D :: digits) (-valueFrom 0 digits)

/-- Digits are read if they are digits, and then give their value. -/
theorem digitsFrom?_eq_some_iff {value result : Nat} {digits : Bytes} :
    digitsFrom? value digits = some result ↔
      (∀ byte ∈ digits, IsDigit byte) ∧ result = valueFrom value digits := by
  induction digits generalizing value with
  | nil => simp [digitsFrom?, valueFrom, eq_comm]
  | cons byte rest step =>
    by_cases decimal : IsDigit byte
    · have read : digitValue? byte = some (byte.toNat - 0x30) := if_pos decimal
      simp only [digitsFrom?, read, Option.bind_eq_bind, Option.bind_some, step, List.mem_cons,
        forall_eq_or_imp, decimal, true_and, valueFrom, List.foldl_cons]
    · have unread : digitValue? byte = none := if_neg decimal
      simp [digitsFrom?, unread, decimal]

/-- A number is read from one or more digits. -/
theorem digits?_eq_some_iff {result : Nat} {digits : Bytes} :
    digits? digits = some result ↔
      digits ≠ [] ∧ (∀ byte ∈ digits, IsDigit byte) ∧ result = valueFrom 0 digits := by
  cases digits with
  | nil => simp [digits?]
  | cons byte rest => simp only [digits?, digitsFrom?_eq_some_iff, ne_eq, reduceCtorEq,
      not_false_eq_true, true_and]

/-- Reading gives an integer exactly for the numerals that write it. -/
theorem signed?_eq_some_iff {text : Bytes} {result : Int} :
    signed? text = some result ↔ Writes text result := by
  constructor
  · intro read
    unfold signed? at read
    split at read
    all_goals
      obtain ⟨value, digits, rfl⟩ := Option.map_eq_some_iff.1 read
      obtain ⟨nonempty, decimal, rfl⟩ := digits?_eq_some_iff.1 digits
    · exact .plus nonempty decimal
    · exact .minus nonempty decimal
    · exact .plain nonempty decimal
  · intro written
    cases written with
    | plus nonempty decimal =>
      simp [signed?, digits?_eq_some_iff.2 ⟨nonempty, decimal, rfl⟩]
    | minus nonempty decimal =>
      simp [signed?, digits?_eq_some_iff.2 ⟨nonempty, decimal, rfl⟩]
    | plain nonempty decimal =>
      have read := digits?_eq_some_iff.2 ⟨nonempty, decimal, rfl⟩
      unfold signed?
      split
      · exact absurd (decimal 0x2B (List.mem_cons_self ..)) (by unfold IsDigit; decide)
      · exact absurd (decimal 0x2D (List.mem_cons_self ..)) (by unfold IsDigit; decide)
      · simp [read]

/-- A numeral writes one integer. -/
theorem Writes.unique {text : Bytes} {first second : Int} (one : Writes text first)
    (other : Writes text second) : first = second := by
  have read := signed?_eq_some_iff.2 one
  rw [signed?_eq_some_iff.2 other] at read
  exact (Option.some.inj read).symm

theorem not_isDigit_lf : ¬ IsDigit lf := by
  unfold IsDigit
  decide

/-- A numeral stays on one line. -/
theorem Writes.lf_notMem {text : Bytes} {value : Int} (written : Writes text value) :
    lf ∉ text := by
  cases written with
  | plain _ decimal => exact fun found => not_isDigit_lf (decimal lf found)
  | plus _ decimal | minus _ decimal =>
    intro found
    rcases List.mem_cons.1 found with sign | found
    · exact absurd sign (by decide)
    · exact not_isDigit_lf (decimal lf found)

/-- A printed number is a numeral. -/
theorem writes_ofNat (value : Nat) : Writes (ofNat value) value := by
  have read := signed?_ofInt value
  unfold ofInt at read
  rw [if_neg (by omega), Int.natAbs_natCast] at read
  exact signed?_eq_some_iff.1 read

/-- Reading gives a 64-bit integer exactly for the numerals that write it. -/
theorem int64?_eq_some_iff {text : Bytes} {value : Int64} :
    int64? text = some value ↔ Writes text value.toInt := by
  unfold int64?
  simp only [Option.bind_eq_bind, Option.bind_eq_some_iff, Option.ite_none_right_eq_some,
    Option.some.injEq, signed?_eq_some_iff]
  constructor
  · rintro ⟨integer, written, fits, rfl⟩
    rwa [toInt_ofInt_of_fits fits]
  · intro written
    exact ⟨value.toInt, written, fitsInt64_toInt value, Int64.ofInt_toInt value⟩

/-- The numerals of a natural number that fits are read as that number. -/
theorem Writes.int64?_natCast {text : Bytes} {value : Nat} (written : Writes text value)
    (small : value ≤ Int64.maxValue.toInt) :
    ∃ read : Int64, int64? text = some read ∧ read.toInt = value := by
  have fits : fitsInt64 value = true := by
    simp only [fitsInt64, Bool.and_eq_true, decide_eq_true_eq]
    exact ⟨Int.le_trans (by decide) (Int.natCast_nonneg value), small⟩
  have same : (Int64.ofInt value).toInt = value := toInt_ofInt_of_fits fits
  exact ⟨Int64.ofInt value, int64?_eq_some_iff.2 (by rwa [same]), same⟩

end RespClient.Decimal
