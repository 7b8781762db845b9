import Mathlib.Data.List.Range
import RespClient.Bitmap

/-!
# Bitmaps decode exactly

`Bitmap.bit` says whether a bit of a byte string is set, where the bits are numbered through all its
bytes. It is told without masks and without words, and `Bitmap.numbers` lists the numbers of the set
bits. The indices that `Bitmap.setBits` computes are these numbers, as long as all of them fit 64 bits
(`toNat_setBits`). Their order, what they contain, and how they are put together are read off the
numbers.

Setting a bit changes this bit alone (`bit_put`), and a byte string is determined by its length and
its bits (`eq_of_bit_eq`). So the indices make the string again (`foldl_put_setBits`).
-/

namespace RespClient.Bitmap

/-! ## Bits of a byte -/

/-- A mask has the one bit of its offset. -/
theorem toBitVec_mask {offset : Nat} (inByte : offset < 8) :
    (mask offset).toBitVec = BitVec.twoPow 8 (7 - offset) := by
  decide +revert

theorem getMsbD_mask {offset other : Nat} (inByte : offset < 8) (inByte' : other < 8) :
    (mask offset).toBitVec.getMsbD other = decide (other = offset) := by
  have inWord : 7 - offset < 8 := by omega
  have sameBit : 7 - offset = 8 - 1 - other ↔ other = offset := by omega
  rw [toBitVec_mask inByte, BitVec.getMsbD, BitVec.getLsbD_twoPow, decide_eq_true inByte',
    decide_eq_true inWord, Bool.true_and, Bool.true_and, decide_eq_decide]
  exact sameBit

/-- A bit is found set through its mask. -/
theorem isSet_eq_getMsbD (byte : UInt8) {offset : Nat} (inByte : offset < 8) :
    isSet byte offset = byte.toBitVec.getMsbD offset := by
  have lowest : 8 - 1 - offset = 7 - offset := by omega
  have present : BitVec.twoPow 8 (7 - offset) ≠ 0#8 := by decide +revert
  rw [isSet, BitVec.getMsbD, decide_eq_true inByte, Bool.true_and, lowest, Bool.eq_iff_iff,
    bne_iff_ne, ne_eq, ← UInt8.toBitVec_inj, UInt8.toBitVec_and, toBitVec_mask inByte,
    BitVec.and_twoPow]
  split
  · next set => simpa [set] using present
  · next clear => simp [clear]

/-- Setting a bit of a byte changes this bit alone. -/
theorem getMsbD_or_mask (byte : UInt8) {offset other : Nat} (inByte : offset < 8)
    (inByte' : other < 8) :
    (byte ||| mask offset).toBitVec.getMsbD other =
      (byte.toBitVec.getMsbD other || decide (other = offset)) := by
  rw [UInt8.toBitVec_or, BitVec.getMsbD_or, getMsbD_mask inByte inByte']

/-! ## Bits of a byte string -/

/-- Whether a bit of a byte string is set; bit `number` is the one `number % 8` places below the most
significant of the byte at `number / 8`. Behind the end no bit is set. -/
def bit (bytes : Bytes) (number : Nat) : Bool :=
  (bytes[number / 8]?).any fun byte => byte.toBitVec.getMsbD (number % 8)

/-- The numbers of the set bits, ascending. -/
def numbers (bytes : Bytes) : List Nat := (List.range (8 * bytes.length)).filter (bit bytes)

theorem bit_eq_true_iff {bytes : Bytes} {number : Nat} :
    bit bytes number = true ↔
      ∃ byte, bytes[number / 8]? = some byte ∧ byte.toBitVec.getMsbD (number % 8) = true := by
  rw [bit, Option.any_eq_true]

/-- Set bits are within the byte string. -/
theorem lt_of_bit {bytes : Bytes} {number : Nat} (set : bit bytes number = true) :
    number < 8 * bytes.length := by
  obtain ⟨byte, held, -⟩ := bit_eq_true_iff.1 set
  obtain ⟨inside, -⟩ := List.getElem?_eq_some_iff.1 held
  omega

theorem mem_numbers_iff {bytes : Bytes} {number : Nat} :
    number ∈ numbers bytes ↔ bit bytes number = true := by
  rw [numbers, List.mem_filter, List.mem_range]
  exact ⟨And.right, fun set => ⟨lt_of_bit set, set⟩⟩

theorem pairwise_numbers (bytes : Bytes) : (numbers bytes).Pairwise (· < ·) :=
  List.pairwise_lt_range.filter _

/-- The first eight bits are those of the first byte. -/
theorem bit_cons_of_lt (byte : UInt8) (rest : Bytes) {number : Nat} (first : number < 8) :
    bit (byte :: rest) number = byte.toBitVec.getMsbD number := by
  rw [bit, Nat.div_eq_of_lt first, Nat.mod_eq_of_lt first, List.getElem?_cons_zero]
  rfl

/-- The further bits are those of the further bytes. -/
theorem bit_cons_add (byte : UInt8) (rest : Bytes) (number : Nat) :
    bit (byte :: rest) (8 + number) = bit rest number := by
  have position : (8 + number) / 8 = number / 8 + 1 := by omega
  rw [bit, position, List.getElem?_cons_succ, Nat.add_mod_left, bit]

theorem numbers_cons (byte : UInt8) (rest : Bytes) :
    numbers (byte :: rest) =
      (List.range 8).filter (byte.toBitVec.getMsbD ·) ++ (numbers rest).map (8 + ·) := by
  have size : 8 * (byte :: rest).length = 8 + 8 * rest.length := by
    rw [List.length_cons]
    omega
  have first : (List.range 8).filter (bit (byte :: rest)) =
      (List.range 8).filter (byte.toBitVec.getMsbD ·) :=
    List.filter_congr fun number inFirst => bit_cons_of_lt byte rest (List.mem_range.1 inFirst)
  have further : bit (byte :: rest) ∘ (8 + ·) = bit rest := funext (bit_cons_add byte rest)
  rw [numbers, size, List.range_add, List.filter_append, List.filter_map, first, further, numbers]

theorem numbers_append (front back : Bytes) :
    numbers (front ++ back) = numbers front ++ (numbers back).map (8 * front.length + ·) := by
  induction front with
  | nil => simp [numbers]
  | cons byte rest step =>
    have further : (fun number => 8 + (8 * rest.length + number)) =
        (8 * (byte :: rest).length + ·) := by
      funext number
      rw [List.length_cons]
      omega
    rw [List.cons_append, numbers_cons, step, numbers_cons, List.map_append, List.map_map,
      List.append_assoc, Function.comp_def, further]

/-! ## Indices in 64 bits -/

/-- Within `2 ^ 61` bytes an index is computed without overflow, and so is what it is computed from. -/
theorem toNat_index {position offset : Nat} (inReach : position < 1 <<< 61) (inByte : offset < 8) :
    (UInt64.ofNat position).toNat = position ∧
      (UInt64.ofNat position * 8).toNat = 8 * position ∧
      (index position offset).toNat = 8 * position + offset := by
  have reach : (1 : Nat) <<< 61 = 2305843009213693952 := rfl
  rw [reach] at inReach
  simp only [index, UInt64.toNat_add, UInt64.toNat_mul, UInt64.toNat_ofNat', UInt64.reduceToNat]
  omega

/-- The set bits of one byte. -/
theorem toNat_setBitsOf {position : Nat} (byte : UInt8) (inReach : position < 1 <<< 61) :
    (setBitsOf position byte).map UInt64.toNat =
      ((List.range 8).filter (byte.toBitVec.getMsbD ·)).map (8 * position + ·) := by
  have through : (List.range 8).filter (isSet byte) =
      (List.range 8).filter (byte.toBitVec.getMsbD ·) :=
    List.filter_congr fun offset inByte => isSet_eq_getMsbD byte (List.mem_range.1 inByte)
  unfold setBitsOf
  split
  · next zero =>
    -- A byte that is skipped has no set bits.
    rw [zero]
    rfl
  · rw [through, List.map_map]
    refine List.map_congr_left fun offset found => ?_
    have inByte := List.mem_range.1 (List.mem_of_mem_filter found)
    exact (toNat_index inReach inByte).2.2

theorem toNat_setBitsFrom {position : Nat} {bytes : Bytes}
    (inReach : position + bytes.length ≤ 1 <<< 61) :
    (setBitsFrom position bytes).map UInt64.toNat =
      (numbers bytes).map (8 * position + ·) := by
  induction bytes generalizing position with
  | nil => rfl
  | cons byte rest step =>
    rw [List.length_cons] at inReach
    have further : (fun number => 8 * (position + 1) + number) =
        fun number => 8 * position + (8 + number) := by
      funext number
      omega
    rw [setBitsFrom, List.map_append, toNat_setBitsOf byte (by omega), step (by omega), numbers_cons,
      List.map_append, List.map_map, Function.comp_def, further]

/-- The indices of the set bits are their numbers. -/
theorem toNat_setBits {bytes : Bytes} (inReach : bytes.length < 1 <<< 61) :
    (setBits bytes).map UInt64.toNat = numbers bytes := by
  rw [setBits, toNat_setBitsFrom (by omega)]
  simp

theorem mem_setBits_iff {bytes : Bytes} (inReach : bytes.length < 1 <<< 61) {index : UInt64} :
    index ∈ setBits bytes ↔ bit bytes index.toNat = true := by
  rw [← mem_numbers_iff, ← toNat_setBits inReach, List.mem_map_of_injective]
  exact fun _ _ => UInt64.toNat_inj.1

theorem toNat_locate (index : UInt64) :
    (locate index).1.toNat = index.toNat / 8 ∧ (locate index).2.toNat = index.toNat % 8 := by
  simp only [locate, UInt64.toNat_div, UInt64.toNat_toUInt8, UInt64.toNat_mod, UInt64.reduceToNat,
    true_and]
  omega

/-! ## Setting bits -/

/-- The byte string with one bit set; bits behind the end are left out. -/
def put (bytes : Bytes) (index : UInt64) : Bytes :=
  let (position, offset) := locate index
  bytes.modify position.toNat (· ||| mask offset.toNat)

theorem length_put (bytes : Bytes) (index : UInt64) : (put bytes index).length = bytes.length :=
  List.length_modify ..

/-- Setting a bit changes this bit alone. -/
theorem bit_put (bytes : Bytes) (index : UInt64) (number : Nat) :
    bit (put bytes index) number =
      (bit bytes number || decide (number = index.toNat ∧ number < 8 * bytes.length)) := by
  obtain ⟨position, offset⟩ := toNat_locate index
  simp only [bit, put, position, offset, List.getElem?_modify]
  cases held : bytes[number / 8]? with
  | none =>
    have behind := List.getElem?_eq_none_iff.1 held
    have outside : ¬ number < 8 * bytes.length := by omega
    simp [outside]
  | some byte =>
    obtain ⟨within, -⟩ := List.getElem?_eq_some_iff.1 held
    have inside : number < 8 * bytes.length := by omega
    by_cases sameByte : index.toNat / 8 = number / 8
    · have sameBit : number % 8 = index.toNat % 8 ↔ number = index.toNat := by omega
      simp only [sameByte, inside, Option.map_eq_map, Option.map_some, Option.any_some, if_true,
        getMsbD_or_mask byte (Nat.mod_lt index.toNat (by decide)) (Nat.mod_lt number (by decide)),
        sameBit, and_true]
    · have otherBit : number ≠ index.toNat := by
        rintro rfl
        exact sameByte rfl
      simp [sameByte, otherBit]

/-- Setting bits changes these bits alone. -/
theorem bit_foldl_put (bytes : Bytes) (indices : List UInt64) (number : Nat) :
    bit (indices.foldl put bytes) number = true ↔
      bit bytes number = true ∨ (number ∈ indices.map UInt64.toNat ∧ number < 8 * bytes.length) := by
  induction indices generalizing bytes with
  | nil => simp
  | cons index others step =>
    rw [List.foldl_cons, step, bit_put, length_put, List.map_cons, List.mem_cons, Bool.or_eq_true,
      decide_eq_true_eq]
    tauto

theorem length_foldl_put (bytes : Bytes) (indices : List UInt64) :
    (indices.foldl put bytes).length = bytes.length := by
  induction indices generalizing bytes with
  | nil => rfl
  | cons index others step => rw [List.foldl_cons, step, length_put]

/-- A byte string is determined by its length and its bits. -/
theorem eq_of_bit_eq {first second : Bytes} (length : first.length = second.length)
    (bits : ∀ number, bit first number = bit second number) : first = second := by
  refine List.ext_getElem length fun position inFirst inSecond => ?_
  refine UInt8.toBitVec_inj.1 (BitVec.eq_of_getMsbD_eq fun offset inByte => ?_)
  have same := bits (8 * position + offset)
  have place : (8 * position + offset) / 8 = position := by omega
  have below : (8 * position + offset) % 8 = offset := by omega
  rwa [bit, bit, place, below, List.getElem?_eq_getElem inFirst, List.getElem?_eq_getElem inSecond]
    at same

/-- In a string of zeros no bit is set. -/
theorem bit_replicate_zero (length number : Nat) :
    bit (List.replicate length 0) number = false := by
  rw [bit, List.getElem?_replicate]
  split <;> simp

/-- The set bits, set in a string of zeros, make the string again. -/
theorem foldl_put_setBits {bytes : Bytes} (inReach : bytes.length < 1 <<< 61) :
    (setBits bytes).foldl put (List.replicate bytes.length 0) = bytes := by
  refine eq_of_bit_eq ?_ fun number => ?_
  · rw [length_foldl_put, List.length_replicate]
  · rw [Bool.eq_iff_iff, bit_foldl_put, bit_replicate_zero, toNat_setBits inReach, mem_numbers_iff,
      List.length_replicate]
    exact ⟨fun set => set.elim nofun And.left, fun set => Or.inr ⟨set, lt_of_bit set⟩⟩

/-! ## Main statement -/

/-- **Bitmaps decode exactly.** Of fewer than `2 ^ 61` bytes the indices of the set bits are listed
in strictly ascending order; an index is listed if and only if the byte where it is located is there
and has the bit at that offset below its most significant one; and no index is computed with an
overflow. Setting the listed bits in as many zero bytes makes the bytes again. If the bytes are put
together from two parts, the list is that of the first part, and behind it that of the second with
the number of bits of the first added to each index. -/
theorem decodes_exactly (bytes : Bytes) (inReach : bytes.length < 1 <<< 61) :
    (setBits bytes).Pairwise (· < ·) ∧
      (∀ number : UInt64, number ∈ setBits bytes ↔
        ∃ byte, bytes[(locate number).1.toNat]? = some byte ∧
          byte.toBitVec.getMsbD (locate number).2.toNat = true) ∧
      (∀ position offset, position < bytes.length → offset < 8 →
        (UInt64.ofNat position).toNat = position ∧
          (UInt64.ofNat position * 8).toNat = 8 * position ∧
          (index position offset).toNat = 8 * position + offset) ∧
      (setBits bytes).foldl put (List.replicate bytes.length 0) = bytes ∧
      ∀ front back, bytes = front ++ back →
        (setBits bytes).map UInt64.toNat =
          (setBits front).map UInt64.toNat ++
            (setBits back).map fun number => 8 * front.length + number.toNat := by
  refine ⟨?_, fun number => ?_, fun position offset inside inByte => ?_, foldl_put_setBits inReach,
    ?_⟩
  · have ascending := pairwise_numbers bytes
    rw [← toNat_setBits inReach, List.pairwise_map] at ascending
    exact ascending.imp UInt64.lt_iff_toNat_lt.2
  · rw [mem_setBits_iff inReach, bit_eq_true_iff, (toNat_locate number).1, (toNat_locate number).2]
  · exact toNat_index (Nat.lt_trans inside inReach) inByte
  · rintro front back rfl
    have parts := inReach
    rw [List.length_append] at parts
    have inFront : front.length < 1 <<< 61 := by omega
    have inBack : back.length < 1 <<< 61 := by omega
    rw [toNat_setBits inReach, numbers_append, toNat_setBits inFront, ← toNat_setBits inBack,
      List.map_map]
    rfl

/-- A bitmap with a zero byte between its set bits. -/
theorem decodes_exactly_instance :
    let bytes : Bytes := [0b10100000, 0, 0b00000011]
    bytes.length < 1 <<< 61 ∧ setBits bytes = [0, 2, 22, 23] ∧
      (23 ∈ setBits bytes ↔ ∃ byte, bytes[(locate 23).1.toNat]? = some byte ∧
        byte.toBitVec.getMsbD (locate 23).2.toNat = true) ∧
      [0, 2, 22, 23].foldl put [0, 0, 0] = bytes ∧
      (setBits bytes).map UInt64.toNat = (setBits [0b10100000]).map UInt64.toNat ++
        (setBits [0, 0b00000011]).map fun number => 8 + number.toNat := by
  intro bytes
  have inReach : bytes.length < 1 <<< 61 := by decide
  obtain ⟨-, listed, -, restored, joined⟩ := decodes_exactly bytes inReach
  exact ⟨inReach, rfl, listed 23, restored, joined [0b10100000] [0, 0b00000011] rfl⟩

end RespClient.Bitmap
