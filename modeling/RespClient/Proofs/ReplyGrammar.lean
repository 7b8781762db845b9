import Mathlib.Data.List.TakeWhile
import RespClient.Wire.Grammar

/-!
# Reading accepts the grammar of replies

A reply is read from exactly the frames that the grammar gives it. Each function of the reader has
one statement that says which bytes it accepts and what it leaves: `readLine_eq_ok_iff`,
`readContent_eq_ok_iff`, `readBulk_eq_ok_iff`, `readHeader_eq_ok_iff`.

From these follow the two directions for whole replies. Reading is sound (`Reply.derives_of_read`) by
induction on the number of bytes, since the elements of an array lie behind its line. It is complete
(`Derives.read`) by induction on the derivation, with any bytes behind the frame.
-/

namespace RespClient

/-! ## Lines and contents -/

/-- Bytes without a line feed, and a line feed behind them, are what is scanned for a line. -/
theorem scan_line {front : Bytes} (oneLine : lf ∉ front) (rest : Bytes) :
    (front ++ lf :: rest).takeWhile (· ≠ lf) = front ∧
      (front ++ lf :: rest).dropWhile (· ≠ lf) = lf :: rest := by
  have before : ∀ byte ∈ front, decide (byte ≠ lf) = true := by
    intro byte inFront
    exact decide_eq_true (fun same => oneLine (same ▸ inFront))
  rw [List.takeWhile_append_of_pos before, List.dropWhile_append_of_pos before]
  simp

/-- A stream with a line feed is the bytes in front of the first, that line feed, and the rest. -/
theorem eq_of_scan_line {bytes rest : Bytes} {last : UInt8}
    (scanned : bytes.dropWhile (· ≠ lf) = last :: rest) :
    lf ∉ bytes.takeWhile (· ≠ lf) ∧ bytes = bytes.takeWhile (· ≠ lf) ++ lf :: rest := by
  have stopped := List.head?_dropWhile_not (fun byte => decide (byte ≠ lf)) bytes
  rw [scanned] at stopped
  have isFeed : last = lf := by simpa using stopped
  have whole : bytes.takeWhile (· ≠ lf) ++ bytes.dropWhile (· ≠ lf) = bytes :=
    List.takeWhile_append_dropWhile
  rw [scanned, isFeed] at whole
  exact ⟨fun found => by simpa using List.mem_takeWhile_imp found, whole.symm⟩

/-- A line is read if its text has no line feed and a line end behind it. What the buffer held
before is gone. -/
theorem readLine_eq_ok_iff {ending : Ending} {input input' : Input} :
    readLine ending input = (.ok (), input') ↔
      lf ∉ input'.line ∧ input.unread = input'.line ++ crlf ++ input'.unread := by
  unfold readLine
  constructor
  · intro read
    split at read
    · cases read
    · next last rest scanned =>
      obtain ⟨oneLine, whole⟩ := eq_of_scan_line scanned
      dsimp only at read
      split at read
      · next ended =>
        obtain ⟨text, line⟩ := List.getLast?_eq_some_iff.1 ended
        rw [line, List.dropLast_concat] at read
        cases read
        rw [line] at oneLine whole
        refine ⟨fun found => oneLine (List.mem_append_left _ found), ?_⟩
        simpa only [crlf, List.append_assoc, List.cons_append, List.nil_append] using whole
      · cases read
  · rintro ⟨oneLine, whole⟩
    have split : input.unread = (input'.line ++ [cr]) ++ lf :: input'.unread := by
      simpa only [crlf, List.append_assoc, List.cons_append, List.nil_append] using whole
    have oneLine' : lf ∉ input'.line ++ [cr] := by
      simpa only [List.mem_append, List.mem_singleton, not_or] using ⟨oneLine, by decide⟩
    obtain ⟨taken, dropped⟩ := scan_line oneLine' input'.unread
    rw [split, dropped, taken]
    simp only [List.getLast?_concat, if_true, List.dropLast_concat]

/-- Content is read if it has the declared length and a line end behind it. -/
theorem readContent_eq_ok_iff {ending : Ending} {length : Nat} {bytes data rest : Bytes} :
    readContent ending length bytes = (.ok data, rest) ↔
      data.length = length ∧ bytes = data ++ crlf ++ rest := by
  unfold readContent
  dsimp only
  constructor
  · intro read
    split at read
    · cases read
    · next enough =>
      split at read
      · next ended =>
        cases read
        have long : length ≤ bytes.length := by
          rw [List.length_take] at enough
          omega
        have piece := List.take_append_drop length (bytes.take (length + crlf.length))
        rw [ended] at piece
        refine ⟨by simp only [List.length_take]; omega, ?_⟩
        rw [piece, List.take_append_drop]
      · cases read
  · rintro ⟨rfl, rfl⟩
    have long : (data ++ crlf).length = data.length + crlf.length := List.length_append
    rw [List.take_left' long, List.drop_left' long, if_neg (by omega),
      List.drop_left, List.take_left, if_pos rfl]

/-- A bulk string is read if it is declared absent, or has acceptable content. -/
theorem readBulk_eq_ok_iff {ending : Ending} {length : Int64} {bytes rest : Bytes}
    {reply : Reply} :
    readBulk ending length bytes = (.ok reply, rest) ↔
      (length.toInt < 0 ∧ reply = .nil ∧ bytes = rest) ∨
        ∃ data : Bytes, length.toInt = data.length ∧ data.length ≤ maxBulkLength ∧
          reply = .bulk data ∧ bytes = data ++ crlf ++ rest := by
  unfold readBulk
  simp only [Int64.lt_iff_toInt_lt, Int64.toInt_zero]
  constructor
  · intro read
    split at read
    · next negative =>
      cases read
      exact Or.inl ⟨negative, rfl, rfl⟩
    · next natural =>
      split at read
      · cases read
      · next small =>
        split at read
        · next data behind content =>
          cases read
          obtain ⟨long, whole⟩ := readContent_eq_ok_iff.1 content
          exact Or.inr ⟨data, by omega, by omega, rfl, whole⟩
        · cases read
  · rintro (⟨negative, rfl, rfl⟩ | ⟨data, declared, small, rfl, whole⟩)
    · rw [if_pos negative]
    · have long : data.length = length.toInt.toNat := by omega
      rw [if_neg (by omega), if_neg (by omega), readContent_eq_ok_iff.2 ⟨long, whole⟩]

/-! ## Headers -/

/-- The marker of a byte is the one that has that byte. -/
theorem Marker.ofByte?_eq_some_iff {byte : UInt8} {marker : Marker} :
    Marker.ofByte? byte = some marker ↔ marker.byte = byte := by
  constructor
  · intro found
    simpa using List.find?_some found
  · rintro rfl
    cases marker <;> rfl

/-- No marker is a line feed. -/
theorem Marker.byte_ne_lf (marker : Marker) : lf ≠ marker.byte := by
  cases marker <;> decide

/-- A line with a marker is read, and then what it declares. -/
theorem readHeader_line {ending : Ending} {line text : Bytes} (marker : Marker)
    (oneLine : lf ∉ text) (behind : Bytes) :
    readHeader ending ⟨line, marker.byte :: (text ++ crlf ++ behind)⟩ =
      ((readDeclared ending marker text behind).1,
        ⟨marker.byte :: text, (readDeclared ending marker text behind).2⟩) := by
  have read : readLine ending ⟨line, marker.byte :: (text ++ crlf ++ behind)⟩ =
      (.ok (), ⟨marker.byte :: text, behind⟩) := by
    refine readLine_eq_ok_iff.2 ⟨?_, rfl⟩
    rw [List.mem_cons, not_or]
    exact ⟨marker.byte_ne_lf, oneLine⟩
  have known : Marker.ofByte? marker.byte = some marker := Marker.ofByte?_eq_some_iff.2 rfl
  unfold readHeader
  rw [read]
  dsimp only
  rw [known]

/-- A header is read from a line with a marker, if what the line declares is read behind it. -/
theorem readHeader_eq_ok_iff {ending : Ending} {input input' : Input} {header : Header} :
    readHeader ending input = (.ok header, input') ↔
      ∃ marker text behind, lf ∉ text ∧
        input.unread = Marker.byte marker :: (text ++ crlf ++ behind) ∧
        readDeclared ending marker text behind = (.ok header, input'.unread) ∧
        input'.line = marker.byte :: text := by
  constructor
  · intro read
    unfold readHeader at read
    split at read
    · cases read
    · next after line =>
      obtain ⟨oneLine, whole⟩ := readLine_eq_ok_iff.1 line
      split at read
      · cases read
      · next first text held =>
        split at read
        · cases read
        · next marker known =>
          rw [held] at oneLine whole
          rw [List.mem_cons, not_or] at oneLine
          obtain rfl := Marker.ofByte?_eq_some_iff.1 known
          rcases declared : readDeclared ending marker text after.unread with ⟨result, rest⟩
          rw [declared] at read
          cases read
          exact ⟨marker, text, after.unread, oneLine.2, whole, declared, held⟩
  · rintro ⟨marker, text, behind, oneLine, whole, declared, held⟩
    rcases input with ⟨line, bytes⟩
    rcases input' with ⟨line', rest⟩
    dsimp only at whole declared held
    rw [whole, readHeader_line marker oneLine, declared, held]

/-- What a header says of the bytes that it was read from: they are a whole frame, or the line of an
array that is not too long. -/
def Header.DerivedFrom (front : Bytes) : Header → Prop
  | .complete reply => Derives front reply
  | .elements count =>
    ∃ text, front = Marker.array.byte :: (text ++ crlf) ∧ Decimal.Writes text count ∧
      count ≤ maxArrayLength

/-- What a line declares is derived from the line and the content behind it. -/
theorem Header.derivedFrom_of_readDeclared {ending : Ending} {marker : Marker}
    {text behind rest : Bytes} {header : Header} (oneLine : lf ∉ text)
    (declared : readDeclared ending marker text behind = (.ok header, rest)) :
    ∃ content, behind = content ++ rest ∧
      header.DerivedFrom (marker.byte :: (text ++ crlf ++ content)) := by
  cases marker with
  | status =>
    cases declared
    exact ⟨[], rfl, by rw [List.append_nil]; exact .status oneLine⟩
  | error =>
    cases declared
    exact ⟨[], rfl, by rw [List.append_nil]; exact .error oneLine⟩
  | integer =>
    simp only [readDeclared] at declared
    split at declared
    · cases declared
    · next value known =>
      cases declared
      have numeral := Decimal.int64?_eq_some_iff.1 known
      exact ⟨[], rfl, by rw [List.append_nil]; exact .integer numeral⟩
  | bulk =>
    simp only [readDeclared] at declared
    split at declared
    · cases declared
    · next value known =>
      have numeral := Decimal.int64?_eq_some_iff.1 known
      split at declared
      · next reply behind' bulk =>
        cases declared
        rcases readBulk_eq_ok_iff.1 bulk with
          ⟨negative, rfl, rfl⟩ | ⟨data, length, small, rfl, rfl⟩
        · exact ⟨[], rfl, by rw [List.append_nil]; exact .absentBulk numeral negative⟩
        · rw [length] at numeral
          exact ⟨data ++ crlf, rfl, .bulk numeral small⟩
      · cases declared
  | array =>
    simp only [readDeclared] at declared
    split at declared
    · cases declared
    · next value known =>
      have numeral := Decimal.int64?_eq_some_iff.1 known
      simp only [Int64.lt_iff_toInt_lt, Int64.toInt_zero] at declared
      split at declared
      · next negative =>
        cases declared
        exact ⟨[], rfl, by rw [List.append_nil]; exact .absentArray numeral negative⟩
      · next natural =>
        split at declared
        · cases declared
        · next small =>
          cases declared
          have count : value.toInt = value.toInt.toNat := by omega
          rw [count] at numeral
          exact ⟨[], rfl, text, by rw [List.append_nil], numeral, by omega⟩

/-- What a header says of the bytes in front of what it leaves is true. -/
theorem Header.derivedFrom_of_readHeader {ending : Ending} {input input' : Input}
    {header : Header} (read : readHeader ending input = (.ok header, input')) :
    ∃ front, input.unread = front ++ input'.unread ∧ header.DerivedFrom front := by
  obtain ⟨marker, text, behind, oneLine, whole, declared, -⟩ := readHeader_eq_ok_iff.1 read
  obtain ⟨content, rfl, derived⟩ := derivedFrom_of_readDeclared oneLine declared
  refine ⟨_, ?_, derived⟩
  rw [whole, List.cons_append, List.append_assoc (text ++ crlf)]

/-! ## What is read is derived -/

/-- Replies that are read in order are derived in order, if each single one is. -/
theorem Reply.derivesAll_of_readList {ending : Ending} {limit : Nat}
    (single : ∀ {bytes rest : Bytes} {reply : Reply}, bytes.length < limit →
      Reply.read ending bytes = (.ok reply, rest) →
        ∃ front, bytes = front ++ rest ∧ Derives front reply)
    {count : Nat} {bytes rest : Bytes} {items : List Reply} (short : bytes.length < limit)
    (read : Reply.readList ending count bytes = (.ok items, rest)) :
    items.length = count ∧ ∃ front, bytes = front ++ rest ∧ DerivesAll front items := by
  induction count generalizing bytes items with
  | zero =>
    rw [readList_zero] at read
    cases read
    exact ⟨rfl, [], rfl, .nil⟩
  | succ count more =>
    rw [readList_succ] at read
    split at read
    · cases read
    · next item behind first =>
      split at read
      · next others rest' list =>
        cases read
        obtain ⟨front, rfl, derived⟩ := single short first
        have shorter : behind.length < limit := by
          rw [List.length_append] at short
          omega
        obtain ⟨length, front', rfl, derived'⟩ := more shorter list
        refine ⟨by rw [List.length_cons, length], front ++ front', ?_, .cons derived derived'⟩
        rw [List.append_assoc]
      · cases read

/-- A reply that is read is derived from the bytes that reading it consumed. -/
theorem Reply.derives_of_read {ending : Ending} {bytes rest : Bytes} {reply : Reply}
    (read : Reply.read ending bytes = (.ok reply, rest)) :
    ∃ front, bytes = front ++ rest ∧ Derives front reply := by
  -- The elements of an array are shorter than the array by at least its line.
  induction length : bytes.length using Nat.strong_induction_on generalizing bytes rest reply with
  | _ limit shorter =>
    rw [read_eq] at read
    split at read
    · cases read
    · next declared behind header =>
      cases read
      exact Header.derivedFrom_of_readHeader header
    · next count behind header =>
      split at read
      · next items rest' list =>
        cases read
        have fewer := length_lt_of_readHeader header
        rw [length] at fewer
        obtain ⟨front, whole, text, rfl, numeral, small⟩ :=
          Header.derivedFrom_of_readHeader header
        obtain ⟨rfl, front', behindEq, derived⟩ :=
          derivesAll_of_readList (fun short one => shorter _ short one rfl) fewer list
        refine ⟨_, ?_, .array numeral small derived⟩
        rw [show bytes = _ from whole, behindEq]
        simp only [List.cons_append, List.append_assoc]
      · cases read

/-! ## What is derived is read -/

/-- A frame whose line declares a whole reply is read as that reply. -/
theorem Reply.read_of_complete {ending : Ending} {marker : Marker} {text behind rest : Bytes}
    {reply : Reply} (oneLine : lf ∉ text)
    (declared : readDeclared ending marker text behind = (.ok (.complete reply), rest)) :
    Reply.read ending (marker.byte :: (text ++ crlf ++ behind)) = (.ok reply, rest) := by
  rw [read_eq, readHeader_line marker oneLine, declared]

/-- A number of elements that is not too large declares as many. -/
theorem readDeclared_array {ending : Ending} {text : Bytes} {count : Nat}
    (numeral : Decimal.Writes text count) (small : count ≤ maxArrayLength) (behind : Bytes) :
    readDeclared ending .array text behind = (.ok (.elements count), behind) := by
  have fits : count ≤ Int64.maxValue.toInt := Int.le_trans (Int.ofNat_le.2 small) (by decide)
  obtain ⟨value, known, same⟩ := numeral.int64?_natCast fits
  simp only [readDeclared, known, Int64.lt_iff_toInt_lt, Int64.toInt_zero, same, Int.toNat_natCast]
  rw [if_neg (by omega), if_neg (by omega)]

/-- The line of an array is followed by its elements. -/
theorem Reply.read_of_elements {ending : Ending} {text behind : Bytes} {count : Nat}
    (numeral : Decimal.Writes text count) (small : count ≤ maxArrayLength) :
    Reply.read ending (Marker.array.byte :: (text ++ crlf ++ behind)) =
      match Reply.readList ending count behind with
      | (.ok items, rest) => (.ok (.array items), rest)
      | (.error cause, rest) => (.error cause, rest) := by
  have header := @readHeader_line ending [] text .array numeral.lf_notMem behind
  rw [readDeclared_array numeral small] at header
  rcases elements : Reply.readList ending count behind with ⟨cause | items, rest⟩
  · simp only [read_eq, header, elements]
  · simp only [read_eq, header, elements]

mutual

/-- A derived reply is read from its frame, whatever follows. -/
theorem Derives.read {ending : Ending} {front rest : Bytes} {reply : Reply} :
    Derives front reply → Reply.read ending (front ++ rest) = (.ok reply, rest)
  | .status oneLine => by
    rw [List.cons_append]
    exact Reply.read_of_complete oneLine rfl
  | .error oneLine => by
    rw [List.cons_append]
    exact Reply.read_of_complete oneLine rfl
  | .integer numeral => by
    rw [List.cons_append]
    refine Reply.read_of_complete numeral.lf_notMem ?_
    simp only [readDeclared, Decimal.int64?_eq_some_iff.2 numeral]
  | @Derives.absentBulk _ value numeral negative => by
    have absent : readBulk ending value rest = (.ok .nil, rest) :=
      readBulk_eq_ok_iff.2 (Or.inl ⟨negative, rfl, rfl⟩)
    rw [List.cons_append]
    refine Reply.read_of_complete numeral.lf_notMem ?_
    simp only [readDeclared, Decimal.int64?_eq_some_iff.2 numeral, absent]
  | @Derives.bulk _ data numeral small => by
    have fits : data.length ≤ Int64.maxValue.toInt :=
      Int.le_trans (Int.ofNat_le.2 small) (by decide)
    obtain ⟨value, known, same⟩ := numeral.int64?_natCast fits
    have present : readBulk ending value (data ++ crlf ++ rest) = (.ok (.bulk data), rest) :=
      readBulk_eq_ok_iff.2 (Or.inr ⟨data, same, small, rfl, rfl⟩)
    rw [List.cons_append, List.append_assoc]
    refine Reply.read_of_complete numeral.lf_notMem ?_
    simp only [readDeclared, known, present]
  | .absentArray numeral negative => by
    rw [List.cons_append]
    refine Reply.read_of_complete numeral.lf_notMem ?_
    simp only [readDeclared, Decimal.int64?_eq_some_iff.2 numeral, Int64.lt_iff_toInt_lt,
      Int64.toInt_zero]
    rw [if_pos negative]
  | .array numeral small frames => by
    rw [List.cons_append, List.append_assoc, Reply.read_of_elements numeral small]
    simp only [frames.readList]

/-- Derived replies are read from their frames, whatever follows. -/
theorem DerivesAll.readList {ending : Ending} {front rest : Bytes} {items : List Reply} :
    DerivesAll front items →
      Reply.readList ending items.length (front ++ rest) = (.ok items, rest)
  | .nil => Reply.readList_zero ending rest
  | .cons first others => by
    rw [List.length_cons, Reply.readList_succ, List.append_assoc, first.read]
    simp only [others.readList]

end

/-! ## Main statement -/

/-- A reply is read, and the rest left, exactly if the stream is a frame of the reply in front of
the rest. -/
theorem Reply.read_eq_ok_iff {ending : Ending} {bytes rest : Bytes} {reply : Reply} :
    Reply.read ending bytes = (.ok reply, rest) ↔
      ∃ front, bytes = front ++ rest ∧ Derives front reply := by
  constructor
  · exact derives_of_read
  · rintro ⟨front, rfl, derived⟩
    exact derived.read

/-- **Reading accepts exactly the grammar.** Whatever line the buffer holds, and however the stream
ends, a reply is read and some bytes are left unread if and only if the stream is one of the frames
of that reply followed by these bytes. -/
theorem Reply.readFrom_ok_iff_derives (ending : Ending) (line bytes rest : Bytes) (reply : Reply) :
    ((Reply.readFrom ending ⟨line, bytes⟩).1 = .ok reply ∧
        (Reply.readFrom ending ⟨line, bytes⟩).2.unread = rest) ↔
      ∃ front, bytes = front ++ rest ∧ Derives front reply := by
  have view := Reply.read_unread ending ⟨line, bytes⟩
  rw [← Prod.mk.injEq, ← view]
  exact Reply.read_eq_ok_iff

end RespClient
