import Mathlib.Data.List.Infix
import RespClient.Proofs.ReplyGrammar

/-!
# Replies in streams that go on or break off

How a stream is cut into pieces makes no difference to what is read from it. A reply that was read
stays the same when more bytes follow, and so does a violation of the protocol, unless the stream
ended inside a line (`Reply.read_settled_or_runsOut`).

A stream may break off inside a reply. `Cut` lists the places where it can, by the frame of the
reply: in front of a frame, inside a line, or inside the content of a bulk string, at any depth of
arrays. Each place has its own error (`Cut.read`), and a frame that breaks off does so at one of
these places (`Derives.cut`), so that half a reply is never taken for a whole one.

`Reply.stable_and_never_half_read` is the main statement.
-/

namespace RespClient

/-! ## Streams that go on -/

/-- Why reading stops where a stream runs out. -/
inductive RanOut (ending : Ending) (bytes : Bytes) : Error → Prop where
  /-- The stream has no line feed for its last line, which may be empty. -/
  | insideLine {line : Bytes} (unended : lf ∉ line) (last : line <:+ bytes) :
    RanOut ending bytes (lineCutShort ending line)
  | insideContent : RanOut ending bytes (bulkCutShort ending)

section Reading

variable {α : Type} (read : Ending → Bytes → Except Error α × Bytes) (ending : Ending)
  (bytes : Bytes)

/-- What is read stays the same when the stream goes on, however it ends then. -/
def Settled : Prop := ∀ (ending' : Ending) (more : Bytes),
  read ending' (bytes ++ more) = ((read ending bytes).1, (read ending bytes).2 ++ more)

/-- Reading consumes the stream and wants more. -/
def RunsOut : Prop := ∃ error, read ending bytes = (.error error, []) ∧ RanOut ending bytes error

end Reading

theorem RanOut.of_suffix {ending : Ending} {bytes bytes' : Bytes} {error : Error}
    (ranOut : RanOut ending bytes error) (behind : bytes <:+ bytes') :
    RanOut ending bytes' error := by
  cases ranOut with
  | insideLine unended last => exact .insideLine unended (last.trans behind)
  | insideContent => exact .insideContent

/-- A stream that runs out violates the protocol only if it ends inside a line. -/
theorem RanOut.of_protocol {ending : Ending} {bytes : Bytes} {violation : Violation}
    (ranOut : RanOut ending bytes (.protocol violation)) :
    violation = .unterminatedLine ∧ bytes.getLast? ≠ some lf := by
  generalize told : Error.protocol violation = error at ranOut
  cases ranOut with
  | @insideLine line unended last =>
    cases ending with
    | silent => cases told
    | closed =>
      cases line with
      | nil => cases told
      | cons first more =>
        cases told
        obtain ⟨front, rfl⟩ := last
        refine ⟨rfl, fun ended => unended ?_⟩
        rw [List.getLast?_append_of_ne_nil _ (List.cons_ne_nil first more)] at ended
        exact List.mem_of_getLast? ended
  | insideContent => cases ending <;> cases told

theorem readContent_settled_or_runsOut (ending : Ending) (length : Nat) (bytes : Bytes) :
    Settled (readContent · length) ending bytes ∨ RunsOut (readContent · length) ending bytes := by
  by_cases short : bytes.length < length + crlf.length
  · refine Or.inr ⟨bulkCutShort ending, ?_, .insideContent⟩
    have cut : (bytes.take (length + crlf.length)).length < length + crlf.length :=
      Nat.lt_of_le_of_lt (List.length_take_le' ..) short
    simp only [readContent, if_pos cut]
  · refine Or.inl fun ending' more => ?_
    have enough : length + crlf.length ≤ bytes.length := Nat.not_lt.1 short
    have whole : ¬ (bytes.take (length + crlf.length)).length < length + crlf.length := by
      rw [List.length_take]
      omega
    simp only [readContent, List.take_append_of_le_length enough,
      List.drop_append_of_le_length enough, if_neg whole]
    split <;> rfl

theorem readBulk_settled_or_runsOut (ending : Ending) (length : Int64) (bytes : Bytes) :
    Settled (readBulk · length) ending bytes ∨ RunsOut (readBulk · length) ending bytes := by
  by_cases absent : length < 0
  · exact Or.inl fun ending' more => by simp only [readBulk, if_pos absent]
  by_cases large : maxBulkLength < length.toInt.toNat
  · exact Or.inl fun ending' more => by simp only [readBulk, if_neg absent, if_pos large]
  rcases readContent_settled_or_runsOut ending length.toInt.toNat bytes with
    settled | ⟨error, out, ranOut⟩
  · refine Or.inl fun ending' more => ?_
    simp only [readBulk, if_neg absent, if_neg large, settled ending' more]
    rcases readContent ending length.toInt.toNat bytes with ⟨error | data, rest⟩ <;> rfl
  · refine Or.inr ⟨error, ?_, ranOut⟩
    simp only [readBulk, if_neg absent, if_neg large, out]

theorem readDeclared_settled_or_runsOut (ending : Ending) (marker : Marker) (text bytes : Bytes) :
    Settled (readDeclared · marker text) ending bytes ∨
      RunsOut (readDeclared · marker text) ending bytes := by
  rcases known : Decimal.int64? text with _ | value
  · refine Or.inl fun ending' more => ?_
    cases marker <;> simp only [readDeclared, known]
  cases marker with
  | bulk =>
    rcases readBulk_settled_or_runsOut ending value bytes with settled | ⟨error, out, ranOut⟩
    · refine Or.inl fun ending' more => ?_
      simp only [readDeclared, known, settled ending' more]
      rcases readBulk ending value bytes with ⟨error | reply, rest⟩ <;> rfl
    · refine Or.inr ⟨error, ?_, ranOut⟩
      simp only [readDeclared, known, out]
  | array =>
    refine Or.inl fun ending' more => ?_
    simp only [readDeclared, known]
    split
    · rfl
    · split <;> rfl
  | status | error | integer => exact Or.inl fun ending' more => by simp only [readDeclared, known]

/-- A line that is ended is faulty whatever follows it, or has a marker. -/
theorem readHeader_cases_of_line {front : Bytes} (oneLine : lf ∉ front) :
    (∃ violation line', ∀ (ending : Ending) (line rest : Bytes),
      readHeader ending ⟨line, front ++ lf :: rest⟩ =
        (.error (.protocol violation), ⟨line', rest⟩)) ∨
    ∃ marker text, lf ∉ text ∧
      ∀ rest, front ++ lf :: rest = Marker.byte marker :: (text ++ crlf ++ rest) := by
  have reads (ending : Ending) (line rest : Bytes) :
      readLine ending ⟨line, front ++ lf :: rest⟩ =
        if front.getLast? = some cr then (.ok (), ⟨front.dropLast, rest⟩)
        else (.error (.protocol .unterminatedLine), ⟨front ++ [lf], rest⟩) := by
    obtain ⟨taken, dropped⟩ := scan_line oneLine rest
    simp only [readLine, dropped, taken]
  by_cases ended : front.getLast? = some cr
  · obtain ⟨kept, rfl⟩ := List.getLast?_eq_some_iff.1 ended
    simp only [List.dropLast_concat, if_pos ended] at reads
    rcases kept with _ | ⟨first, text⟩
    · exact Or.inl ⟨.emptyLine, [], fun ending line rest => by simp only [readHeader, reads]⟩
    · rcases known : Marker.ofByte? first with _ | marker
      · refine Or.inl ⟨.unknownType first, first :: text, fun ending line rest => ?_⟩
        simp only [readHeader, reads, known]
      · obtain rfl := Marker.ofByte?_eq_some_iff.1 known
        refine Or.inr ⟨marker, text, fun found => oneLine ?_, fun rest => ?_⟩
        · exact List.mem_append_left _ (List.mem_cons_of_mem _ found)
        · simp only [crlf, List.cons_append, List.append_assoc, List.nil_append]
  · refine Or.inl ⟨.unterminatedLine, front ++ [lf], fun ending line rest => ?_⟩
    simp only [readHeader, reads, if_neg ended]

/-- A stream without a line feed runs out in its first line. -/
theorem readHeader_of_unended {ending : Ending} {line bytes : Bytes} (unended : lf ∉ bytes) :
    readHeader ending ⟨line, bytes⟩ = (.error (lineCutShort ending bytes), ⟨bytes, []⟩) := by
  have dropped : bytes.dropWhile (· ≠ lf) = [] := by
    refine List.dropWhile_eq_nil_iff.2 fun byte there => ?_
    exact decide_eq_true fun same => unended (same ▸ there)
  simp only [readHeader, readLine, dropped]

theorem readHeader_settled_or_runsOut (ending : Ending) (bytes : Bytes) :
    (∀ (ending' : Ending) (more : Bytes), readHeader ending' { unread := bytes ++ more } =
      ((readHeader ending { unread := bytes }).1,
        ⟨(readHeader ending { unread := bytes }).2.line,
          (readHeader ending { unread := bytes }).2.unread ++ more⟩)) ∨
    ∃ error line', readHeader ending { unread := bytes } = (.error error, ⟨line', []⟩) ∧
      RanOut ending bytes error := by
  by_cases ended : lf ∈ bytes
  · obtain ⟨front, rest, rfl, oneLine⟩ := List.eq_append_cons_of_mem ended
    rcases readHeader_cases_of_line oneLine with
      ⟨violation, line', faulty⟩ | ⟨marker, text, oneText, whole⟩
    · refine Or.inl fun ending' more => ?_
      rw [List.append_assoc, List.cons_append, faulty, faulty]
    · have declares (ending : Ending) (rest : Bytes) :=
        @readHeader_line ending [] text marker oneText rest
      rcases readDeclared_settled_or_runsOut ending marker text rest with
        settled | ⟨error, out, ranOut⟩
      · refine Or.inl fun ending' more => ?_
        rw [List.append_assoc, List.cons_append, whole, whole, declares, declares]
        simp only [settled ending' more]
      · refine Or.inr ⟨error, marker.byte :: text, ?_, ranOut.of_suffix ?_⟩
        · rw [whole, declares]
          simp only [out]
        · rw [whole]
          exact ⟨marker.byte :: (text ++ crlf), rfl⟩
  · exact Or.inr ⟨_, _, readHeader_of_unended ended, .insideLine ended (List.suffix_refl bytes)⟩

theorem Reply.readList_settled_or_runsOut {ending : Ending} {limit : Nat}
    (single : ∀ {bytes : Bytes}, bytes.length < limit →
      Settled Reply.read ending bytes ∨ RunsOut Reply.read ending bytes)
    (count : Nat) {bytes : Bytes} (short : bytes.length < limit) :
    Settled (Reply.readList · count) ending bytes ∨
      RunsOut (Reply.readList · count) ending bytes := by
  induction count generalizing bytes with
  | zero => exact Or.inl fun ending' more => by simp only [readList_zero]
  | succ count others =>
    rcases single short with settled | ⟨error, out, ranOut⟩
    · rcases read : Reply.read ending bytes with ⟨error | item, rest⟩
      · refine Or.inl fun ending' more => ?_
        simp only [readList_succ, settled ending' more, read]
      · obtain ⟨front, rfl, -⟩ := derives_of_read read
        have shorter : rest.length < limit := by
          rw [List.length_append] at short
          omega
        rcases others shorter with settled' | ⟨error, out, ranOut⟩
        · refine Or.inl fun ending' more => ?_
          simp only [readList_succ, settled ending' more, read, settled' ending' more]
          rcases Reply.readList ending count rest with ⟨error | items, rest'⟩ <;> rfl
        · refine Or.inr ⟨error, ?_, ranOut.of_suffix ⟨front, rfl⟩⟩
          simp only [readList_succ, read, out]
    · refine Or.inr ⟨error, ?_, ranOut⟩
      simp only [readList_succ, out]

/-- What is read of a reply stays the same when the stream goes on, unless the stream ran out. -/
theorem Reply.read_settled_or_runsOut (ending : Ending) (bytes : Bytes) :
    Settled Reply.read ending bytes ∨ RunsOut Reply.read ending bytes := by
  -- The elements of an array are shorter than the array by at least its line.
  induction length : bytes.length using Nat.strong_induction_on generalizing bytes with
  | _ limit shorter =>
    rcases readHeader_settled_or_runsOut ending bytes with settled | ⟨error, line', out, ranOut⟩
    · rcases header : readHeader ending { unread := bytes } with ⟨error | reply | count, rest⟩
      · refine Or.inl fun ending' more => ?_
        simp only [read_eq, settled ending' more, header]
      · refine Or.inl fun ending' more => ?_
        simp only [read_eq, settled ending' more, header]
      · have fewer := length_lt_of_readHeader header
        rw [length] at fewer
        obtain ⟨front, whole, -⟩ := Header.derivedFrom_of_readHeader header
        rcases readList_settled_or_runsOut (fun short => shorter _ short _ rfl) count fewer with
          settled' | ⟨error, out, ranOut⟩
        · refine Or.inl fun ending' more => ?_
          simp only [read_eq, settled ending' more, header, settled' ending' more]
          rcases Reply.readList ending count rest.unread with ⟨error | items, rest'⟩ <;> rfl
        · refine Or.inr ⟨error, ?_, ranOut.of_suffix ⟨front, whole.symm⟩⟩
          simp only [read_eq, header, out]
    · refine Or.inr ⟨error, ?_, ranOut⟩
      simp only [read_eq, out]

/-! ## Streams that break off -/

/-- Where a stream may break off inside a frame. -/
inductive Place where
  /-- In front of a reply, or of an element of an array. -/
  | between
  | insideLine
  /-- Behind the line of a bulk string, and in front of the last byte of its line end. -/
  | insideContent
  deriving DecidableEq

/-- What is read where a stream ends. -/
def Place.error : Place → Error
  | between => .connectionClosed
  | insideLine => .protocol .unterminatedLine
  | insideContent => .io .unexpectedEnd

theorem Place.error_injective {place place' : Place} (same : place.error = place'.error) :
    place = place' := by
  revert same
  cases place <;> cases place' <;> simp [error]

mutual

/-- Behind `front`, which is a part of the frame, the frame breaks off at a place of this kind. -/
inductive Cut : Place → (front frame : Bytes) → Prop where
  | between {frame : Bytes} {reply : Reply} (whole : Derives frame reply) : Cut .between [] frame
  | insideLine {marker : Marker} {text content front missing : Bytes} {reply : Reply}
    (whole : Derives (marker.byte :: (text ++ crlf ++ content)) reply) (oneLine : lf ∉ text)
    (line : marker.byte :: (text ++ crlf) = front ++ missing) (begun : front ≠ [])
    (unended : missing ≠ []) :
    Cut .insideLine front (marker.byte :: (text ++ crlf ++ content))
  | insideContent {text data front missing : Bytes} (numeral : Decimal.Writes text data.length)
    (small : data.length ≤ maxBulkLength) (content : data ++ crlf = front ++ missing)
    (unended : missing ≠ []) :
    Cut .insideContent (Marker.bulk.byte :: (text ++ crlf ++ front))
      (Marker.bulk.byte :: (text ++ crlf ++ (data ++ crlf)))
  | element {place : Place} {text front elements : Bytes} {items : List Reply}
    (numeral : Decimal.Writes text items.length) (small : items.length ≤ maxArrayLength)
    (inside : CutAmong place front elements items) :
    Cut place (Marker.array.byte :: (text ++ crlf ++ front))
      (Marker.array.byte :: (text ++ crlf ++ elements))

/-- Behind `front` the frames of these replies break off inside one of them. -/
inductive CutAmong : Place → (front frames : Bytes) → List Reply → Prop where
  | here {place : Place} {front frame rest : Bytes} {reply : Reply} {replies : List Reply}
    (whole : Derives frame reply) (others : DerivesAll rest replies)
    (inside : Cut place front frame) :
    CutAmong place front (frame ++ rest) (reply :: replies)
  | later {place : Place} {front frame rest : Bytes} {reply : Reply} {replies : List Reply}
    (whole : Derives frame reply) (inside : CutAmong place front rest replies) :
    CutAmong place (frame ++ front) (frame ++ rest) (reply :: replies)

end

/-- A stream without a line feed runs out in its first line. -/
theorem Reply.read_of_unended {ending : Ending} {bytes : Bytes} (unended : lf ∉ bytes) :
    Reply.read ending bytes = (.error (lineCutShort ending bytes), []) := by
  simp only [read_eq, readHeader_of_unended unended]

/-- A line that breaks off has no line feed. -/
theorem unended_of_line {marker : Marker} {text front missing : Bytes} (oneLine : lf ∉ text)
    (line : marker.byte :: (text ++ crlf) = front ++ missing) (unended : missing ≠ []) :
    lf ∉ front := by
  have ended : marker.byte :: (text ++ crlf) = marker.byte :: (text ++ [cr]) ++ [lf] := by
    simp only [crlf, List.cons_append, List.append_assoc, List.nil_append]
  have kept := congrArg List.dropLast (ended.symm.trans line)
  rw [List.dropLast_concat, List.dropLast_append_of_ne_nil unended] at kept
  have inside : lf ∉ marker.byte :: (text ++ [cr]) := by
    simp only [List.mem_cons, List.mem_append, not_or]
    exact ⟨marker.byte_ne_lf, oneLine, by decide⟩
  rw [kept] at inside
  exact fun found => inside (List.mem_append_left _ found)

/-- Content that breaks off is not read. -/
theorem Reply.read_of_short_content {text data front missing : Bytes}
    (numeral : Decimal.Writes text data.length) (small : data.length ≤ maxBulkLength)
    (content : data ++ crlf = front ++ missing) (unended : missing ≠ []) :
    Reply.read .closed (Marker.bulk.byte :: (text ++ crlf ++ front)) =
      (.error (.io .unexpectedEnd), []) := by
  have fits : data.length ≤ Int64.maxValue.toInt :=
    Int.le_trans (Int.ofNat_le.2 small) (by decide)
  obtain ⟨value, known, same⟩ := numeral.int64?_natCast fits
  have shorter : front.length < value.toInt.toNat + crlf.length := by
    have lengths := congrArg List.length content
    have positive := List.length_pos_iff.2 unended
    rw [List.length_append, List.length_append] at lengths
    omega
  have short : readContent .closed value.toInt.toNat front = (.error (.io .unexpectedEnd), []) := by
    have cut : (front.take (value.toInt.toNat + crlf.length)).length <
        value.toInt.toNat + crlf.length :=
      Nat.lt_of_le_of_lt (List.length_take_le' ..) shorter
    simp only [readContent, if_pos cut, bulkCutShort]
  have bulk : readBulk .closed value front = (.error (.io .unexpectedEnd), []) := by
    simp only [readBulk, Int64.lt_iff_toInt_lt, Int64.toInt_zero]
    rw [if_neg (by omega), if_neg (by omega), short]
  have header := @readHeader_line .closed [] text .bulk numeral.lf_notMem front
  simp only [readDeclared, known, bulk] at header
  simp only [read_eq, header]

mutual

/-- A frame that breaks off is not read, and the error tells the kind of the place. -/
theorem Cut.read {place : Place} {front frame : Bytes} :
    Cut place front frame → Reply.read .closed front = (.error place.error, [])
  | .between _ => Reply.read_of_unended List.not_mem_nil
  | .insideLine _ oneLine line begun unended => by
    obtain ⟨first, more, rfl⟩ := List.exists_cons_of_ne_nil begun
    exact Reply.read_of_unended (unended_of_line oneLine line unended)
  | .insideContent numeral small content unended =>
    Reply.read_of_short_content numeral small content unended
  | .element numeral small inside => by
    rw [Reply.read_of_elements numeral small, inside.readList]

/-- Frames that break off are not all read. -/
theorem CutAmong.readList {place : Place} {front frames : Bytes} {items : List Reply} :
    CutAmong place front frames items →
      Reply.readList .closed items.length front = (.error place.error, [])
  | .here _ _ inside => by
    rw [List.length_cons, Reply.readList_succ, inside.read]
  | .later whole inside => by
    rw [List.length_cons, Reply.readList_succ, whole.read]
    simp only [inside.readList]

end

/-- A frame breaks off in front of its line, inside it, or behind it. -/
theorem Derives.cut_or_behind_line {marker : Marker} {text content front missing : Bytes}
    {reply : Reply} (whole : Derives (marker.byte :: (text ++ crlf ++ content)) reply)
    (oneLine : lf ∉ text)
    (split : marker.byte :: (text ++ crlf ++ content) = front ++ missing) :
    (∃ place, Cut place front (marker.byte :: (text ++ crlf ++ content))) ∨
    ∃ behind, front = marker.byte :: (text ++ crlf ++ behind) ∧ content = behind ++ missing := by
  rw [← List.cons_append] at split
  rcases List.append_eq_append_iff.1 split with
    ⟨behind, front?, missing?⟩ | ⟨cut, line, missing?⟩
  · exact Or.inr ⟨behind, front?, missing?⟩
  · by_cases begun : front = []
    · subst begun
      exact Or.inl ⟨.between, .between whole⟩
    by_cases ended : cut = []
    · subst ended
      rw [List.append_nil] at line
      exact Or.inr ⟨[], by rw [List.append_nil, ← line], missing?.symm⟩
    · exact Or.inl ⟨.insideLine, .insideLine whole oneLine line begun ended⟩

/-- A frame that is a line breaks off in front of it or inside it. -/
theorem Derives.cut_of_line {marker : Marker} {text front missing : Bytes} {reply : Reply}
    (whole : Derives (marker.byte :: (text ++ crlf)) reply) (oneLine : lf ∉ text)
    (split : marker.byte :: (text ++ crlf) = front ++ missing) (unended : missing ≠ []) :
    ∃ place, Cut place front (marker.byte :: (text ++ crlf)) := by
  rw [← List.append_nil (text ++ crlf)] at whole split ⊢
  rcases whole.cut_or_behind_line oneLine split with cut | ⟨behind, -, nothing⟩
  · exact cut
  · exact absurd (List.append_eq_nil_iff.1 nothing.symm).2 unended

mutual

/-- A frame that is not whole breaks off at a place of some kind. -/
theorem Derives.cut {front frame missing : Bytes} {reply : Reply} :
    Derives frame reply → frame = front ++ missing → missing ≠ [] → ∃ place, Cut place front frame
  | .status oneLine, split, unended => Derives.cut_of_line (.status oneLine) oneLine split unended
  | .error oneLine, split, unended => Derives.cut_of_line (.error oneLine) oneLine split unended
  | .integer numeral, split, unended =>
    Derives.cut_of_line (.integer numeral) numeral.lf_notMem split unended
  | .absentBulk numeral negative, split, unended =>
    Derives.cut_of_line (.absentBulk numeral negative) numeral.lf_notMem split unended
  | .absentArray numeral negative, split, unended =>
    Derives.cut_of_line (.absentArray numeral negative) numeral.lf_notMem split unended
  | .bulk numeral small, split, unended => by
    rcases Derives.cut_or_behind_line (.bulk numeral small) numeral.lf_notMem split with
      cut | ⟨behind, rfl, content⟩
    · exact cut
    · exact ⟨.insideContent, .insideContent numeral small content unended⟩
  | .array numeral small frames, split, unended => by
    rcases Derives.cut_or_behind_line (.array numeral small frames) numeral.lf_notMem split with
      cut | ⟨behind, rfl, elements⟩
    · exact cut
    · obtain ⟨place, inside⟩ := frames.cut elements unended
      exact ⟨place, .element numeral small inside⟩

/-- Frames that are not whole break off inside one of them. -/
theorem DerivesAll.cut {front frames missing : Bytes} {items : List Reply} :
    DerivesAll frames items → frames = front ++ missing → missing ≠ [] →
      ∃ place, CutAmong place front frames items
  | .nil, split, unended => absurd (List.append_eq_nil_iff.1 split.symm).2 unended
  | .cons first others, split, unended => by
    rcases List.append_eq_append_iff.1 split with ⟨behind, rfl, rest⟩ | ⟨cut, frame, rest⟩
    · obtain ⟨place, inside⟩ := others.cut rest unended
      exact ⟨place, .later first inside⟩
    · by_cases whole : cut = []
      · subst whole
        rw [List.append_nil] at frame
        subst frame
        obtain ⟨place, inside⟩ := @DerivesAll.cut [] _ _ _ others rest.symm unended
        have later := CutAmong.later first inside
        rw [List.append_nil] at later
        exact ⟨place, later⟩
      · obtain ⟨place, inside⟩ := first.cut frame whole
        exact ⟨place, .here first others inside⟩

end

/-! ## Main statement -/

/-- Whether a stream ended inside a line: the line was found to have no line end, and its last byte,
which is the last of the stream, is no line feed. -/
def EndsInsideLine (bytes : Bytes) (violation : Violation) (rest : Bytes) : Prop :=
  violation = .unterminatedLine ∧ rest = [] ∧ bytes.getLast? ≠ some lf

/-- **Streams that go on and streams that break off.** A reply that was read, or a violation of the
protocol that was found, stays the same when the stream goes on, and what was unread is then
followed by the rest of the stream; only where the stream ended inside a line that is not so.

A frame that was read is not read if any of its last bytes are missing. The stream then breaks off
at a place of one kind, and the error tells which: in front of a frame, which is that of the reply
or of an element of an array at any depth; inside a line; or behind the line of a bulk string.
Nothing is left unread. -/
theorem Reply.stable_and_never_half_read (line line' : Bytes) :
    (∀ {ending ending' : Ending} {bytes more : Bytes} {result : Except Error Reply} {input : Input},
      Reply.readFrom ending ⟨line, bytes⟩ = (result, input) →
      ((∃ reply, result = .ok reply) ∨ ∃ violation, result = .error (.protocol violation) ∧
        ¬ EndsInsideLine bytes violation input.unread) →
      (Reply.readFrom ending' ⟨line', bytes ++ more⟩).1 = result ∧
      (Reply.readFrom ending' ⟨line', bytes ++ more⟩).2.unread = input.unread ++ more) ∧
    ∀ {ending : Ending} {bytes : Bytes} {reply : Reply} {input : Input},
      Reply.readFrom ending ⟨line, bytes⟩ = (.ok reply, input) →
      ∃ consumed, bytes = consumed ++ input.unread ∧
        ∀ {front missing : Bytes}, consumed = front ++ missing → missing ≠ [] →
          (∃ place : Place, (Reply.readFrom .closed ⟨line', front⟩).1 = .error place.error ∧
            (Reply.readFrom .closed ⟨line', front⟩).2.unread = []) ∧
          ∀ place : Place, (Reply.readFrom .closed ⟨line', front⟩).1 = .error place.error ↔
            Cut place front consumed := by
  refine ⟨fun {ending ending' bytes more result input} read counts => ?_,
    fun {ending bytes reply input} read => ?_⟩
  · have view := Reply.read_unread ending ⟨line, bytes⟩
    have view' := Reply.read_unread ending' ⟨line', bytes ++ more⟩
    rw [read] at view
    have settled : Settled Reply.read ending bytes := by
      rcases Reply.read_settled_or_runsOut ending bytes with settled | ⟨error, out, ranOut⟩
      · exact settled
      · obtain ⟨rfl, nothing⟩ := Prod.mk.inj (view.symm.trans out)
        rcases counts with ⟨reply, told⟩ | ⟨violation, told, notInside⟩
        · cases told
        · cases told
          obtain ⟨unterminated, last⟩ := ranOut.of_protocol
          exact absurd ⟨unterminated, nothing, last⟩ notInside
    obtain ⟨same, behind⟩ := Prod.mk.inj (view'.symm.trans (settled ending' more))
    rw [view] at same behind
    exact ⟨same, behind⟩
  · have view := Reply.read_unread ending ⟨line, bytes⟩
    rw [read] at view
    obtain ⟨consumed, whole, derived⟩ := Reply.derives_of_read view
    refine ⟨consumed, whole, fun {front missing} split unended => ?_⟩
    have reads (place : Place) (cut : Cut place front consumed) :
        (Reply.readFrom .closed ⟨line', front⟩).1 = .error place.error ∧
          (Reply.readFrom .closed ⟨line', front⟩).2.unread = [] := by
      have view' := Reply.read_unread .closed ⟨line', front⟩
      exact Prod.mk.inj (view'.symm.trans cut.read)
    obtain ⟨place, cut⟩ := derived.cut split unended
    refine ⟨⟨place, reads place cut⟩, fun other => ⟨fun told => ?_, fun cut' => (reads other cut').1⟩⟩
    have same := Except.error.inj ((reads place cut).1.symm.trans told)
    rw [Place.error_injective same] at cut
    exact cut

/-- An array of a bulk string that is a line end, and of an integer. It is read with a byte behind
it, and breaks off behind the first byte of that line end. The other stream has an unknown marker. -/
theorem Reply.stable_and_never_half_read_instance :
    let frame : Bytes :=
      [0x2A, 0x32, cr, lf, 0x24, 0x32, cr, lf, cr, lf, cr, lf, 0x3A, 0x37, cr, lf]
    let reply : Reply := .array [.bulk crlf, .integer 7]
    Reply.readFrom .silent ⟨[], frame ++ [0x2B]⟩ = (.ok reply, ⟨[0x3A, 0x37], [0x2B]⟩) ∧
    (Reply.readFrom .closed ⟨[], frame ++ [0x2B] ++ [cr, lf]⟩).1 = .ok reply ∧
    (Reply.readFrom .closed ⟨[], frame ++ [0x2B] ++ [cr, lf]⟩).2.unread = [0x2B] ++ [cr, lf] ∧
    frame.drop 9 ≠ [] ∧ Cut .insideContent (frame.take 9) frame ∧
    Reply.readFrom .closed ⟨[], [0x3F, cr, lf]⟩ =
      (.error (.protocol (.unknownType 0x3F)), ⟨[0x3F], []⟩) ∧
    ¬ EndsInsideLine [0x3F, cr, lf] (.unknownType 0x3F) [] ∧
    (Reply.readFrom .silent ⟨[], [0x3F, cr, lf] ++ frame⟩).2.unread = [] ++ frame := by
  intro frame reply
  have read : Reply.readFrom .silent ⟨[], frame ++ [0x2B]⟩ =
      (.ok reply, ⟨[0x3A, 0x37], [0x2B]⟩) := by decide +kernel
  have unknown : Reply.readFrom .closed ⟨[], [0x3F, cr, lf]⟩ =
      (.error (.protocol (.unknownType 0x3F)), ⟨[0x3F], []⟩) := by decide +kernel
  have ended : ¬ EndsInsideLine [0x3F, cr, lf] (.unknownType 0x3F) [] := fun inside =>
    nomatch inside.1
  have short : (Reply.readFrom .closed ⟨[], frame.take 9⟩).1 =
      .error Place.insideContent.error := by decide +kernel
  obtain ⟨stable, truncated⟩ := Reply.stable_and_never_half_read [] []
  obtain ⟨same, behind⟩ := stable read (Or.inl ⟨reply, rfl⟩)
  obtain ⟨-, behind'⟩ := stable unknown (Or.inr ⟨_, rfl, ended⟩)
  obtain ⟨consumed, whole, cuts⟩ := truncated read
  obtain rfl : frame = consumed := List.append_cancel_right whole
  have missing : frame.drop 9 ≠ [] := by decide
  have cut := ((cuts (List.take_append_drop 9 frame).symm missing).2 .insideContent).1 short
  exact ⟨read, same, behind, missing, cut, unknown, ended, behind'⟩

end RespClient
