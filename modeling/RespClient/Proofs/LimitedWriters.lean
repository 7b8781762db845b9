import RespClient.Wire.Frame

/-!
# Writers that run out of room

A frame is written piece by piece, and a piece by as many calls of the writer as that takes: a call takes
some of the bytes that it is offered, and the next one offers the others. A call that takes none of them
is the last one, and the frame is given up. `Writer` is any writer of this kind that has room for a
number of bytes; in what portions it takes them is up to it.

`writeAll_cases` says how the writing of one piece ends, and `writeEach_cases` how that of several does.
`writes_a_prefix` is the main statement: whatever the portions are, the writer has taken as much of
the frame as it has room for, and no more was offered to it once it had taken all that it could. It
also says that this is what `writeWithin` computes.
-/

namespace RespClient

/-! ## Limited room -/

/-- What is written into limited room depends on all bytes of the pieces, and not on how they are cut. -/
theorem writePieces_eq (room : Nat) (pieces : List Bytes) :
    writePieces room pieces =
      (if pieces.flatten.length ≤ room then .ok () else .error (.io .writeZero),
        pieces.flatten.take room) := by
  induction pieces generalizing room with
  | nil => simp [writePieces]
  | cons first rest others =>
    rw [writePieces, others, List.flatten_cons, List.length_append, List.take_append]
    split
    · next fits =>
      have same : rest.flatten.length ≤ room - first.length ↔
          first.length + rest.flatten.length ≤ room := by omega
      simp only [same, List.take_of_length_le fits]
    · next long =>
      rw [if_neg (by omega), show room - first.length = 0 by omega, List.take_zero, List.append_nil]

/-! ## Writers -/

/-- A call of a writer: the bytes that it was offered, and how many of them it took. -/
structure WriterCall where
  offered : Bytes
  count : Nat
  deriving DecidableEq, Repr

/-- The bytes that a call took. -/
def WriterCall.taken (call : WriterCall) : Bytes := call.offered.take call.count

/-- A writer with room for this many bytes, and its calls so far. -/
structure Writer where
  room : Nat
  /-- The most bytes, besides a first one, that the call of this number takes. -/
  portion : Nat → Nat
  calls : List WriterCall := []

namespace Writer

/-- The bytes that the writer has taken, over all its calls. -/
def taken (writer : Writer) : Bytes := writer.calls.flatMap WriterCall.taken

/-- How many of these bytes the next call takes. It takes none only if there are none or there is no
room. -/
def takes (writer : Writer) (data : Bytes) : Nat :=
  min data.length (min writer.room (writer.portion writer.calls.length + 1))

/-- The writer after a call that offers these bytes. -/
def offer (writer : Writer) (data : Bytes) : Writer :=
  { writer with
    room := writer.room - writer.takes data
    calls := writer.calls ++ [⟨data, writer.takes data⟩] }

/-- Writes all bytes, unless a call takes none of them. -/
def writeAll (writer : Writer) (data : Bytes) : Except Error Unit × Writer :=
  if data = [] then (.ok (), writer)
  else if writer.takes data = 0 then (.error (.io .writeZero), writer.offer data)
  else (writer.offer data).writeAll (data.drop (writer.takes data))
termination_by data.length
decreasing_by
  rename_i some taking
  have positive : 0 < data.length := List.length_pos_iff.2 some
  rw [List.length_drop]
  omega

/-- Writes pieces in order, up to the first that is not written in full. -/
def writeEach (writer : Writer) : List Bytes → Except Error Unit × Writer
  | [] => (.ok (), writer)
  | piece :: rest =>
    match writer.writeAll piece with
    | (.ok (), writer) => writer.writeEach rest
    | (.error error, writer) => (.error error, writer)

/-- Writes the frame of a command. -/
def writeFrame (writer : Writer) (name : String) (args : List Bytes) : Except Error Unit × Writer :=
  writer.writeEach (framePieces name args)

/-! ## Bytes that are taken -/

/-- The second writer is the first one after calls that took exactly these bytes, and each at least one of
them. -/
structure Took (writer : Writer) (data : Bytes) (after : Writer) : Prop where
  room : writer.room = data.length + after.room
  calls : ∃ calls, after.calls = writer.calls ++ calls ∧ calls.flatMap WriterCall.taken = data ∧
    ∀ call ∈ calls, 0 < call.count

theorem Took.none (writer : Writer) : Took writer [] writer :=
  ⟨(Nat.zero_add _).symm, [], (List.append_nil _).symm, rfl, nofun⟩

theorem Took.trans {first second third : Writer} {data data' : Bytes} (took : Took first data second)
    (took' : Took second data' third) : Took first (data ++ data') third := by
  obtain ⟨calls, behind, exact, each⟩ := took.calls
  obtain ⟨calls', behind', exact', each'⟩ := took'.calls
  refine ⟨?_, calls ++ calls', ?_, ?_, ?_⟩
  · rw [took.room, took'.room, List.length_append, Nat.add_assoc]
  · rw [behind', behind, List.append_assoc]
  · rw [List.flatMap_append, exact, exact']
  · exact fun call made => (List.mem_append.1 made).elim (each call) (each' call)

theorem takes_le_length (writer : Writer) (data : Bytes) : writer.takes data ≤ data.length :=
  Nat.min_le_left _ _

theorem takes_le_room (writer : Writer) (data : Bytes) : writer.takes data ≤ writer.room :=
  Nat.le_trans (Nat.min_le_right _ _) (Nat.min_le_left _ _)

theorem takes_eq_zero_iff (writer : Writer) (data : Bytes) :
    writer.takes data = 0 ↔ data = [] ∨ writer.room = 0 := by
  rw [takes, ← List.length_eq_zero_iff]
  omega

/-- What one call takes, if it takes something. -/
theorem took_offer {writer : Writer} {data : Bytes} (taking : writer.takes data ≠ 0) :
    Took writer (data.take (writer.takes data)) (writer.offer data) := by
  have inData := writer.takes_le_length data
  have inRoom := writer.takes_le_room data
  refine ⟨?_, [⟨data, writer.takes data⟩], rfl, List.append_nil _, ?_⟩
  · rw [List.length_take_of_le inData, offer, Nat.add_sub_cancel' inRoom]
  · rintro call made
    rw [List.mem_singleton.1 made]
    exact Nat.pos_of_ne_zero taking

/-! ## One piece -/

/-- A piece is written in full if there is room for it. Else the writer takes what it has room for, and
one more call offers the rest in vain. -/
theorem writeAll_cases (writer : Writer) (data : Bytes) :
    (data.length ≤ writer.room ∧ ∃ after, Took writer data after ∧
      writer.writeAll data = (.ok (), after)) ∨
    (writer.room < data.length ∧ ∃ full, Took writer (data.take writer.room) full ∧
      writer.writeAll data = (.error (.io .writeZero), full.offer (data.drop writer.room))) := by
  induction writer, data using writeAll.induct with
  | case1 writer =>
    refine Or.inl ⟨Nat.zero_le _, writer, .none writer, ?_⟩
    rw [writeAll, if_pos rfl]
  | case2 writer data some stalls =>
    -- A call that takes nothing of something finds no room at all.
    have full : writer.room = 0 := ((writer.takes_eq_zero_iff data).1 stalls).resolve_left some
    have long : writer.room < data.length := by
      rw [full]
      exact List.length_pos_iff.2 some
    refine Or.inr ⟨long, writer, ?_, ?_⟩
    · rw [full, List.take_zero]
      exact .none writer
    · rw [writeAll, if_neg some, if_pos stalls, full, List.drop_zero]
  | case3 writer data some taking others =>
    -- What the first call took comes before what the calls behind it do with the others.
    have out : writer.writeAll data = (writer.offer data).writeAll (data.drop (writer.takes data)) := by
      rw [writeAll, if_neg some, if_neg taking]
    have first := took_offer taking
    have inRoom := writer.takes_le_room data
    have room : (writer.offer data).room = writer.room - writer.takes data := rfl
    rcases others with ⟨fits, after, more, writes⟩ | ⟨long, full, more, writes⟩
    · rw [List.length_drop] at fits
      refine Or.inl ⟨by omega, after, ?_, out.trans writes⟩
      have both := first.trans more
      rwa [List.take_append_drop] at both
    · rw [List.length_drop] at long
      refine Or.inr ⟨by omega, full, ?_, ?_⟩
      · have both := first.trans more
        rwa [room, ← List.take_add, Nat.add_sub_cancel' inRoom] at both
      · rw [out, writes, List.drop_drop, room, Nat.add_sub_cancel' inRoom]

/-! ## Several pieces -/

/-- Pieces are written in full if there is room for all of them. Else the writer takes what it has room
for, and the last call offers it the rest of the piece that does not fit. -/
theorem writeEach_cases (writer : Writer) (pieces : List Bytes) :
    (pieces.flatten.length ≤ writer.room ∧ ∃ after, Took writer pieces.flatten after ∧
      writer.writeEach pieces = (.ok (), after)) ∨
    (writer.room < pieces.flatten.length ∧ ∃ front piece back full,
      pieces = front ++ piece :: back ∧ front.flatten.length ≤ writer.room ∧
      writer.room < (front.flatten ++ piece).length ∧
      Took writer (pieces.flatten.take writer.room) full ∧
      writer.writeEach pieces = (.error (.io .writeZero),
        full.offer ((front.flatten ++ piece).drop writer.room))) := by
  induction pieces generalizing writer with
  | nil => exact Or.inl ⟨Nat.zero_le _, writer, .none writer, rfl⟩
  | cons first rest others =>
    rw [List.flatten_cons, List.length_append]
    rcases writer.writeAll_cases first with ⟨fits, between, took, writes⟩ | ⟨long, full, took, writes⟩
    · have out : writer.writeEach (first :: rest) = between.writeEach rest := by
        rw [writeEach, writes]
      have room := took.room
      rcases others between with
        ⟨fits', after, more, written⟩ |
          ⟨long', front, piece, back, full, rfl, inside, outside, more, stops⟩
      · exact Or.inl ⟨by omega, after, took.trans more, out.trans written⟩
      · rw [List.length_append] at outside
        refine Or.inr ⟨by omega, first :: front, piece, back, full, rfl, ?_, ?_, ?_, ?_⟩
        · rw [List.flatten_cons, List.length_append]
          omega
        · rw [List.flatten_cons, List.append_assoc, List.length_append, List.length_append]
          omega
        · rw [room, List.take_length_add_append]
          exact took.trans more
        · rw [out, stops, room, List.flatten_cons, List.append_assoc, List.drop_length_add_append]
    · refine Or.inr ⟨by omega, [], first, rest, full, rfl, Nat.zero_le _, long, ?_, ?_⟩
      · rwa [List.take_append_of_le_length (Nat.le_of_lt long)]
      · rw [writeEach, writes]
        rfl

/-! ## Frames -/

/-- What an unused writer has taken after calls that took these bytes. -/
theorem Took.taken_eq {writer after : Writer} {data : Bytes} (took : Took writer data after)
    (unused : writer.calls = []) : after.taken = data := by
  obtain ⟨calls, behind, exact, -⟩ := took.calls
  rw [taken, behind, unused, List.nil_append, exact]

/-- A writer that is full takes nothing more. -/
theorem offer_calls_of_full {writer : Writer} (full : writer.room = 0) (data : Bytes) :
    (writer.offer data).calls = writer.calls ++ [⟨data, 0⟩] := by
  rw [offer, (writer.takes_eq_zero_iff data).2 (Or.inr full)]

/-- **A writer that runs out of room has the beginning of the frame.** Writing a frame succeeds if and only if
there is room for all of it, and then the writer has taken the whole frame. Otherwise the error says that a
call took nothing, and the writer has taken the first bytes of the frame, as many as it had room for.
The call that took nothing is the last one: it offered the rest of the piece that did not fit, and each
call before it took something. In either case this is what `writeWithin` computes from the room alone. -/
theorem writes_a_prefix (room : Nat) (portion : Nat → Nat) (name : String) (args : List Bytes) :
    let whole := frame name args
    let out := writeFrame { room, portion } name args
    (out.1 = .ok () ↔ whole.length ≤ room) ∧
    (whole.length ≤ room → out.2.taken = whole) ∧
    (room < whole.length → out.1 = .error (.io .writeZero) ∧ out.2.taken = whole.take room ∧
      ∃ front piece back earlier, framePieces name args = front ++ piece :: back ∧
        front.flatten.length ≤ room ∧ room < (front.flatten ++ piece).length ∧
        out.2.calls = earlier ++ [⟨(front.flatten ++ piece).drop room, 0⟩] ∧
        ∀ call ∈ earlier, 0 < call.count) ∧
    writeWithin room name args = (out.1, out.2.taken) := by
  intro whole out
  have computed : writeWithin room name args =
      (if whole.length ≤ room then .ok () else .error (.io .writeZero), whole.take room) :=
    writePieces_eq room (framePieces name args)
  rcases writeEach_cases { room, portion } (framePieces name args) with
    ⟨fits, after, took, writes⟩ | ⟨long, front, piece, back, full, cut, inside, outside, took, stops⟩
  · have out_eq : out = (.ok (), after) := writes
    have taken : out.2.taken = whole := by
      rw [out_eq]
      exact took.taken_eq rfl
    have fits' : whole.length ≤ room := fits
    refine ⟨iff_of_true (congrArg Prod.fst out_eq) fits', fun _ => taken,
      fun long => absurd fits' (Nat.not_le_of_lt long), ?_⟩
    rw [computed, if_pos fits', List.take_of_length_le fits', taken, out_eq]
  · have out_eq : out = (.error (.io .writeZero), full.offer ((front.flatten ++ piece).drop room)) := stops
    have long' : room < whole.length := long
    have none : full.room = 0 := by
      have exact := took.room
      rw [List.length_take_of_le (Nat.le_of_lt long)] at exact
      omega
    have calls := offer_calls_of_full none ((front.flatten ++ piece).drop room)
    have taken : out.2.taken = whole.take room := by
      rw [out_eq, Writer.taken, calls, List.flatMap_append]
      exact (List.append_nil _).trans (took.taken_eq rfl)
    obtain ⟨earlier, behind, -, each⟩ := took.calls
    refine ⟨iff_of_false ?_ (Nat.not_le_of_lt long'), fun fits => absurd fits (Nat.not_le_of_lt long'),
      fun _ => ⟨congrArg Prod.fst out_eq, taken, front, piece, back, earlier, cut, inside, outside, ?_,
        each⟩, ?_⟩
    · rw [out_eq]
      nofun
    · rw [out_eq, calls, behind]
      rfl
    · rw [computed, if_neg (Nat.not_le_of_lt long'), taken, out_eq]

/-- Of a frame of 22 bytes, a writer that takes two bytes at a time is full in the middle of the key. With
more room it takes the frame. -/
theorem writes_a_prefix_instance :
    let args : List Bytes := [utf8 "key"]
    let whole := frame "GET" args
    let tight := writeFrame { room := 19, portion := fun _ => 1 } "GET" args
    let wide := writeFrame { room := 22, portion := fun _ => 1 } "GET" args
    19 < whole.length ∧ tight.1 = .error (.io .writeZero) ∧
      tight.2.taken = utf8 "*2\r\n$3\r\nGET\r\n$3\r\nke" ∧
      (∃ earlier offered, tight.2.calls = earlier ++ [⟨offered, 0⟩] ∧
        ∀ call ∈ earlier, 0 < call.count) ∧
      whole.length ≤ 22 ∧ wide.1 = .ok () ∧ wide.2.taken = whole := by
  intro args whole tight wide
  have text : whole = utf8 "*2\r\n$3\r\nGET\r\n$3\r\nkey\r\n" := by
    dsimp only [whole, args]
    decide +kernel
  have long : 19 < whole.length := by
    rw [text]
    decide +kernel
  have fits : whole.length ≤ 22 := by
    rw [text]
    decide +kernel
  obtain ⟨-, -, cut, -⟩ := writes_a_prefix 19 (fun _ => 1) "GET" args
  obtain ⟨failed, taken, front, piece, back, earlier, -, -, -, calls, each⟩ := cut long
  obtain ⟨succeeds, all, -, -⟩ := writes_a_prefix 22 (fun _ => 1) "GET" args
  refine ⟨long, failed, ?_, ⟨earlier, _, calls, each⟩, fits, succeeds.2 fits, all fits⟩
  rw [taken, show frame "GET" args = _ from text]
  decide +kernel

end Writer

end RespClient
