import RespClient.Command
import RespClient.Proofs.ReplyGrammar

/-!
# Frames of commands read back

A command is sent as a frame of the reply that lists its words: the name and the arguments. So a
pipeline of commands within the limits of the reader reads back as these replies, in order and with
nothing lost behind them (`DerivesAll.of_commands`), and a command beyond the limits is refused
(`Command.read_frame_of_not_readable`).

Apart from reading, no frame is the beginning of another (`Command.frame_append_inj`), so that the
bytes of a pipeline determine its commands. This needs no limits.
-/

namespace RespClient

/-! ## Words of a command -/

/-- What a command consists of on the wire: its name, then its arguments. -/
def Command.words (command : Command) : List Bytes := utf8 command.name :: command.args

/-- The reply as which the frame of a command reads back. -/
def Command.asReply (command : Command) : Reply := .array (command.words.map .bulk)

/-- The reader takes the words of a command, both their number and their sizes. -/
structure Command.Readable (command : Command) : Prop where
  few : command.args.length ≤ maxArrayLength - 1
  short : ∀ word ∈ command.words, word.length ≤ maxBulkLength

/-- The frame of a single word. -/
def bulkFrame (data : Bytes) : Bytes := (bulkPieces data).flatten

theorem bulkFrame_eq (data : Bytes) :
    bulkFrame data =
      Marker.bulk.byte :: (Decimal.ofNat data.length ++ crlf ++ (data ++ crlf)) := by
  simp only [bulkFrame, bulkPieces, List.flatten_cons, List.flatten_nil, List.append_nil,
    List.cons_append]
  rfl

/-- The pieces of words make the frames of the words. -/
theorem flatten_bulkPieces (words : List Bytes) :
    (words.flatMap bulkPieces).flatten = words.flatMap bulkFrame := by
  induction words with
  | nil => rfl
  | cons word others more =>
    rw [List.flatMap_cons, List.flatten_append, more, List.flatMap_cons, bulkFrame]

/-- The frame of a command is the number of its words, and the frame of each. -/
theorem Command.frame_eq (command : Command) :
    command.frame =
      Marker.array.byte ::
        (Decimal.ofNat command.words.length ++ crlf ++ command.words.flatMap bulkFrame) := by
  rw [← flatten_bulkPieces]
  rfl

/-! ## Reading within the limits -/

/-- The frame of a word that is not too long is a frame of its bytes. -/
theorem Derives.of_word {word : Bytes} (short : word.length ≤ maxBulkLength) :
    Derives (bulkFrame word) (.bulk word) := by
  rw [bulkFrame_eq]
  exact .bulk (Decimal.writes_ofNat word.length) short

/-- The frames of words are frames of their bytes, in order. -/
theorem DerivesAll.of_words {words : List Bytes}
    (short : ∀ word ∈ words, word.length ≤ maxBulkLength) :
    DerivesAll (words.flatMap bulkFrame) (words.map .bulk) := by
  induction words with
  | nil => exact .nil
  | cons word others more =>
    rw [List.forall_mem_cons] at short
    exact .cons (.of_word short.1) (more short.2)

/-- The frame of a readable command is a frame of the reply that lists its words. -/
theorem Command.Readable.derives {command : Command} (readable : command.Readable) :
    Derives command.frame command.asReply := by
  have count : (command.words.map Reply.bulk).length = command.words.length := List.length_map ..
  have few : command.words.length ≤ maxArrayLength := by
    have room : 0 < maxArrayLength := by decide
    have args := readable.few
    simp only [Command.words, List.length_cons]
    omega
  rw [Command.frame_eq]
  refine .array ?_ (by rwa [count]) (.of_words readable.short)
  rw [count]
  exact Decimal.writes_ofNat command.words.length

/-- The frames of readable commands are frames of the replies that list their words, in order. -/
theorem DerivesAll.of_commands {commands : List Command}
    (readable : ∀ command ∈ commands, command.Readable) :
    DerivesAll (commands.flatMap Command.frame) (commands.map Command.asReply) := by
  induction commands with
  | nil => exact .nil
  | cons command others more =>
    rw [List.forall_mem_cons] at readable
    exact .cons readable.1.derives (more readable.2)

/-! ## Refusal beyond the limits -/

/-- A printed number that is read at all is read as itself. -/
theorem Decimal.toInt_of_int64?_ofNat {number : Nat} {value : Int64}
    (known : Decimal.int64? (Decimal.ofNat number) = some value) : value.toInt = number :=
  (Decimal.int64?_eq_some_iff.1 known).unique (Decimal.writes_ofNat number)

/-- The length of a bulk string that is too long is refused, also if it does not fit 64 bits. -/
theorem readDeclared_bulk_of_long {length : Nat} (long : maxBulkLength < length)
    (ending : Ending) (behind : Bytes) :
    ∃ violation, readDeclared ending .bulk (Decimal.ofNat length) behind =
      (.error (.protocol violation), behind) := by
  cases known : Decimal.int64? (Decimal.ofNat length) with
  | none =>
    refine ⟨.badInteger (Decimal.ofNat length), ?_⟩
    simp only [readDeclared, known]
  | some value =>
    have same := Decimal.toInt_of_int64?_ofNat known
    refine ⟨.bulkTooLarge value, ?_⟩
    simp only [readDeclared, known, readBulk, Int64.lt_iff_toInt_lt, Int64.toInt_zero, same,
      Int.toNat_natCast]
    rw [if_neg (by omega), if_pos long]

/-- The length of an array that is too long is refused, also if it does not fit 64 bits. -/
theorem readDeclared_array_of_long {length : Nat} (long : maxArrayLength < length)
    (ending : Ending) (behind : Bytes) :
    ∃ violation, readDeclared ending .array (Decimal.ofNat length) behind =
      (.error (.protocol violation), behind) := by
  cases known : Decimal.int64? (Decimal.ofNat length) with
  | none =>
    refine ⟨.badInteger (Decimal.ofNat length), ?_⟩
    simp only [readDeclared, known]
  | some value =>
    have same := Decimal.toInt_of_int64?_ofNat known
    refine ⟨.arrayTooLong value, ?_⟩
    simp only [readDeclared, known, Int64.lt_iff_toInt_lt, Int64.toInt_zero, same,
      Int.toNat_natCast]
    rw [if_neg (by omega), if_pos long]

/-- A word that is too long is refused at its length. -/
theorem Reply.read_bulkFrame_of_long {word : Bytes} (long : maxBulkLength < word.length)
    (ending : Ending) (rest : Bytes) :
    ∃ violation rest', Reply.read ending (bulkFrame word ++ rest) =
      (.error (.protocol violation), rest') := by
  have oneLine := (Decimal.writes_ofNat word.length).lf_notMem
  obtain ⟨violation, refused⟩ := readDeclared_bulk_of_long long ending (word ++ crlf ++ rest)
  refine ⟨violation, word ++ crlf ++ rest, ?_⟩
  rw [bulkFrame_eq, List.cons_append, List.append_assoc, read_eq, readHeader_line .bulk oneLine,
    refused]

/-- Words are refused at the first that is too long. -/
theorem Reply.readList_words_of_long {words : List Bytes}
    (long : ∃ word ∈ words, maxBulkLength < word.length) (ending : Ending) (rest : Bytes) :
    ∃ violation rest',
      Reply.readList ending words.length (words.flatMap bulkFrame ++ rest) =
        (.error (.protocol violation), rest') := by
  induction words with
  | nil =>
    obtain ⟨word, inNone, -⟩ := long
    cases inNone
  | cons word others more =>
    rw [List.length_cons, readList_succ, List.flatMap_cons, List.append_assoc]
    by_cases short : word.length ≤ maxBulkLength
    · have later : ∃ word ∈ others, maxBulkLength < word.length := by
        obtain ⟨found, inWords, tooLong⟩ := long
        rcases List.mem_cons.1 inWords with rfl | inOthers
        · omega
        · exact ⟨found, inOthers, tooLong⟩
      obtain ⟨violation, rest', refused⟩ := more later
      refine ⟨violation, rest', ?_⟩
      simp only [(Derives.of_word short).read, refused]
    · obtain ⟨violation, rest', refused⟩ :=
        read_bulkFrame_of_long (Nat.lt_of_not_le short) ending (others.flatMap bulkFrame ++ rest)
      refine ⟨violation, rest', ?_⟩
      rw [refused]

/-- The frame of a command that is not readable is refused. -/
theorem Command.read_frame_of_not_readable {command : Command} (beyond : ¬ command.Readable)
    (ending : Ending) (rest : Bytes) :
    ∃ violation rest', Reply.read ending (command.frame ++ rest) =
      (.error (.protocol violation), rest') := by
  have numeral := Decimal.writes_ofNat command.words.length
  rw [Command.frame_eq, List.cons_append, List.append_assoc]
  by_cases few : command.words.length ≤ maxArrayLength
  · -- The number of words is fine, so one of them is too long.
    have long : ∃ word ∈ command.words, maxBulkLength < word.length := by
      refine Classical.byContradiction fun none => beyond ⟨?_, fun word inWords => ?_⟩
      · simp only [Command.words, List.length_cons] at few
        omega
      · exact Nat.le_of_not_lt fun tooLong => none ⟨word, inWords, tooLong⟩
    obtain ⟨violation, rest', refused⟩ := Reply.readList_words_of_long long ending rest
    refine ⟨violation, rest', ?_⟩
    rw [Reply.read_of_elements numeral few]
    simp only [refused]
  · obtain ⟨violation, refused⟩ := readDeclared_array_of_long (Nat.lt_of_not_le few) ending
      (command.words.flatMap bulkFrame ++ rest)
    refine ⟨violation, command.words.flatMap bulkFrame ++ rest, ?_⟩
    rw [Reply.read_eq, readHeader_line .array numeral.lf_notMem, refused]

/-! ## No frame begins another -/

/-- The first line of a stream is determined by the stream. -/
theorem line_append_inj {text text' rest rest' : Bytes} (oneLine : lf ∉ text)
    (oneLine' : lf ∉ text') (same : text ++ crlf ++ rest = text' ++ crlf ++ rest') :
    text = text' ∧ rest = rest' := by
  have first : readLine .closed { unread := text ++ crlf ++ rest } = (.ok (), ⟨text, rest⟩) :=
    readLine_eq_ok_iff.2 ⟨oneLine, rfl⟩
  have second : readLine .closed { unread := text ++ crlf ++ rest } = (.ok (), ⟨text', rest'⟩) :=
    readLine_eq_ok_iff.2 ⟨oneLine', same⟩
  rw [first] at second
  cases second
  exact ⟨rfl, rfl⟩

/-- A stream that starts with a printed number on a line determines the number. -/
theorem ofNat_line_append_inj {number number' : Nat} {rest rest' : Bytes}
    (same : Decimal.ofNat number ++ crlf ++ rest = Decimal.ofNat number' ++ crlf ++ rest') :
    number = number' ∧ rest = rest' := by
  obtain ⟨text, behind⟩ := line_append_inj (Decimal.writes_ofNat number).lf_notMem
    (Decimal.writes_ofNat number').lf_notMem same
  exact ⟨Decimal.ofNat_injective text, behind⟩

/-- A stream that starts with the frame of a word determines the word. -/
theorem bulkFrame_append_inj {word word' rest rest' : Bytes}
    (same : bulkFrame word ++ rest = bulkFrame word' ++ rest') : word = word' ∧ rest = rest' := by
  simp only [bulkFrame_eq, List.cons_append, List.append_assoc (_ ++ crlf), List.cons.injEq,
    true_and] at same
  obtain ⟨length, content⟩ := ofNat_line_append_inj same
  rw [List.append_assoc, List.append_assoc] at content
  obtain ⟨word_eq, behind⟩ := List.append_inj content length
  exact ⟨word_eq, List.append_cancel_left behind⟩

/-- A stream that starts with the frames of a number of words determines the words. -/
theorem words_append_inj {words words' : List Bytes} {rest rest' : Bytes}
    (length : words.length = words'.length)
    (same : words.flatMap bulkFrame ++ rest = words'.flatMap bulkFrame ++ rest') :
    words = words' ∧ rest = rest' := by
  induction words generalizing words' with
  | nil =>
    obtain rfl := List.length_eq_zero_iff.1 length.symm
    exact ⟨rfl, same⟩
  | cons word others more =>
    cases words' with
    | nil => cases length
    | cons word' others' =>
      rw [List.flatMap_cons, List.flatMap_cons, List.append_assoc, List.append_assoc] at same
      obtain ⟨rfl, behind⟩ := bulkFrame_append_inj same
      obtain ⟨rfl, rfl⟩ := more (Nat.succ.inj length) behind
      exact ⟨rfl, rfl⟩

/-- A stream that starts with the frame of a command determines the words of the command. -/
theorem Command.frame_append_inj {command command' : Command} {rest rest' : Bytes}
    (same : command.frame ++ rest = command'.frame ++ rest') :
    command.words = command'.words ∧ rest = rest' := by
  simp only [frame_eq, List.cons_append, List.append_assoc (_ ++ crlf), List.cons.injEq,
    true_and] at same
  obtain ⟨length, behind⟩ := ofNat_line_append_inj same
  exact words_append_inj length behind

/-- Commands with the same words differ at most in their replies. -/
theorem Command.withoutReply_eq_of_words {command command' : Command}
    (same : command.words = command'.words) : command.withoutReply = command'.withoutReply := by
  obtain ⟨name, args⟩ := List.cons.inj same
  simp only [withoutReply, utf8_injective name, args]

/-- Pipelines with the same bytes have the same commands. -/
theorem withoutReply_eq_of_frames {first second : List Command}
    (same : first.flatMap Command.frame = second.flatMap Command.frame) :
    first.map Command.withoutReply = second.map Command.withoutReply := by
  induction first generalizing second with
  | nil =>
    cases second with
    | nil => rfl
    | cons command others => simp [Command.frame_eq] at same
  | cons command others more =>
    cases second with
    | nil => simp [Command.frame_eq] at same
    | cons command' others' =>
      rw [List.flatMap_cons, List.flatMap_cons] at same
      obtain ⟨words, behind⟩ := Command.frame_append_inj same
      rw [List.map_cons, List.map_cons, Command.withoutReply_eq_of_words words, more behind]

/-! ## Main statement -/

/-- **Pipelines are uniquely decodable.** Commands within the limits of the reader read back from
their frames, one reply for each in order, and what follows the frames is left; the frame of a
command beyond the limits is refused as a violation of the protocol. Commands that are sent as the
same bytes are the same commands. -/
theorem Pipeline.frames_uniquely_decodable :
    (∀ (ending : Ending) (line rest : Bytes) (commands : List Command),
      (∀ command ∈ commands, command.Readable) →
        (Reply.readListFrom ending commands.length
            ⟨line, commands.flatMap Command.frame ++ rest⟩).1 =
          .ok (commands.map Command.asReply) ∧
        (Reply.readListFrom ending commands.length
            ⟨line, commands.flatMap Command.frame ++ rest⟩).2.unread = rest) ∧
    (∀ (ending : Ending) (line rest : Bytes) (command : Command), ¬ command.Readable →
      ∃ violation, (Reply.readFrom ending ⟨line, command.frame ++ rest⟩).1 =
        .error (.protocol violation)) ∧
    (∀ first second : List Command,
      first.flatMap Command.frame = second.flatMap Command.frame →
        first.map Command.withoutReply = second.map Command.withoutReply) := by
  refine ⟨?_, ?_, fun _ _ => withoutReply_eq_of_frames⟩
  · intro ending line rest commands readable
    have count : (commands.map Command.asReply).length = commands.length := List.length_map ..
    have read : Reply.readList ending commands.length (commands.flatMap Command.frame ++ rest) =
        (.ok (commands.map Command.asReply), rest) :=
      count ▸ (DerivesAll.of_commands readable).readList
    have view := Reply.readList_unread ending commands.length
      ⟨line, commands.flatMap Command.frame ++ rest⟩
    rw [read, Prod.mk.injEq] at view
    exact ⟨view.1.symm, view.2.symm⟩
  · intro ending line rest command beyond
    obtain ⟨violation, rest', refused⟩ := command.read_frame_of_not_readable beyond ending rest
    have view := Reply.read_unread ending ⟨line, command.frame ++ rest⟩
    rw [refused, Prod.mk.injEq] at view
    exact ⟨violation, view.1.symm⟩

/-- A value that looks like the protocol itself reads back, a command with too many arguments does
not, and the reply of a command is not on the wire. -/
theorem Pipeline.frames_uniquely_decodable_instance :
    let set : Command := { name := "SET", args := [utf8 "key", utf8 "\r\n$3\r\n*1"] }
    let long : Command := { name := "DEL", args := List.replicate maxArrayLength [] }
    let answered : Command := { Command.ping with reply := some (.status "PONG") }
    ((∀ command ∈ [set, .ping], command.Readable) ∧
      (Reply.readListFrom .silent 2 ⟨crlf, [set, .ping].flatMap Command.frame ++ crlf⟩).1 =
        .ok [set.asReply, .array [.bulk (utf8 "PING")]]) ∧
    (¬ long.Readable ∧ ∃ violation, (Reply.readFrom .closed ⟨[], long.frame ++ []⟩).1 =
      .error (.protocol violation)) ∧
    [answered].flatMap Command.frame = [Command.ping].flatMap Command.frame ∧
      [answered.withoutReply] = [Command.ping.withoutReply] := by
  intro set long answered
  have readable : ∀ command ∈ [set, .ping], command.Readable := by
    intro command member
    simp only [List.mem_cons, List.not_mem_nil, or_false] at member
    rcases member with rfl | rfl
    · exact ⟨by decide, by decide⟩
    · exact ⟨by decide, by decide⟩
  have beyond : ¬ long.Readable := by
    intro readable
    have few := readable.few
    rw [List.length_replicate] at few
    exact absurd few (by decide)
  obtain ⟨decodes, refuses, injective⟩ := Pipeline.frames_uniquely_decodable
  exact ⟨⟨readable, (decodes .silent crlf crlf [set, .ping] readable).1⟩,
    ⟨beyond, refuses .closed [] [] long beyond⟩, rfl, injective [answered] [.ping] rfl⟩

end RespClient
