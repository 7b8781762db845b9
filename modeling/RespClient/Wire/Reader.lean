import RespClient.Error
import RespClient.Reply
import RespClient.Text.Decimal

/-!
# Reading replies

`Reply.readFrom` takes one reply from the front of an `Input`. It answers with the reply or with the
error that stopped it, and in both cases with the input behind what it has consumed.

A reply starts with a line whose first byte is its `Marker`. A bulk string has its bytes and a line
end behind that line, an array its elements. The elements of an array are read by the same rules, at
any depth; reading ends since every reply consumes at least its line.

All lines go through one buffer, those of nested replies too. What was in it before makes no
difference (`Reply.readFrom_line`), so `Reply.read` leaves it out and speaks of bytes alone.

A stream may run out before the reply does. It has then either come to its end or fallen silent, and
the two differ in the error they give.
-/

namespace RespClient

/-- What follows the last byte of a stream: its end, or nothing for as long as anyone waits. -/
inductive Ending where
  | closed
  | silent
  deriving DecidableEq, Repr, Inhabited

/-- What replies are read from: the line that was read last, whose room serves for the next one too,
and the bytes that have not been consumed. -/
structure Input where
  line : Bytes := []
  unread : Bytes
  deriving DecidableEq, Repr

/-- The first byte of a line, which tells what the line holds. -/
inductive Marker where
  | status
  | error
  | integer
  | bulk
  | array
  deriving DecidableEq, Repr

/-- The byte of a marker. -/
def Marker.byte : Marker → UInt8
  | status => '+'.toUInt8
  | error => '-'.toUInt8
  | integer => ':'.toUInt8
  | bulk => '$'.toUInt8
  | array => '*'.toUInt8

/-- The marker with a byte. -/
def Marker.ofByte? (byte : UInt8) : Option Marker :=
  [Marker.status, .error, .integer, .bulk, .array].find? fun marker => marker.byte = byte

/-! ## Lines and bulk strings -/

/-- What is read when the stream runs out inside a line. -/
def lineCutShort (ending : Ending) (bytes : Bytes) : Error :=
  match ending, bytes with
  | .silent, _ => .io .timedOut
  | .closed, [] => .connectionClosed
  | .closed, _ :: _ => .protocol .unterminatedLine

/-- Reads a line up to its line feed, in place of the line that was read before. A line that ends as
it should is kept without its line end. -/
def readLine (ending : Ending) (input : Input) : Except Error Unit × Input :=
  match input.unread.dropWhile (· ≠ lf) with
  | [] => (.error (lineCutShort ending input.unread), ⟨input.unread, []⟩)
  | _ :: rest =>
    let line := input.unread.takeWhile (· ≠ lf)
    if line.getLast? = some cr then (.ok (), ⟨line.dropLast, rest⟩)
    else (.error (.protocol .unterminatedLine), ⟨line ++ [lf], rest⟩)

/-- What is read when the stream runs out inside a bulk string. -/
def bulkCutShort : Ending → Error
  | .silent => .io .timedOut
  | .closed => .io .unexpectedEnd

/-- Reads the content of a bulk string and the line end behind it. -/
def readContent (ending : Ending) (length : Nat) (bytes : Bytes) : Except Error Bytes × Bytes :=
  let piece := bytes.take (length + crlf.length)
  let rest := bytes.drop (length + crlf.length)
  if piece.length < length + crlf.length then (.error (bulkCutShort ending), [])
  else if piece.drop length = crlf then (.ok (piece.take length), rest)
  else (.error (.protocol .unterminatedBulk), rest)

/-- Reads a bulk string of a declared length; a negative one declares the absent value. -/
def readBulk (ending : Ending) (length : Int64) (bytes : Bytes) : Except Error Reply × Bytes :=
  if length < 0 then (.ok .nil, bytes)
  else if maxBulkLength < length.toInt.toNat then
    (.error (.protocol (.bulkTooLarge length)), bytes)
  else
    match readContent ending length.toInt.toNat bytes with
    | (.ok data, rest) => (.ok (.bulk data), rest)
    | (.error error, rest) => (.error error, rest)

/-! ## Headers -/

/-- What the front of a reply amounts to: a reply without elements, or an array whose elements are
still to be read. -/
inductive Header where
  | complete (reply : Reply)
  | elements (count : Nat)

/-- What a line with this marker and text declares. -/
def readDeclared (ending : Ending) (marker : Marker) (text bytes : Bytes) :
    Except Error Header × Bytes :=
  match marker with
  | .status => (.ok (.complete (.status (Utf8.lossy text))), bytes)
  | .error => (.ok (.complete (.error (Utf8.lossy text))), bytes)
  | .integer | .bulk | .array =>
    match Decimal.int64? text with
    | none => (.error (.protocol (.badInteger text)), bytes)
    | some value =>
      match marker with
      | .bulk =>
        match readBulk ending value bytes with
        | (.ok reply, rest) => (.ok (.complete reply), rest)
        | (.error error, rest) => (.error error, rest)
      | .array =>
        if value < 0 then (.ok (.complete .nil), bytes)
        else if maxArrayLength < value.toInt.toNat then
          (.error (.protocol (.arrayTooLong value)), bytes)
        else (.ok (.elements value.toInt.toNat), bytes)
      | _ => (.ok (.complete (.integer value)), bytes)

/-- Reads the line of a reply and, for a bulk string, its content. -/
def readHeader (ending : Ending) (input : Input) : Except Error Header × Input :=
  match readLine ending input with
  | (.error error, input) => (.error error, input)
  | (.ok (), input) =>
    match input.line with
    | [] => (.error (.protocol .emptyLine), input)
    | first :: text =>
      match Marker.ofByte? first with
      | none => (.error (.protocol (.unknownType first)), input)
      | some marker =>
        let (result, rest) := readDeclared ending marker text input.unread
        (result, { input with unread := rest })

/-! ## Consumption -/

/-- The bytes behind a line are fewer than the bytes in front of it. -/
theorem length_readLine_le (ending : Ending) (input : Input) :
    (readLine ending input).2.unread.length ≤ input.unread.length - 1 := by
  have shorter : (input.unread.dropWhile (· ≠ lf)).length ≤ input.unread.length :=
    (List.dropWhile_suffix _).length_le
  unfold readLine
  split
  · simp
  · next rest remaining =>
    rw [remaining, List.length_cons] at shorter
    dsimp only
    split <;> simp only <;> omega

theorem length_readContent_le (ending : Ending) (length : Nat) (bytes : Bytes) :
    (readContent ending length bytes).2.length ≤ bytes.length := by
  unfold readContent
  dsimp only
  split
  · simp
  · split <;> simp

theorem length_readBulk_le (ending : Ending) (length : Int64) (bytes : Bytes) :
    (readBulk ending length bytes).2.length ≤ bytes.length := by
  unfold readBulk
  split
  · exact Nat.le_refl _
  · split
    · exact Nat.le_refl _
    · have content := length_readContent_le ending length.toInt.toNat bytes
      split <;> simp_all

theorem length_readDeclared_le (ending : Ending) (marker : Marker) (text bytes : Bytes) :
    (readDeclared ending marker text bytes).2.length ≤ bytes.length := by
  unfold readDeclared
  split
  · exact Nat.le_refl _
  · exact Nat.le_refl _
  all_goals
    split
    · exact Nat.le_refl _
    · next value _ =>
      have bulk := length_readBulk_le ending value bytes
      repeat' split
      all_goals simp_all

theorem length_readHeader_le (ending : Ending) (input : Input) :
    (readHeader ending input).2.unread.length ≤ input.unread.length - 1 := by
  have line := length_readLine_le ending input
  unfold readHeader
  split
  · next read => rwa [read] at line
  · next input' read =>
    rw [read] at line
    split
    · exact line
    · next first text _ =>
      split
      · exact line
      · next marker _ =>
        exact Nat.le_trans (length_readDeclared_le ending marker text input'.unread) line

/-- An empty stream has no header. -/
theorem readHeader_nil (ending : Ending) (line : Bytes) :
    readHeader ending ⟨line, []⟩ = (.error (lineCutShort ending []), ⟨[], []⟩) := rfl

/-- Every header consumes bytes. -/
theorem length_lt_of_readHeader {ending : Ending} {input rest : Input} {header : Header}
    (read : readHeader ending input = (.ok header, rest)) :
    rest.unread.length < input.unread.length := by
  rcases input with ⟨line, bytes⟩
  cases bytes with
  | nil => simp [readHeader_nil] at read
  | cons first more =>
    have shorter := length_readHeader_le ending ⟨line, first :: more⟩
    rw [read] at shorter
    simp only [List.length_cons] at shorter ⊢
    omega

/-! ## Replies -/

mutual

/-- Reads a reply, and knows that a reply consumes bytes. -/
def readWithin (ending : Ending) (input : Input) :
    { out : Except Error Reply × Input //
      out.2.unread.length ≤ input.unread.length ∧
        ∀ reply, out.1 = .ok reply → out.2.unread.length < input.unread.length } :=
  match read : readHeader ending input with
  | (.error error, rest) =>
    ⟨(.error error, rest), by
      have shorter := length_readHeader_le ending input
      rw [read] at shorter
      exact ⟨Nat.le_trans shorter (Nat.sub_le ..), nofun⟩⟩
  | (.ok (.complete reply), rest) =>
    ⟨(.ok reply, rest), by
      have shorter := length_lt_of_readHeader read
      exact ⟨Nat.le_of_lt shorter, fun _ _ => shorter⟩⟩
  | (.ok (.elements count), rest) =>
    have shorter : rest.unread.length < input.unread.length := length_lt_of_readHeader read
    match readListWithin ending count rest with
    | ⟨(.ok items, rest'), shrunk⟩ =>
      ⟨(.ok (.array items), rest'),
        Nat.le_of_lt (Nat.lt_of_le_of_lt shrunk shorter),
        fun _ _ => Nat.lt_of_le_of_lt shrunk shorter⟩
    | ⟨(.error error, rest'), shrunk⟩ =>
      ⟨(.error error, rest'), Nat.le_of_lt (Nat.lt_of_le_of_lt shrunk shorter), nofun⟩
termination_by 2 * input.unread.length

/-- Reads a number of replies in order, up to the first that fails. -/
def readListWithin (ending : Ending) (count : Nat) (input : Input) :
    { out : Except Error (List Reply) × Input //
      out.2.unread.length ≤ input.unread.length } :=
  match count with
  | 0 => ⟨(.ok [], input), Nat.le_refl _⟩
  | count + 1 =>
    match readWithin ending input with
    | ⟨(.error error, rest), shrunk⟩ => ⟨(.error error, rest), shrunk.1⟩
    | ⟨(.ok item, rest), shrunk⟩ =>
      have shorter : rest.unread.length < input.unread.length := shrunk.2 item rfl
      match readListWithin ending count rest with
      | ⟨(.ok items, rest'), shrunk'⟩ =>
        ⟨(.ok (item :: items), rest'), Nat.le_trans shrunk' (Nat.le_of_lt shorter)⟩
      | ⟨(.error error, rest'), shrunk'⟩ =>
        ⟨(.error error, rest'), Nat.le_trans shrunk' (Nat.le_of_lt shorter)⟩
termination_by 2 * input.unread.length + 1

end

/-- Reads one reply from the front of an input. -/
def Reply.readFrom (ending : Ending) (input : Input) : Except Error Reply × Input :=
  (readWithin ending input).val

/-- Reads a number of replies from the front of an input, up to the first that fails. -/
def Reply.readListFrom (ending : Ending) (count : Nat) (input : Input) :
    Except Error (List Reply) × Input :=
  (readListWithin ending count input).val

/-- A reply is its header, followed by its elements if it is an array. -/
theorem Reply.readFrom_eq (ending : Ending) (input : Input) :
    Reply.readFrom ending input =
      match readHeader ending input with
      | (.error cause, rest) => (.error cause, rest)
      | (.ok (.complete reply), rest) => (.ok reply, rest)
      | (.ok (.elements count), rest) =>
        match Reply.readListFrom ending count rest with
        | (.ok items, rest') => (.ok (.array items), rest')
        | (.error cause, rest') => (.error cause, rest') := by
  unfold Reply.readFrom Reply.readListFrom
  rw [readWithin]
  split
  · next read => simp only [read]
  · next read => simp only [read]
  · next read =>
    simp only [read]
    split <;> next found => simp only [found]

theorem Reply.readListFrom_zero (ending : Ending) (input : Input) :
    Reply.readListFrom ending 0 input = (.ok [], input) := by
  unfold Reply.readListFrom
  rw [readListWithin]

theorem Reply.readListFrom_succ (ending : Ending) (count : Nat) (input : Input) :
    Reply.readListFrom ending (count + 1) input =
      match Reply.readFrom ending input with
      | (.error cause, rest) => (.error cause, rest)
      | (.ok item, rest) =>
        match Reply.readListFrom ending count rest with
        | (.ok items, rest') => (.ok (item :: items), rest')
        | (.error cause, rest') => (.error cause, rest') := by
  unfold Reply.readFrom Reply.readListFrom
  rw [readListWithin]
  split
  · next found => simp [found]
  · next found =>
    simp only [found]
    split <;> next more => simp [more]

/-- The line that was read before makes no difference to a reply. -/
theorem Reply.readFrom_line (ending : Ending) (line bytes : Bytes) :
    Reply.readFrom ending ⟨line, bytes⟩ = Reply.readFrom ending { unread := bytes } := by
  rw [readFrom_eq, readFrom_eq]
  rfl

/-! ## Replies in a stream -/

/-- Reads one reply from the front of a stream. -/
def Reply.read (ending : Ending) (bytes : Bytes) : Except Error Reply × Bytes :=
  let (result, rest) := Reply.readFrom ending { unread := bytes }
  (result, rest.unread)

/-- Reads a number of replies from the front of a stream, up to the first that fails. -/
def Reply.readList (ending : Ending) (count : Nat) (bytes : Bytes) :
    Except Error (List Reply) × Bytes :=
  let (result, rest) := Reply.readListFrom ending count { unread := bytes }
  (result, rest.unread)

/-- What is read from an input is read from its unread bytes. -/
theorem Reply.read_unread (ending : Ending) (input : Input) :
    Reply.read ending input.unread =
      ((Reply.readFrom ending input).1, (Reply.readFrom ending input).2.unread) := by
  unfold Reply.read
  rw [← Reply.readFrom_line ending input.line]

theorem Reply.readList_unread (ending : Ending) (count : Nat) (input : Input) :
    Reply.readList ending count input.unread =
      ((Reply.readListFrom ending count input).1,
        (Reply.readListFrom ending count input).2.unread) := by
  unfold Reply.readList
  cases count with
  | zero => simp only [Reply.readListFrom_zero]
  | succ count =>
    have same := Reply.readFrom_line ending input.line input.unread
    simp only [Reply.readListFrom_succ, ← same]

/-- A reply is its header, followed by its elements if it is an array. -/
theorem Reply.read_eq (ending : Ending) (bytes : Bytes) :
    Reply.read ending bytes =
      match readHeader ending { unread := bytes } with
      | (.error cause, rest) => (.error cause, rest.unread)
      | (.ok (.complete reply), rest) => (.ok reply, rest.unread)
      | (.ok (.elements count), rest) =>
        match Reply.readList ending count rest.unread with
        | (.ok items, rest') => (.ok (.array items), rest')
        | (.error cause, rest') => (.error cause, rest') := by
  unfold Reply.read
  rw [Reply.readFrom_eq]
  rcases readHeader ending { unread := bytes } with ⟨_ | reply | count, rest⟩
  · rfl
  · rfl
  · dsimp only
    rw [Reply.readList_unread]
    rcases Reply.readListFrom ending count rest with ⟨_ | items, rest'⟩ <;> rfl

theorem Reply.readList_zero (ending : Ending) (bytes : Bytes) :
    Reply.readList ending 0 bytes = (.ok [], bytes) := by
  unfold Reply.readList
  rw [Reply.readListFrom_zero]

theorem Reply.readList_succ (ending : Ending) (count : Nat) (bytes : Bytes) :
    Reply.readList ending (count + 1) bytes =
      match Reply.read ending bytes with
      | (.error cause, rest) => (.error cause, rest)
      | (.ok item, rest) =>
        match Reply.readList ending count rest with
        | (.ok items, rest') => (.ok (item :: items), rest')
        | (.error cause, rest') => (.error cause, rest') := by
  unfold Reply.read
  rw [Reply.readList, Reply.readListFrom_succ]
  rcases Reply.readFrom ending { unread := bytes } with ⟨_ | item, rest⟩
  · rfl
  · dsimp only
    rw [Reply.readList_unread]
    rcases Reply.readListFrom ending count rest with ⟨_ | items, rest'⟩ <;> rfl

/-- Several replies and the one behind them are one reply more. -/
theorem Reply.readList_concat {ending : Ending} {count : Nat} {bytes middle rest : Bytes}
    {items : List Reply} {item : Reply}
    (front : Reply.readList ending count bytes = (.ok items, middle))
    (last : Reply.read ending middle = (.ok item, rest)) :
    Reply.readList ending (count + 1) bytes = (.ok (items ++ [item]), rest) := by
  induction count generalizing bytes items with
  | zero =>
    rw [readList_zero] at front
    cases front
    rw [readList_succ, last]
    simp only [readList_zero]
    rfl
  | succ count more =>
    rw [readList_succ] at front ⊢
    split at front
    · cases front
    · next first behind read =>
      split at front
      · next others rest' list =>
        cases front
        simp only [more list]
        rfl
      · cases front

/-- A reply consumes bytes. -/
theorem Reply.length_lt_of_read {ending : Ending} {bytes rest : Bytes} {reply : Reply}
    (read : Reply.read ending bytes = (.ok reply, rest)) : rest.length < bytes.length := by
  have shrunk := (readWithin ending { unread := bytes }).property.2 reply
  unfold Reply.read Reply.readFrom at read
  obtain ⟨result, rfl⟩ := Prod.mk.inj read
  exact shrunk result

end RespClient
