import Mathlib.Data.List.Infix
import RespClient.Proofs.ReplyErrors
import RespClient.Proofs.ReplyGrammar

/-!
# Reading ends, and what it consumes

The reader of a reply calls itself for each element of an array, and how many these are is what a line
of the stream declares. `Reading` tells which calls there are: a derivation of `Reading ending input calls
out` is a finite tree of calls, one for each line that is read, with `out` as the result of the first. Such a
tree exists for every input (`Reply.reading`), by induction on the unread bytes, since each line that leads
to further calls consumes three at least. How deep a stack the calls need is not told here.

Each node of a reply that is read is one call (`Reading.paid`), so bytes can be accounted to nodes and to the
contents of bulk strings, at any depth.

`Reply.reading_ends_and_progresses` is the main statement.
-/

namespace RespClient

/-! ## What is consumed -/

/-- What is left is the end of what there was, shorter by a number of bytes at least. -/
structure Consumes (least : Nat) (input rest : Input) : Prop where
  suffix : rest.unread <:+ input.unread
  length : rest.unread.length + least ≤ input.unread.length

theorem Consumes.refl (input : Input) : Consumes 0 input input :=
  ⟨List.suffix_refl input.unread, Nat.le_refl _⟩

theorem Consumes.trans {least least' : Nat} {input middle rest : Input}
    (first : Consumes least input middle) (second : Consumes least' middle rest) :
    Consumes (least + least') input rest := by
  refine ⟨second.suffix.trans first.suffix, ?_⟩
  have before := first.length
  have behind := second.length
  omega

theorem Consumes.mono {least least' : Nat} {input rest : Input} (consumes : Consumes least input rest)
    (fewer : least' ≤ least) : Consumes least' input rest :=
  ⟨consumes.suffix, Nat.le_trans (Nat.add_le_add_left fewer _) consumes.length⟩

theorem readLine_suffix (ending : Ending) (input : Input) :
    (readLine ending input).2.unread <:+ input.unread := by
  have behind := List.dropWhile_suffix (fun byte => decide (byte ≠ lf)) (l := input.unread)
  unfold readLine
  split
  · exact List.nil_suffix
  · next last rest remaining =>
    rw [remaining] at behind
    dsimp only
    split <;> exact (List.suffix_cons last rest).trans behind

theorem readContent_suffix (ending : Ending) (length : Nat) (bytes : Bytes) :
    (readContent ending length bytes).2 <:+ bytes := by
  unfold readContent
  dsimp only
  split
  · exact List.nil_suffix
  · split <;> exact List.drop_suffix _ bytes

theorem readBulk_suffix (ending : Ending) (length : Int64) (bytes : Bytes) :
    (readBulk ending length bytes).2 <:+ bytes := by
  have content := readContent_suffix ending length.toInt.toNat bytes
  unfold readBulk
  split
  · exact List.suffix_refl bytes
  · split
    · exact List.suffix_refl bytes
    · split <;> next read => rwa [read] at content

theorem readDeclared_suffix (ending : Ending) (marker : Marker) (text bytes : Bytes) :
    (readDeclared ending marker text bytes).2 <:+ bytes := by
  rcases known : Decimal.int64? text with _ | value
  · cases marker <;> simp only [readDeclared, known, List.suffix_refl]
  cases marker with
  | status | error | integer => simp only [readDeclared, known, List.suffix_refl]
  | bulk =>
    have bulk := readBulk_suffix ending value bytes
    simp only [readDeclared, known]
    split <;> next read => rwa [read] at bulk
  | array =>
    simp only [readDeclared, known]
    split
    · exact List.suffix_refl bytes
    · split <;> exact List.suffix_refl bytes

theorem readHeader_suffix (ending : Ending) (input : Input) :
    (readHeader ending input).2.unread <:+ input.unread := by
  have line := readLine_suffix ending input
  unfold readHeader
  split
  · next read => rwa [read] at line
  · next after read =>
    rw [read] at line
    split
    · exact line
    · next first text _ =>
      split
      · exact line
      · next marker _ => exact (readDeclared_suffix ending marker text after.unread).trans line

theorem Consumes.of_readHeader {ending : Ending} {input rest : Input}
    {result : Except Error Header} (read : readHeader ending input = (result, rest)) :
    Consumes 0 input rest := by
  have behind := readHeader_suffix ending input
  rw [read] at behind
  exact ⟨behind, behind.length_le⟩

/-- A line has a marker and a line end. -/
theorem length_line_le (marker : Marker) (text behind : Bytes) :
    behind.length + 3 ≤ (marker.byte :: (text ++ crlf ++ behind)).length := by
  simp only [crlf, List.length_cons, List.length_append, List.length_nil]
  omega

theorem Consumes.of_readHeader_ok {ending : Ending} {input rest : Input} {header : Header}
    (read : readHeader ending input = (.ok header, rest)) : Consumes 3 input rest := by
  refine ⟨(Consumes.of_readHeader read).suffix, ?_⟩
  obtain ⟨marker, text, behind, -, whole, declared, -⟩ := readHeader_eq_ok_iff.1 read
  have content := (readDeclared_suffix ending marker text behind).length_le
  rw [declared] at content
  rw [whole]
  exact Nat.le_trans (Nat.add_le_add_right content 3) (length_line_le marker text behind)

/-- Where there is nothing to read, nothing violates the protocol. -/
theorem Consumes.of_readHeader_protocol {ending : Ending} {input rest : Input}
    {violation : Violation}
    (read : readHeader ending input = (.error (.protocol violation), rest)) :
    Consumes 1 input rest := by
  refine ⟨(Consumes.of_readHeader read).suffix, ?_⟩
  rcases input with ⟨line, bytes⟩
  cases bytes with
  | nil =>
    rw [readHeader_nil] at read
    cases ending <;> cases read
  | cons first more =>
    have shorter := length_readHeader_le ending ⟨line, first :: more⟩
    rw [read] at shorter
    simp only [List.length_cons] at shorter ⊢
    omega

/-! ## What a reply takes -/

mutual

/-- The number of replies in a reply: itself, and those nested in it. -/
def Reply.nodes : Reply → Nat
  | .array items => Reply.nodesAmong items + 1
  | .nil | .status _ | .integer _ | .bulk _ | .error _ => 1

/-- The number of replies in replies. -/
def Reply.nodesAmong : List Reply → Nat
  | [] => 0
  | item :: items => item.nodes + Reply.nodesAmong items

end

mutual

/-- The number of bytes in the bulk strings of a reply. -/
def Reply.payload : Reply → Nat
  | .bulk data => data.length
  | .array items => Reply.payloadAmong items
  | .nil | .status _ | .integer _ | .error _ => 0

/-- The number of bytes in the bulk strings of replies. -/
def Reply.payloadAmong : List Reply → Nat
  | [] => 0
  | item :: items => item.payload + Reply.payloadAmong items

end

theorem Reply.nodes_pos (reply : Reply) : 0 < reply.nodes := by
  cases reply <;> simp [Reply.nodes]

mutual

/-- The frame of a reply has a line for each node, and the contents of its bulk strings. -/
theorem Derives.nodes_le {bytes : Bytes} {reply : Reply} :
    Derives bytes reply → 3 * reply.nodes + reply.payload ≤ bytes.length
  | .status _ | .error _ | .integer _ | .absentBulk _ _ | .absentArray _ _ => by
    simp only [Reply.nodes, Reply.payload, crlf, List.length_cons, List.length_append,
      List.length_nil]
    omega
  | @Derives.bulk text data _ _ => by
    have line := length_line_le .bulk text (data ++ crlf)
    rw [List.length_append] at line
    simp only [Reply.nodes, Reply.payload]
    omega
  | @Derives.array text elements items _ _ frames => by
    have line := length_line_le .array text elements
    have inside := frames.nodes_le
    simp only [Reply.nodes, Reply.payload]
    omega

theorem DerivesAll.nodes_le {bytes : Bytes} {items : List Reply} :
    DerivesAll bytes items →
      3 * Reply.nodesAmong items + Reply.payloadAmong items ≤ bytes.length
  | .nil => Nat.le_refl _
  | .cons first others => by
    have front := first.nodes_le
    have behind := others.nodes_le
    simp only [Reply.nodesAmong, Reply.payloadAmong, List.length_append]
    omega

end

theorem Reply.nodes_of_readHeader {ending : Ending} {input rest : Input} {reply : Reply}
    (read : readHeader ending input = (.ok (.complete reply), rest)) : reply.nodes = 1 := by
  obtain ⟨marker, text, behind, -, -, declared, -⟩ := readHeader_eq_ok_iff.1 read
  cases marker with
  | status | error =>
    cases declared
    rfl
  | integer =>
    simp only [readDeclared] at declared
    split at declared
    · cases declared
    · cases declared
      rfl
  | bulk =>
    simp only [readDeclared] at declared
    split at declared
    · cases declared
    · split at declared
      · next bulk =>
        cases declared
        rcases readBulk_eq_ok_iff.1 bulk with ⟨-, rfl, -⟩ | ⟨data, -, -, rfl, -⟩ <;> rfl
      · cases declared
  | array =>
    simp only [readDeclared] at declared
    split at declared
    · cases declared
    · split at declared
      · cases declared
        rfl
      · split at declared <;> cases declared

/-! ## The calls that read a reply -/

mutual

/-- A number of calls, the first and those it leads to, that read a reply from an input. -/
inductive Reading (ending : Ending) : Input → Nat → Except Error Reply × Input → Prop where
  | broken {input rest : Input} {error : Error}
      (header : readHeader ending input = (.error error, rest)) :
    Reading ending input 1 (.error error, rest)
  | complete {input rest : Input} {reply : Reply}
      (header : readHeader ending input = (.ok (.complete reply), rest)) :
    Reading ending input 1 (.ok reply, rest)
  | array {input inside rest : Input} {count calls : Nat} {items : List Reply}
      (header : readHeader ending input = (.ok (.elements count), inside))
      (elements : ReadingAll ending count inside calls (.ok items, rest)) :
    Reading ending input (calls + 1) (.ok (.array items), rest)
  | brokenInside {input inside rest : Input} {count calls : Nat} {error : Error}
      (header : readHeader ending input = (.ok (.elements count), inside))
      (elements : ReadingAll ending count inside calls (.error error, rest)) :
    Reading ending input (calls + 1) (.error error, rest)

/-- A number of calls that read as many replies as are declared, or up to the first that fails. -/
inductive ReadingAll (ending : Ending) :
    Nat → Input → Nat → Except Error (List Reply) × Input → Prop where
  | none {input : Input} : ReadingAll ending 0 input 0 (.ok [], input)
  | more {count calls calls' : Nat} {input middle rest : Input} {item : Reply}
      {items : List Reply} (first : Reading ending input calls (.ok item, middle))
      (others : ReadingAll ending count middle calls' (.ok items, rest)) :
    ReadingAll ending (count + 1) input (calls + calls') (.ok (item :: items), rest)
  | broken {count calls : Nat} {input rest : Input} {error : Error}
      (first : Reading ending input calls (.error error, rest)) :
    ReadingAll ending (count + 1) input calls (.error error, rest)
  | brokenLater {count calls calls' : Nat} {input middle rest : Input} {item : Reply}
      {error : Error} (first : Reading ending input calls (.ok item, middle))
      (others : ReadingAll ending count middle calls' (.error error, rest)) :
    ReadingAll ending (count + 1) input (calls + calls') (.error error, rest)

end

theorem Reply.length_lt_of_readFrom {ending : Ending} {input rest : Input} {reply : Reply}
    (read : Reply.readFrom ending input = (.ok reply, rest)) :
    rest.unread.length < input.unread.length := by
  have reads := Reply.read_unread ending input
  rw [read] at reads
  exact length_lt_of_read reads

theorem Reply.readingAll {ending : Ending} {limit : Nat}
    (single : ∀ {input : Input}, input.unread.length < limit →
      ∃ calls, Reading ending input calls (Reply.readFrom ending input))
    (count : Nat) {input : Input} (short : input.unread.length < limit) :
    ∃ calls, ReadingAll ending count input calls (Reply.readListFrom ending count input) := by
  induction count generalizing input with
  | zero =>
    rw [readListFrom_zero]
    exact ⟨0, .none⟩
  | succ count others =>
    obtain ⟨calls, first⟩ := single short
    rw [readListFrom_succ]
    rcases read : Reply.readFrom ending input with ⟨error | item, middle⟩ <;> rw [read] at first
    · exact ⟨calls, .broken first⟩
    · obtain ⟨calls', later⟩ := others (Nat.lt_trans (length_lt_of_readFrom read) short)
      dsimp only
      rcases list : Reply.readListFrom ending count middle with ⟨error | items, rest⟩ <;>
        rw [list] at later
      · exact ⟨calls + calls', .brokenLater first later⟩
      · exact ⟨calls + calls', .more first later⟩

/-- Whatever lengths are declared, and however arrays are nested, the calls that read a reply come to an
end. -/
theorem Reply.reading (ending : Ending) (input : Input) :
    ∃ calls, Reading ending input calls (Reply.readFrom ending input) := by
  induction length : input.unread.length using Nat.strong_induction_on generalizing input with
  | _ limit shorter =>
    rw [readFrom_eq]
    rcases header : readHeader ending input with ⟨error | reply | count, inside⟩
    · exact ⟨1, .broken header⟩
    · exact ⟨1, .complete header⟩
    · have fewer : inside.unread.length < limit := length ▸ length_lt_of_readHeader header
      obtain ⟨calls, elements⟩ :=
        readingAll (fun short => shorter _ short _ rfl) count fewer
      dsimp only
      rcases list : Reply.readListFrom ending count inside with ⟨error | items, rest⟩ <;>
        rw [list] at elements
      · exact ⟨calls + 1, .brokenInside header elements⟩
      · exact ⟨calls + 1, .array header elements⟩

/-! ## What calls consume -/

/-- What is known of calls by their result. If they succeed then each has read one node, and consumed three
bytes at least. Otherwise the last of them need not have consumed any. -/
def Paid {α : Type} (nodes : α → Nat) (input : Input) (calls : Nat) :
    Except Error α × Input → Prop
  | (.ok value, rest) => calls = nodes value ∧ Consumes (3 * calls) input rest
  | (.error _, rest) => Consumes (3 * (calls - 1)) input rest

mutual

theorem Reading.paid {ending : Ending} {input : Input} {calls : Nat}
    {out : Except Error Reply × Input} :
    Reading ending input calls out → Paid Reply.nodes input calls out
  | .broken header => Consumes.of_readHeader header
  | .complete header => ⟨(Reply.nodes_of_readHeader header).symm, .of_readHeader_ok header⟩
  | .array header elements => by
    obtain ⟨same, inside⟩ := elements.paid
    refine ⟨congrArg (· + 1) same, ((Consumes.of_readHeader_ok header).trans inside).mono ?_⟩
    omega
  | .brokenInside header elements => by
    have inside : Consumes _ _ _ := elements.paid
    refine ((Consumes.of_readHeader_ok header).trans inside).mono ?_
    omega

theorem ReadingAll.paid {ending : Ending} {count : Nat} {input : Input} {calls : Nat}
    {out : Except Error (List Reply) × Input} :
    ReadingAll ending count input calls out → Paid Reply.nodesAmong input calls out
  | .none => ⟨rfl, .refl input⟩
  | .more first others => by
    obtain ⟨same, front⟩ := first.paid
    obtain ⟨same', behind⟩ := others.paid
    refine ⟨congrArg₂ (· + ·) same same', (front.trans behind).mono ?_⟩
    omega
  | .broken first => first.paid
  | .brokenLater first others => by
    obtain ⟨-, front⟩ := first.paid
    have behind : Consumes _ _ _ := others.paid
    refine (front.trans behind).mono ?_
    omega

end

theorem Reading.consumes {ending : Ending} {input : Input} {calls : Nat}
    {out : Except Error Reply × Input} (reading : Reading ending input calls out) :
    Consumes (3 * (calls - 1)) input out.2 := by
  have paid := reading.paid
  rcases out with ⟨error | reply, rest⟩
  · exact paid
  · exact paid.2.mono (Nat.mul_le_mul_left 3 (Nat.sub_le calls 1))

theorem Reply.consumes_of_ok {ending : Ending} {input : Input} {reply : Reply}
    (read : (Reply.readFrom ending input).1 = .ok reply) :
    Consumes (3 * reply.nodes + reply.payload) input (Reply.readFrom ending input).2 := by
  rcases input with ⟨line, bytes⟩
  obtain ⟨front, whole, derived⟩ :=
    (readFrom_ok_iff_derives ending line bytes _ reply).1 ⟨read, rfl⟩
  refine ⟨⟨front, whole.symm⟩, ?_⟩
  have length := congrArg List.length whole
  rw [List.length_append] at length
  have enough := derived.nodes_le
  dsimp only at length ⊢
  omega

theorem Reply.consumes_of_protocol {ending : Ending} {input : Input} {violation : Violation}
    (read : (Reply.readFrom ending input).1 = .error (.protocol violation)) :
    Consumes 1 input (Reply.readFrom ending input).2 := by
  obtain ⟨calls, reading⟩ := Reply.reading ending input
  rcases out : Reply.readFrom ending input with ⟨result, rest⟩
  rw [out] at read reading
  obtain rfl : result = _ := read
  cases reading with
  | broken header => exact .of_readHeader_protocol header
  | brokenInside header elements =>
    have inside : Consumes _ _ _ := elements.paid
    refine ((Consumes.of_readHeader_ok header).trans inside).mono ?_
    omega

/-! ## Reading again and again -/

/-- An input after a number of turns at reading a reply from it, whatever came of them. -/
def Reply.inputAfter (ending : Ending) : Nat → Input → Input
  | 0, input => input
  | turns + 1, input => inputAfter ending turns (Reply.readFrom ending input).2

/-- What comes of a turn at reading a reply, after a number of turns before. -/
def Reply.attempt (ending : Ending) (turns : Nat) (input : Input) : Except Error Reply :=
  (Reply.readFrom ending (inputAfter ending turns input)).1

/-- Whoever reads replies goes on behind a reply and behind a violation of the protocol. -/
inductive GoesOn : Except Error Reply → Prop where
  | reply (reply : Reply) : GoesOn (.ok reply)
  | violation (violation : Violation) : GoesOn (.error (.protocol violation))

/-- What else reading can come to is that there is nothing more to read. -/
inductive IsOver : Except Error Reply → Prop where
  | closed : IsOver (.error .connectionClosed)
  | io (error : IoError) : IsOver (.error (.io error))

theorem Reply.goesOn_or_isOver (ending : Ending) (input : Input) :
    GoesOn (Reply.readFrom ending input).1 ∨ IsOver (Reply.readFrom ending input).1 := by
  rcases read : Reply.readFrom ending input with ⟨error | reply, rest⟩
  · have concerned := concernsConnection_of_readFrom read
    cases error with
    | io cause => exact Or.inr (.io cause)
    | protocol violation => exact Or.inl (.violation violation)
    | connectionClosed => exact Or.inr .closed
    | _ => cases concerned
  · exact Or.inl (.reply reply)

theorem GoesOn.consumes {ending : Ending} {input : Input}
    (goesOn : GoesOn (Reply.readFrom ending input).1) :
    Consumes 1 input (Reply.readFrom ending input).2 := by
  generalize result : (Reply.readFrom ending input).1 = came at goesOn
  cases goesOn with
  | reply reply =>
    have some := reply.nodes_pos
    exact (Reply.consumes_of_ok result).mono (by omega)
  | violation violation => exact Reply.consumes_of_protocol result

/-- Reading goes on for at most as many turns as there are bytes. -/
theorem Reply.isOver_within (ending : Ending) (input : Input) :
    ∃ last ≤ input.unread.length, (∀ turn < last, GoesOn (Reply.attempt ending turn input)) ∧
      IsOver (Reply.attempt ending last input) := by
  induction length : input.unread.length using Nat.strong_induction_on generalizing input with
  | _ limit shorter =>
    rcases goesOn_or_isOver ending input with goesOn | ends
    · have consumed := goesOn.consumes.length
      obtain ⟨last, few, before, ends⟩ :=
        shorter _ (by omega) (Reply.readFrom ending input).2 rfl
      refine ⟨last + 1, by omega, ?_, ends⟩
      rintro (_ | turn) early
      · exact goesOn
      · exact before turn (Nat.lt_of_succ_lt_succ early)
    · exact ⟨0, Nat.zero_le limit, fun turn early => absurd early (Nat.not_lt_zero turn), ends⟩

/-! ## Main statement -/

/-- **Reading ends and makes progress.** Whatever bytes there are, and however the stream ends, the calls that
read one reply come to an end, and there is at most one more than a third of the bytes that they consume.
They consume three bytes for each node of a reply that they read, besides the contents of its bulk strings,
and at least one byte in front of a violation of the protocol. So whoever reads on behind replies and behind
violations has come to the end of the stream, or to a failure of the connection, after no more turns than
there were bytes and one. -/
theorem Reply.reading_ends_and_progresses (ending : Ending) (input : Input) :
    (∃ calls, Reading ending input calls (Reply.readFrom ending input) ∧
      Consumes (3 * (calls - 1)) input (Reply.readFrom ending input).2) ∧
    (∀ reply, (Reply.readFrom ending input).1 = .ok reply → 0 < reply.nodes ∧
      Consumes (3 * reply.nodes + reply.payload) input (Reply.readFrom ending input).2) ∧
    (∀ violation, (Reply.readFrom ending input).1 = .error (.protocol violation) →
      Consumes 1 input (Reply.readFrom ending input).2) ∧
    ∃ last ≤ input.unread.length, (∀ turn < last, GoesOn (Reply.attempt ending turn input)) ∧
      IsOver (Reply.attempt ending last input) := by
  obtain ⟨calls, reading⟩ := Reply.reading ending input
  refine ⟨⟨calls, reading, reading.consumes⟩, fun reply read => ?_, fun violation read => ?_,
    isOver_within ending input⟩
  · exact ⟨reply.nodes_pos, consumes_of_ok read⟩
  · exact consumes_of_protocol read

end RespClient
