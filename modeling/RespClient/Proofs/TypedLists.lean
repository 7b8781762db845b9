import RespClient.Reply.Typed

/-!
# Lists of typed values

An array is read element by element. It is read if each element is (`mapM_eq_ok_iff`), and its error is
that of the first element that is not (`mapM_eq_error_iff`). `ReadsInOrder` puts together what a caller
can rely on, for the array and for every reply that is none, and `ReadsInOrder.of_element` derives it
from the reading of a single element: what is asked of that is that nothing but the absent value is
read as absent, and nothing but the failure of a command is the server's error.
-/

namespace RespClient.Reply

section Elements

variable {α : Type} {read : Reply → Except Error α}

/-! ## Elements in order -/

theorem mapM_cons_of_ok {item : Reply} {others : List Reply} {value : α}
    (first : read item = .ok value) :
    (item :: others).mapM read = (others.mapM read).map (value :: ·) := by
  rw [List.mapM_cons, first]
  cases others.mapM read <;> rfl

theorem mapM_cons_of_error {item : Reply} {others : List Reply} {cause : Error}
    (first : read item = .error cause) : (item :: others).mapM read = .error cause := by
  rw [List.mapM_cons, first]
  rfl

/-- Elements are read exactly if each of them is, with its own value in its own place. -/
theorem mapM_eq_ok_iff {items : List Reply} {values : List α} :
    items.mapM read = .ok values ↔ items.map read = values.map .ok := by
  induction items generalizing values with
  | nil => cases values <;> simp [pure, Except.pure]
  | cons item others step =>
    cases first : read item with
    | error cause =>
      rw [mapM_cons_of_error first]
      cases values <;> simp [first]
    | ok value =>
      rw [mapM_cons_of_ok first]
      cases values with
      | nil => cases others.mapM read <;> simp [Except.map]
      | cons value' values =>
        rw [List.map_cons, List.map_cons, List.cons.injEq, first, ← step]
        cases others.mapM read <;> simp [Except.map]

/-- Elements are refused with the error of the first of them that is refused. -/
theorem mapM_eq_error_iff {items : List Reply} {cause : Error} :
    items.mapM read = .error cause ↔
      ∃ front item back, items = front ++ item :: back ∧
        (∀ earlier ∈ front, ∃ value, read earlier = .ok value) ∧ read item = .error cause := by
  induction items with
  | nil => simp [pure, Except.pure]
  | cons item others step =>
    cases first : read item with
    | error cause' =>
      rw [mapM_cons_of_error first]
      constructor
      · rintro ⟨⟩
        exact ⟨[], item, others, rfl, nofun, first⟩
      · rintro ⟨_ | ⟨earlier, front⟩, refusedItem, back, whole, before, refused⟩
        · cases whole
          cases first.symm.trans refused
          rfl
        · -- Nothing can be in front of the first element that is refused.
          cases whole
          obtain ⟨value, taken⟩ := before item (List.mem_cons_self ..)
          cases first.symm.trans taken
    | ok value =>
      have later : (item :: others).mapM read = .error cause ↔ others.mapM read = .error cause := by
        rw [mapM_cons_of_ok first]
        cases others.mapM read <;> simp [Except.map]
      rw [later, step]
      constructor
      · rintro ⟨front, refusedItem, back, rfl, before, refused⟩
        refine ⟨item :: front, refusedItem, back, rfl, ?_, refused⟩
        exact List.forall_mem_cons.2 ⟨⟨value, first⟩, before⟩
      · rintro ⟨_ | ⟨earlier, front⟩, refusedItem, back, whole, before, refused⟩
        · cases whole
          cases first.symm.trans refused
        · cases whole
          exact ⟨front, refusedItem, back, rfl, (List.forall_mem_cons.1 before).2, refused⟩

end Elements

/-! ## Lists of values that may be absent -/

section Lists

variable {α : Type} {read : Reply → Except Error (Option α)}

/-- What a reading of lists does, as told by the reading of a single element. -/
structure ReadsInOrder (read : Reply → Except Error (Option α))
    (readList : Reply → Except Error (List (Option α))) : Prop where
  /-- The absent value gives the empty list. An array gives a list if each of its elements can be
  read: one of its own length, with the value of each element in the place of the element. -/
  ok_iff : ∀ reply values, readList reply = .ok values ↔
    (reply = .nil ∧ values = []) ∨
      ∃ items, reply = .array items ∧ values.length = items.length ∧
        ∀ place (inItems : place < items.length) (inValues : place < values.length),
          read items[place] = .ok values[place]
  /-- An array that cannot be read has the error of its first element that cannot. Among the other
  replies the failure of a command is the server's error, and a scalar is not the array that was
  expected. -/
  error_iff : ∀ reply cause, readList reply = .error cause ↔
    (∃ front item back, reply = .array (front ++ item :: back) ∧
        (∀ earlier ∈ front, ∃ value, read earlier = .ok value) ∧ read item = .error cause) ∨
      (∃ text, reply = .error text ∧ cause = .server text) ∨
      (reply.kind = .scalar ∧ cause = .unexpectedReply .array reply.summary)
  /-- Only the absent value is read as absent. -/
  absent_iff : ∀ item, read item = .ok none ↔ item = .nil
  /-- Only the failure of a command is read as the server's error. -/
  server_iff : ∀ item text, read item = .error (.server text) ↔ item = .error text

/-- An array is read with the value of each element in the place of the element. -/
theorem elements_array_eq_ok_iff {items : List Reply} {values : List (Option α)} :
    elements read (.array items) = .ok values ↔ values.length = items.length ∧
      ∀ place (inItems : place < items.length) (inValues : place < values.length),
        read items[place] = .ok values[place] := by
  rw [elements, mapM_eq_ok_iff, List.ext_getElem_iff]
  simp [eq_comm]

/-- Lists are read in order if the reading of a single element keeps absent values and errors of the
server apart from all others. -/
theorem ReadsInOrder.of_element (absent : ∀ item, read item = .ok none ↔ item = .nil)
    (server : ∀ item text, read item = .error (.server text) ↔ item = .error text) :
    ReadsInOrder read (elements read) where
  ok_iff reply values := by
    cases reply with
    | nil => simp [elements, eq_comm]
    | array items => simp [elements_array_eq_ok_iff]
    | status text | integer value | bulk data | error text => simp [elements]
  error_iff reply cause := by
    cases reply with
    | nil => simp [elements, kind]
    | array items => simp [elements, mapM_eq_error_iff, kind]
    | error text => simp [elements, mismatch, kind, eq_comm]
    | status text | integer value | bulk data => simp [elements, mismatch, kind, eq_comm]
  absent_iff := absent
  server_iff := server

end Lists

/-! ## Bytes and integers -/

theorem toBytes_eq_ok_none_iff (reply : Reply) : reply.toBytes = .ok none ↔ reply = .nil := by
  cases reply <;> simp [toBytes]

theorem toBytes_eq_server_iff (reply : Reply) (text : String) :
    reply.toBytes = .error (.server text) ↔ reply = .error text := by
  cases reply <;> simp [toBytes, mismatch]

theorem toInt64_eq_ok_none_iff (reply : Reply) : reply.toInt64 = .ok none ↔ reply = .nil := by
  cases reply with
  | bulk data =>
    simp only [toInt64, integerOfBulk]
    cases Decimal.int64? data <;> simp [Except.map]
  | nil | status text | integer value | array items | error text => simp [toInt64]

theorem toInt64_eq_server_iff (reply : Reply) (text : String) :
    reply.toInt64 = .error (.server text) ↔ reply = .error text := by
  cases reply with
  | bulk data =>
    simp only [toInt64, integerOfBulk]
    cases Decimal.int64? data <;> simp [Except.map]
  | nil | status text | integer value | array items | error text => simp [toInt64, mismatch]

/-! ## Main statement -/

/-- **Lists of bytes and lists of integers are read in order.** Each is read of the absent value, as
the empty list, and of an array of which each element is read, with every value in the place of its
element and none but the absent element without a value. Otherwise the first element that cannot be
read gives the error, or the reply itself if it is no array. -/
theorem lists_read_in_order :
    ReadsInOrder toBytes toBytesList ∧ ReadsInOrder toInt64 toInt64List :=
  ⟨.of_element toBytes_eq_ok_none_iff toBytes_eq_server_iff,
    .of_element toInt64_eq_ok_none_iff toInt64_eq_server_iff⟩

/-- Values with a hole keep their places, and a failure among them is not a hole. -/
example : (array [.bulk [0x31], .nil, .integer 100]).toInt64List = .ok [some 1, none, some 100] ∧
    (array [.bulk [0x31], .error "ERR", .nil]).toInt64List = .error (.server "ERR") := by
  exact ⟨rfl, rfl⟩

end RespClient.Reply
