import RespClient.Text.Quoted

/-!
# Replies

What a server answers to a command: nothing, a status, an integer, a bulk of bytes, an array of
replies, or an error. `Reply.summary` names a reply in a message and `Reply.describe` writes it out
in full.
-/

namespace RespClient

/-- A reply of the server. -/
inductive Reply where
  /-- The absent value. -/
  | nil
  /-- A line such as `OK` or `PONG`. -/
  | status (text : String)
  /-- A 64-bit integer. -/
  | integer (value : Int64)
  /-- A string of arbitrary bytes. -/
  | bulk (data : Bytes)
  /-- Replies in order. -/
  | array (items : List Reply)
  /-- The failure of a command. -/
  | error (text : String)
  deriving Repr, Inhabited

namespace Reply

/-- The coarse shapes of replies. -/
inductive Kind where
  | nil
  | scalar
  | multi
  | error
  deriving DecidableEq, Repr

/-- The shape of a reply. -/
def kind : Reply → Kind
  | nil => .nil
  | status _ | integer _ | bulk _ => .scalar
  | array _ => .multi
  | error _ => .error

/-- Whether a reply is the absent value. -/
def isNil : Reply → Bool
  | nil => true
  | _ => false

/-- Whether a reply is the failure of a command. -/
def isError : Reply → Bool
  | error _ => true
  | _ => false

/-- The text of a failure. -/
def error? : Reply → Option String
  | error text => some text
  | _ => none

/-! ## Comparing replies -/

mutual

/-- Decides whether two replies are the same. -/
def decEq : (first second : Reply) → Decidable (first = second)
  | .nil, .nil => .isTrue rfl
  | .status a, .status b => decidable_of_iff (a = b) (by simp)
  | .integer a, .integer b => decidable_of_iff (a = b) (by simp)
  | .bulk a, .bulk b => decidable_of_iff (a = b) (by simp)
  | .array a, .array b =>
    match decEqList a b with
    | .isTrue same => .isTrue (by rw [same])
    | .isFalse differ => .isFalse (by simpa using differ)
  | .error a, .error b => decidable_of_iff (a = b) (by simp)
  | .nil, .status _ | .nil, .integer _ | .nil, .bulk _ | .nil, .array _ | .nil, .error _
  | .status _, .nil | .status _, .integer _ | .status _, .bulk _ | .status _, .array _
  | .status _, .error _ | .integer _, .nil | .integer _, .status _ | .integer _, .bulk _
  | .integer _, .array _ | .integer _, .error _ | .bulk _, .nil | .bulk _, .status _
  | .bulk _, .integer _ | .bulk _, .array _ | .bulk _, .error _ | .array _, .nil
  | .array _, .status _ | .array _, .integer _ | .array _, .bulk _ | .array _, .error _
  | .error _, .nil | .error _, .status _ | .error _, .integer _ | .error _, .bulk _
  | .error _, .array _ => .isFalse nofun

/-- Decides whether two lists of replies are the same. -/
def decEqList : (first second : List Reply) → Decidable (first = second)
  | [], [] => .isTrue rfl
  | [], _ :: _ | _ :: _, [] => .isFalse nofun
  | a :: as, b :: bs =>
    match decEq a b, decEqList as bs with
    | .isTrue head, .isTrue tail => .isTrue (by rw [head, tail])
    | .isFalse differ, _ => .isFalse fun same => differ (List.cons.inj same).1
    | _, .isFalse differ => .isFalse fun same => differ (List.cons.inj same).2

end

instance : DecidableEq Reply := decEq

/-! ## Text of replies -/

/-- A reply as messages name it, without its content where that may be long. -/
def summary : Reply → String
  | nil => "nil"
  | status text => "status '" ++ text ++ "'"
  | integer value => s!"integer {value.toInt}"
  | bulk data => s!"bulk of {data.length} bytes"
  | array items => s!"array of {items.length} replies"
  | error text => "error '" ++ text ++ "'"

mutual

/-- A reply in full. -/
def describe : Reply → String
  | .nil => "Nil"
  | .status text => "Status(" ++ Quoted.text text ++ ")"
  | .integer value => s!"Integer({value.toInt})"
  | .bulk data => "Bulk(" ++ Quoted.bytes data ++ ")"
  | .array [] => "Array([])"
  | .array (first :: rest) => "Array([" ++ describe first ++ describeRest rest ++ "])"
  | .error text => "Error(" ++ Quoted.text text ++ ")"

/-- The further elements of an array in full. -/
def describeRest : List Reply → String
  | [] => ""
  | item :: rest => ", " ++ describe item ++ describeRest rest

end

end Reply

end RespClient
