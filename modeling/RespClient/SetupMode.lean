import RespClient.Error

/-!
# Setup modes

How far the connections of a pool are set up when the pool opens.
-/

namespace RespClient

/-- How a pool sets its connections up. -/
inductive SetupMode where
  /-- A connection is dialed when it is first used. -/
  | lazy
  /-- A connection is dialed and probed at once, and the pool does not open if one fails. -/
  | aggressive
  deriving DecidableEq, Repr, Inhabited

namespace SetupMode

/-- The name of a mode. -/
def name : SetupMode → String
  | lazy => "lazy"
  | aggressive => "aggressive"

/-- The mode with a name. Upper and lower case letters of ASCII are not told apart. -/
def ofName (text : String) : Except Error SetupMode :=
  match String.ofList (text.toList.map Char.toLower) with
  | "lazy" => .ok lazy
  | "aggressive" => .ok aggressive
  | other => .error (.config (.unknownMode other))

end SetupMode

end RespClient
