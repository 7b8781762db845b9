import RespClient.Proofs.CommandFrames
import RespClient.Request

/-!
# Requests do not collide

The frame of a command determines its words, and the words of a request determine the request, up to
what a duration has beyond whole seconds. For the second part the words are read back: `Request.read?`
takes a name and arguments, and finds the request in them from which they were made
(`Request.read?_command`). So there is one case for each kind of request, and none for a pair of them.
-/

namespace RespClient

/-! ## Arguments read back -/

namespace Request

/-- The duration of as many seconds as an argument says. -/
def secondsOf? (arg : Bytes) : Option Duration := (Decimal.digits? arg).map .ofSeconds

/-- The offset that an argument says. -/
def offsetOf? (arg : Bytes) : Option UInt64 := (Decimal.digits? arg).map .ofNat

/-- The bit that an argument says. -/
def bitOf? (arg : Bytes) : Option Bool := [true, false].find? fun bit => bitArg bit = arg

/-- The operator with a name. -/
def operatorOf? (arg : Bytes) : Option BitOperator :=
  [BitOperator.and, .or, .xor, .not].find? fun operator => utf8 operator.name = arg

/-- The pairs that arguments make two by two. -/
def pairsOf? : List Bytes → Option (List (Bytes × Bytes))
  | [] => some []
  | [_] => none
  | field :: value :: rest => (pairsOf? rest).map ((field, value) :: ·)

theorem secondsOf?_secondsArg (duration : Duration) :
    secondsOf? (secondsArg duration) = some (.ofSeconds duration.seconds) := by
  rw [secondsOf?, secondsArg, Decimal.digits?_ofNat, Option.map_some]

theorem offsetOf?_ofNat (offset : UInt64) :
    offsetOf? (Decimal.ofNat offset.toNat) = some offset := by
  rw [offsetOf?, Decimal.digits?_ofNat, Option.map_some, UInt64.ofNat_toNat]

theorem bitOf?_bitArg (bit : Bool) : bitOf? (bitArg bit) = some bit := by
  cases bit <;> decide

theorem operatorOf?_name (operator : BitOperator) :
    operatorOf? (utf8 operator.name) = some operator := by
  cases operator <;> decide

theorem pairsOf?_flatMap (pairs : List (Bytes × Bytes)) :
    pairsOf? (pairs.flatMap fun (field, value) => [field, value]) = some pairs := by
  induction pairs with
  | nil => rfl
  | cons pair others step =>
    rw [List.flatMap_cons, List.cons_append, List.cons_append, List.nil_append, pairsOf?, step,
      Option.map_some]

/-! ## Requests read back -/

/-- The request with its durations cut to whole seconds. -/
def inWholeSeconds : Request → Request
  | expire key after => expire key (.ofSeconds after.seconds)
  | setWithExpiry key value after => setWithExpiry key value (.ofSeconds after.seconds)
  | request => request

/-- The request that is made with a name and arguments. -/
def read? (name : String) (args : List Bytes) : Option Request :=
  match name, args with
  | "EXISTS", [key] => some (exist key)
  | "EXPIRE", [key, after] => (secondsOf? after).map (expire key)
  | "DEL", keys => some (del keys)
  | "GET", [key] => some (get key)
  | "SET", [key, value] => some (set key value)
  | "SETEX", [key, after, value] => (secondsOf? after).map (setWithExpiry key value)
  | "MGET", keys => some (mget keys)
  | "HGET", [key, field] => some (hget key field)
  | "HSET", [key, field, value] => some (hset key field value)
  | "HMGET", key :: fields => some (hmget key fields)
  | "HMSET", key :: pairs => (pairsOf? pairs).map (hmset key)
  | "HGETALL", [key] => some (hgetall key)
  | "HINCRBY", [key, field, delta] => (Decimal.int64? delta).map (hincrby key field)
  | "HDEL", key :: fields => some (hdel key fields)
  | "BITOP", operator :: target :: sources =>
    (operatorOf? operator).map fun operator => bitop operator target sources
  | "GETBIT", [key, offset] => (offsetOf? offset).map (getbit key)
  | "SETBIT", [key, offset, bit] => do return setbit key (← offsetOf? offset) (← bitOf? bit)
  | "BITCOUNT", [key] => some (bitcount key)
  | _, _ => none

/-- The words of a request read back as the request, in whole seconds. -/
theorem read?_command (request : Request) :
    read? request.command.name request.command.args = some request.inWholeSeconds := by
  cases request with
  | exist | del | get | set | mget | hget | hset | hmget | hgetall | hdel | bitcount => rfl
  | expire key after =>
    change (secondsOf? (secondsArg after)).map (expire key) = _
    rw [secondsOf?_secondsArg]
    rfl
  | setWithExpiry key value after =>
    change (secondsOf? (secondsArg after)).map (setWithExpiry key value) = _
    rw [secondsOf?_secondsArg]
    rfl
  | hmset key pairs =>
    change (pairsOf? _).map (hmset key) = _
    rw [pairsOf?_flatMap]
    rfl
  | hincrby key field delta =>
    change (Decimal.int64? _).map (hincrby key field) = _
    rw [Decimal.int64?_ofInt]
    rfl
  | bitop operator target sources =>
    change (operatorOf? _).map _ = _
    rw [operatorOf?_name]
    rfl
  | getbit key offset =>
    change (offsetOf? _).map (getbit key) = _
    rw [offsetOf?_ofNat]
    rfl
  | setbit key offset bit =>
    change (do return setbit key (← offsetOf? _) (← bitOf? _)) = _
    rw [offsetOf?_ofNat, bitOf?_bitArg]
    rfl

/-- What a duration has beyond whole seconds is not sent. -/
theorem command_inWholeSeconds (request : Request) :
    request.inWholeSeconds.command = request.command := by
  cases request <;> rfl

/-! ## Main statement -/

/-- **Requests do not collide.** Two requests are sent as the same bytes if and only if they are of
the same kind and have the same arguments, where durations count by whole seconds. -/
theorem frames_never_collide (first second : Request) :
    first.command.frame = second.command.frame ↔
      first.inWholeSeconds = second.inWholeSeconds := by
  constructor
  · intro same
    have words : first.command.words = second.command.words :=
      (Command.frame_append_inj (congrArg (· ++ []) same)).1
    obtain ⟨name, args⟩ := List.cons.inj words
    have read := read?_command first
    rw [utf8_injective name, args, read?_command] at read
    exact (Option.some.inj read).symm
  · intro same
    rw [← command_inWholeSeconds first, same, command_inWholeSeconds]

end Request

end RespClient
