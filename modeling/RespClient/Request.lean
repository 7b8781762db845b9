import RespClient.Command
import RespClient.Duration

/-!
# Requests

The supported commands with arguments of their own types. `Request.command` is the command that a
request is sent as: keys, fields and values go as they are, integers as decimal text, durations as
whole seconds, bits as `1` or `0`, and a list as one argument for each of its entries.
-/

namespace RespClient

/-- The operators that combine bitmaps. -/
inductive BitOperator where
  | and
  | or
  | xor
  | not
  deriving DecidableEq, Repr

/-- The name of an operator on the wire. -/
def BitOperator.name : BitOperator → String
  | and => "AND"
  | or => "OR"
  | xor => "XOR"
  | not => "NOT"

/-- What a server can be asked to do. -/
inductive Request where
  | exist (key : Bytes)
  | expire (key : Bytes) (after : Duration)
  | del (keys : List Bytes)
  | get (key : Bytes)
  | set (key value : Bytes)
  | setWithExpiry (key value : Bytes) (after : Duration)
  | mget (keys : List Bytes)
  | hget (key field : Bytes)
  | hset (key field value : Bytes)
  | hmget (key : Bytes) (fields : List Bytes)
  | hmset (key : Bytes) (pairs : List (Bytes × Bytes))
  | hgetall (key : Bytes)
  | hincrby (key field : Bytes) (delta : Int64)
  | hdel (key : Bytes) (fields : List Bytes)
  | bitop (operator : BitOperator) (target : Bytes) (sources : List Bytes)
  | getbit (key : Bytes) (offset : UInt64)
  | setbit (key : Bytes) (offset : UInt64) (bit : Bool)
  | bitcount (key : Bytes)
  deriving DecidableEq, Repr

namespace Request

/-- The name of the command for a request. -/
def name : Request → String
  | exist _ => "EXISTS"
  | expire .. => "EXPIRE"
  | del _ => "DEL"
  | get _ => "GET"
  | set .. => "SET"
  | setWithExpiry .. => "SETEX"
  | mget _ => "MGET"
  | hget .. => "HGET"
  | hset .. => "HSET"
  | hmget .. => "HMGET"
  | hmset .. => "HMSET"
  | hgetall _ => "HGETALL"
  | hincrby .. => "HINCRBY"
  | hdel .. => "HDEL"
  | bitop .. => "BITOP"
  | getbit .. => "GETBIT"
  | setbit .. => "SETBIT"
  | bitcount _ => "BITCOUNT"

/-- A duration as an argument: its whole seconds. -/
def secondsArg (duration : Duration) : Bytes := Decimal.ofNat duration.seconds

/-- A bit as an argument. -/
def bitArg (bit : Bool) : Bytes := utf8 (if bit then "1" else "0")

/-- The arguments of the command for a request. -/
def args : Request → List Bytes
  | exist key | get key | hgetall key | bitcount key => [key]
  | expire key after => [key, secondsArg after]
  | del keys | mget keys => keys
  | set key value => [key, value]
  | setWithExpiry key value after => [key, secondsArg after, value]
  | hget key field => [key, field]
  | hset key field value => [key, field, value]
  | hmget key fields | hdel key fields => key :: fields
  | hmset key pairs => key :: pairs.flatMap fun (field, value) => [field, value]
  | hincrby key field delta => [key, field, Decimal.ofInt delta.toInt]
  | bitop operator target sources => utf8 operator.name :: target :: sources
  | getbit key offset => [key, Decimal.ofNat offset.toNat]
  | setbit key offset bit => [key, Decimal.ofNat offset.toNat, bitArg bit]

/-- The command for a request. -/
def command (request : Request) : Command := { name := request.name, args := request.args }

end Request

end RespClient
