import RespClient.Command
import RespClient.Connection

/-!
# Pipelines

A pipeline is an ordered group of commands that is executed in one round trip: all commands are
sent, then all replies are received. `exchange` does so for a list of commands, and each reply goes
to its own command. A failure of the connection ends the exchange and leaves the commands after it
without a reply; the failure of a single command is a reply like any other.
-/

namespace RespClient

variable {C Net : Type} [Connection C Net]

/-! ## Exchanging commands for replies -/

/-- Sends commands, up to the first that cannot be sent. -/
def sendAll : List Command → Call C Net Failure Unit
  | [], connection, world => (.ok (), connection, world)
  | command :: rest, connection, world =>
    match Connection.send command.name command.args connection world with
    | (.error failure, connection, world) => (.error failure, connection, world)
    | (.ok (), connection, world) => sendAll rest connection world

/-- Gives commands their replies, up to the first that cannot be received. -/
def receiveAll : List Command → C → World Net →
    Except Failure Unit × List Command × C × World Net
  | [], connection, world => (.ok (), [], connection, world)
  | command :: rest, connection, world =>
    match Connection.receive connection world with
    | (.error failure, connection, world) =>
      (.error failure, command :: rest, connection, world)
    | (.ok reply, connection, world) =>
      let (result, rest, connection, world) := receiveAll rest connection world
      (result, { command with reply := some reply } :: rest, connection, world)

/-- Sends commands and receives their replies. -/
def roundTrip (commands : List Command) (connection : C) (world : World Net) :
    Except Failure Unit × List Command × C × World Net :=
  match sendAll commands connection world with
  | (.error failure, connection, world) => (.error failure, commands, connection, world)
  | (.ok (), connection, world) => receiveAll commands connection world

/-- Makes a round trip on a connection that owes no replies to earlier commands. -/
def exchange (commands : List Command) (connection : C) (world : World Net) :
    Except Failure Unit × List Command × C × World Net :=
  let unread := Connection.owed connection
  if 0 < unread then
    (.error (.reported (.protocol (.repliesUnreadBeforeBatch unread))),
      commands, connection, world)
  else roundTrip commands connection world

theorem exchange_of_settled {connection : C} (settled : Connection.owed connection = 0)
    (commands : List Command) (world : World Net) :
    exchange commands connection world = roundTrip commands connection world :=
  if_neg (Nat.not_lt.2 (Nat.le_of_eq settled))

/-! ## Groups of commands -/

/-- An ordered group of commands. -/
structure Pipeline where
  commands : List Command := []
  deriving DecidableEq, Repr, Inhabited

namespace Pipeline

/-- A group without commands, with room for a number of them. -/
def withRoom (count : Nat) : Except Failure Pipeline :=
  if maxRoom < count then .error (.crashed .capacityOverflow) else .ok {}

/-- Adds a command last. Its place is the number of commands before it. -/
def push (pipeline : Pipeline) (command : Command) : Nat × Pipeline :=
  (pipeline.commands.length, ⟨pipeline.commands ++ [command]⟩)

/-- The number of commands. -/
def length (pipeline : Pipeline) : Nat := pipeline.commands.length

/-- Whether there are no commands. -/
def isEmpty (pipeline : Pipeline) : Bool := pipeline.commands.isEmpty

/-- The command at a place, if there is one. -/
def get? (pipeline : Pipeline) (index : Nat) : Option Command := pipeline.commands[index]?

/-- The command at a place that the caller knows to exist; a place beyond the end crashes. -/
def command (pipeline : Pipeline) (index : Nat) : Except Failure Command :=
  match pipeline.commands[index]? with
  | some command => .ok command
  | none => .error (.crashed (.indexOutOfBounds pipeline.commands.length index))

/-- Executes the commands in one round trip. -/
def execute (pipeline : Pipeline) (connection : C) (world : World Net) :
    Except Failure Unit × Pipeline × C × World Net :=
  let (result, commands, connection, world) := exchange pipeline.commands connection world
  (result, ⟨commands⟩, connection, world)

/-- The commands in full. -/
def describe (pipeline : Pipeline) : String :=
  "BatchCommandSet \x7b commands: [" ++
    String.intercalate ", " (pipeline.commands.map Command.describe) ++ "] \x7d"

end Pipeline

end RespClient
