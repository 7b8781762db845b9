import RespClient.Reply
import RespClient.Wire.Frame

/-!
# Commands

A command is a name with arguments, and the reply once the server has answered. Names and arguments
are sent as they are; a command without a name cannot be sent.
-/

namespace RespClient

/-- A command and its reply, if it has been executed. -/
structure Command where
  name : String
  args : List Bytes
  reply : Option Reply := none
  deriving DecidableEq, Repr, Inhabited

namespace Command

/-- Whether a command has no name. -/
def isEmpty (command : Command) : Bool := command.name.isEmpty

/-- Whether the server has answered a command. -/
def isAnswered (command : Command) : Bool := command.reply.isSome

/-- The failure with which the server answered. -/
def error? (command : Command) : Option String := command.reply.bind Reply.error?

/-- Asks whether the server answers. -/
def ping : Command := { name := "PING", args := [] }

/-- The command with the reply taken away, as before its execution. -/
def withoutReply (command : Command) : Command := { command with reply := none }

/-- The frame that sends the command. -/
def frame (command : Command) : Bytes := RespClient.frame command.name command.args

/-- The command on one line: its name and its arguments, separated by spaces. -/
def line (command : Command) : String :=
  command.name ++ String.join (command.args.map fun arg => " " ++ Utf8.lossy arg)

/-- The command in full, with the number of its arguments and with its reply. -/
def describe (command : Command) : String :=
  "BatchCommand \x7b name: " ++ Quoted.text command.name ++
    ", args: " ++ toString command.args.length ++ ", reply: " ++
    (match command.reply with
      | none => "None"
      | some reply => "Some(" ++ reply.describe ++ ")") ++ " \x7d"

end Command

end RespClient
