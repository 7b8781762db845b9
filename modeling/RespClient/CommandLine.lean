import RespClient.CommandLine.Invocation
import RespClient.Pool
import RespClient.Queue
import RespClient.Request
import RespClient.Tcp.Session

/-!
# The program

Runs one command over a pool of connections, or a load of commands over a queue, and says how it
ended. `run` is the whole program over a network; an `Outcome` has the exit code and what is
written.
-/

namespace RespClient

/-- The version of the library and of the program. -/
def version : String := "0.1.0"

namespace CommandLine

/-- How the program ends. -/
inductive Outcome where
  /-- The server answered. -/
  | answered (reply : Reply)
  /-- The server was not asked. -/
  | unanswered
  /-- So many commands were submitted. -/
  | loaded (count : Nat)
  /-- There was an error. -/
  | failed (error : Error)
  /-- The program crashed. -/
  | crashed (crash : Crash)
  /-- The arguments do not ask for anything to be done. -/
  | exited (exit : Exit)
  deriving DecidableEq, Repr

/-! ## What is written -/

mutual

/-- The lines that show a reply. The elements of an array are numbered and indented. -/
def replyLines (indent : String) : Reply → List String
  | .nil => [indent ++ "(nil)"]
  | .status text => [indent ++ text]
  | .integer value => [indent ++ s!"(integer) {value.toInt}"]
  | .bulk data => [indent ++ "\"" ++ Utf8.lossy data ++ "\""]
  | .error text => [indent ++ "(error) " ++ text]
  | .array items => itemLines indent 1 items

/-- The lines that show the elements of an array from a number on. -/
def itemLines (indent : String) (number : Nat) : List Reply → List String
  | [] => []
  | item :: rest =>
    (indent ++ toString number ++ ")") ::
      (replyLines (indent ++ "  ") item ++ itemLines indent (number + 1) rest)

end

/-- The text of lines. -/
def unlines (lines : List String) : String := String.join (lines.map (· ++ "\n"))

/-- How the program is used. -/
def usage : String := unlines [
  "Pooled and pipelined commands against a RESP2 server",
  "",
  "Usage: pipepool-cli [OPTIONS] <COMMAND>",
  "",
  "Commands:",
  "  get   Get a value by key",
  "  set   Set a key-value pair",
  "  del   Delete keys",
  "  ping  Ping the server",
  "  load  Increment hash fields asynchronously through a batch queue (single --server)",
  "  help  Print this message or the help of the given subcommand(s)",
  "",
  "Options:",
  "  -s, --server <SERVER>              Server address; repeat to round-robin over several " ++
    "[default: 127.0.0.1:6379]",
  "  -p, --pool-size <POOL_SIZE>        Connections held by the pool [default: 4]",
  "  -t, --timeout-secs <TIMEOUT_SECS>  Connect/read/write timeout in seconds (0 = default) " ++
    "[default: 0]",
  "  -m, --mode <MODE>                  lazy or aggressive connection setup [default: lazy]",
  "  -h, --help                         Print help",
  "  -V, --version                      Print version"]

namespace Outcome

/-- The exit code. -/
def code : Outcome → Nat
  | answered _ | unanswered | loaded _ | exited .help | exited .version => 0
  | failed _ => 1
  | exited .misuse => 2
  | crashed _ => 101

/-- What is written to the standard output. -/
def stdout : Outcome → String
  | answered reply => unlines (replyLines "" reply)
  | unanswered => "(no reply)\n"
  | loaded count => s!"{count} commands"
  | exited .version => "pipepool-cli " ++ version ++ "\n"
  | exited .help => usage
  | failed _ | crashed _ | exited .misuse => ""

/-- What is written to the standard error. -/
def stderr : Outcome → String
  | failed error => "error: " ++ error.message ++ "\n"
  | crashed crash => crash.message ++ "\n"
  | exited .misuse => usage
  | answered _ | unanswered | loaded _ | exited _ => ""

/-- The outcome of a failure. -/
def ofFailure : Failure → Outcome
  | .reported error => failed error
  | .crashed crash => crashed crash

end Outcome

/-! ## What is done -/

/-- A world around TCP. -/
abbrev TcpWorld := World Tcp.Network

/-- Executes one command over a pool. -/
def runCommand (config : Pool.Config) (command : Command) (world : TcpWorld) :
    Outcome × TcpWorld :=
  let pool : Pool Tcp.Session := { config }
  match pool.start world with
  | (.error failure, _, world) => (.ofFailure failure, world)
  | (.ok (), pool, world) =>
    let (result, commands, pool, world) := pool.exchange [command] world
    let (_, world) := pool.stop world
    match result with
    | .error failure => (.ofFailure failure, world)
    | .ok () =>
      match commands.head?.bind Command.reply with
      | some reply => (.answered reply, world)
      | none => (.unanswered, world)

/-- The command of a load with a number: it increments one of the fields by one. -/
def Load.command (load : Load) (number : Nat) : Command :=
  (Request.hincrby (utf8 load.key) (utf8 s!"f{number % max load.fields 1}") 1).command

/-- Submits the commands of a load in order, one by one. -/
def submitAll : List Command → Queue Tcp.Session → TcpWorld →
    Except Error Unit × Queue Tcp.Session × TcpWorld
  | [], queue, world => (.ok (), queue, world)
  | command :: rest, queue, world =>
    match queue.submit [command] world with
    | (.error error, queue, world) => (.error error, queue, world)
    | (.ok (), queue, world) => submitAll rest queue world

/-- Runs a load over a queue, against the one server that there is. -/
def runLoad (config : Pool.Config) (load : Load) (world : TcpWorld) : Outcome × TcpWorld :=
  match config.addresses with
  | [address] =>
    let queue : Queue Tcp.Session :=
      { config := load.queue, logger := some .keep,
        seed := some (.create address config.connectionTimeout) }
    match queue.start world with
    | (.error failure, _, world) => (.ofFailure failure, world)
    | (.ok (), queue, world) =>
      let commands := (List.range load.count).map load.command
      let (result, queue, world) := submitAll commands queue world
      let (_, world) := queue.stop world
      match result with
      | .error error => (.failed error, world)
      | .ok () => (.loaded load.count, world)
  | addresses => (.failed (.config (.notOneServer addresses.length)), world)

/-- Does what an invocation asks for. -/
def Invocation.run (invocation : Invocation) (world : TcpWorld) : Outcome × TcpWorld :=
  match invocation.task with
  | .one command => runCommand invocation.pool command world
  | .load load => runLoad invocation.pool load world

/-- The program: does what the arguments ask for, over a network. -/
def run (arguments : List String) (world : TcpWorld) : Outcome × TcpWorld :=
  match Invocation.ofArguments arguments with
  | .error exit => (.exited exit, world)
  | .ok invocation => invocation.run world

end CommandLine

end RespClient
