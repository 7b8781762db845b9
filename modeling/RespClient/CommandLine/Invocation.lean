import RespClient.CommandLine.Arguments
import RespClient.Pool.Config
import RespClient.Queue.Config
import RespClient.Request

/-!
# Invocations

What the arguments of the program ask for: the servers, the way to connect to them, and one
command, or a load of many.
-/

namespace RespClient.CommandLine

/-- A load of increments, spread over the fields of a hash. -/
structure Load where
  key : String
  count : Nat
  fields : Nat
  queue : Queue.Config
  deriving DecidableEq, Repr

/-- What is to be done. -/
inductive Task where
  /-- One command is sent, and its reply is shown. -/
  | one (command : Command)
  /-- A load of commands is sent. -/
  | load (load : Load)
  deriving DecidableEq, Repr

/-- A task, and the servers to do it with. -/
structure Invocation where
  pool : Pool.Config
  task : Task
  deriving DecidableEq, Repr

/-! ## Grammars -/

/-- The options in front of a subcommand. -/
def mainGrammar : Grammar where
  flags := [
    { name := "server", short := some 's', repeatable := true },
    { name := "pool-size", short := some 'p', accepts := isNumber },
    { name := "timeout-secs", short := some 't', accepts := isNumber },
    { name := "mode", short := some 'm', accepts := fun name => (SetupMode.ofName name).isOk }]
  versioned := true
  subcommands := ["get", "set", "del", "ping", "load", "help"]

/-- The options of a load. -/
def loadFlags : List Flag := [
  { name := "count", short := some 'c', accepts := isNumber },
  { name := "fields", short := some 'f', accepts := isNumber },
  { name := "workers", short := some 'w', accepts := isNumber },
  { name := "batch-size", short := some 'b', accepts := isNumber },
  { name := "queue-size", short := some 'q', accepts := isNumber }]

/-- The option that lets a value expire. -/
def ttlFlag : Flag := { name := "ttl", accepts := isNumber }

/-- What may follow each subcommand. -/
def taskGrammar : String → Grammar
  | "get" => { flags := [], operandLimit := some 1 }
  | "set" => { flags := [ttlFlag], operandLimit := some 2 }
  | "del" => { flags := [], operandLimit := none }
  | "load" => { flags := loadFlags, operandLimit := some 1 }
  | _ => { flags := [] }

/-! ## Meanings -/

/-- The load that was asked for. -/
def Load.ofGiven (key : String) (given : Given) : Load where
  key
  count := given.number "count" 10000
  fields := given.number "fields" 16
  queue.queueSize := given.number "queue-size" 1024
  queue.workers := given.number "workers" 4
  queue.batchSize := given.number "batch-size" 64

/-- The request to set a value, for a while if a number of seconds is given. -/
def setRequest (key value : String) : Option Nat → Request
  | none => .set (utf8 key) (utf8 value)
  | some seconds => .setWithExpiry (utf8 key) (utf8 value) (.ofSeconds seconds)

/-- The task of a subcommand, if it has the operands it needs. -/
def Task.ofGiven (subcommand : String) (given : Given) : Except Exit Task :=
  match subcommand, given.operands with
  | "get", [key] => .ok (.one (Request.get (utf8 key)).command)
  | "set", [key, value] =>
    let seconds? := (given.value? "ttl").map fun _ => given.number "ttl" 0
    .ok (.one (setRequest key value seconds?).command)
  | "del", keys => .ok (.one (Request.del (keys.map utf8)).command)
  | "ping", [] => .ok (.one .ping)
  | "load", [key] => .ok (.load (.ofGiven key given))
  | _, _ => .error .misuse

/-- The pool that was asked for. -/
def poolConfig (given : Given) : Pool.Config where
  capacity := given.number "pool-size" 4
  addresses :=
    match given.values "server" with
    | [] => ["127.0.0.1:6379"]
    | servers => servers
  timeout := .ofSeconds (given.number "timeout-secs" 0)
  mode :=
    match (given.value? "mode").map SetupMode.ofName with
    | some (.ok mode) => mode
    | _ => .lazy

/-- The outcome of asking for help about the program, or about one of its subcommands. -/
def helpAbout : List String → Exit
  | [] => .help
  | [topic] => if mainGrammar.subcommands.contains topic then .help else .misuse
  | _ => .misuse

/-- What the arguments of the program ask for. -/
def Invocation.ofArguments (arguments : List String) : Except Exit Invocation :=
  match mainGrammar.scan {} arguments with
  | .error exit => .error exit
  | .ok (_, none) => .error .misuse
  | .ok (_, some ("help", topics)) => .error (helpAbout topics)
  | .ok (given, some (subcommand, rest)) => do
    let (details, _) ← (taskGrammar subcommand).scan {} rest
    return { pool := poolConfig given, task := ← Task.ofGiven subcommand details }

end RespClient.CommandLine
