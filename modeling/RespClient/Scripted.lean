import RespClient.Connection
import RespClient.Text.Utf8

/-!
# Scripted connections

Connections that follow a script instead of reaching a server: the script of an address says what is
answered and when a connection fails. The `Stage` keeps the scripts, counts what they count, and
records each `Act` of a connection.
-/

namespace RespClient.Scripted

/-- How the connections to one address behave. What is absent never happens. -/
structure Script where
  /-- How often connections to the address can be opened. -/
  openLimit : Option Nat := none
  /-- How many siblings connections to the address can have. -/
  siblingLimit : Option Nat := none
  /-- How many replies a connection gives before it is lost. -/
  failReplyAfter : Option Nat := none
  /-- How many commands a connection takes before it is lost. -/
  failSendAfter : Option Nat := none
  /-- Whether closing a connection reports an error. -/
  closeFails : Bool := false
  /-- The name of the command that crashes whoever sends it. -/
  crashOn : Option String := none
  /-- The replies to commands, by name; other commands are echoed. -/
  replies : List (String × Reply) := []
  deriving DecidableEq, Repr, Inhabited

/-- What a connection does, with the number of the connection. -/
inductive Act where
  | create (session : Nat) (address : String) (timeout : Duration)
  | sibling (session fresh : Nat)
  | probe (session : Nat)
  | send (session : Nat) (name : String) (args : List Bytes)
  | receive (session : Nat)
  | close (session : Nat)
  deriving DecidableEq, Repr

/-- The scripts by address, and what has happened so far. -/
structure Stage where
  scripts : List (String × Script)
  /-- The addresses that were opened, once for each time. -/
  opened : List String := []
  /-- The addresses whose connections were given siblings, once for each time. -/
  copied : List String := []
  /-- The number of connections so far. -/
  created : Nat := 0
  /-- What the connections did, in order. -/
  acts : Array Act := #[]
  deriving DecidableEq, Repr, Inhabited

/-- The stages of a connection's life. -/
inductive Phase where
  | idle
  | opened
  | closed
  deriving DecidableEq, Repr

/-- A connection that follows the script of its address. -/
structure Session where
  number : Nat
  address : String
  script : Script
  phase : Phase := .idle
  /-- The commands whose replies have not been read, the oldest first. -/
  owed : List (String × List Bytes) := []
  /-- The number of commands taken. -/
  taken : Nat := 0
  /-- The number of replies given. -/
  replied : Nat := 0
  deriving DecidableEq, Repr

/-- The script of an address; without one nothing fails and every command is echoed. -/
def Stage.scriptAt (stage : Stage) (address : String) : Script :=
  (stage.scripts.lookup address).getD {}

/-- Whether `count` has come up to a limit. -/
def reaches (count : Nat) (limit : Option Nat) : Bool :=
  limit.any fun limit => limit ≤ count

/-- Records an act. -/
def record (act : Act) (world : World Stage) : World Stage :=
  { world with net.acts := world.net.acts.push act }

namespace Session

/-- The connection once it is closed or lost. -/
def lost (session : Session) : Session := { session with phase := .closed, owed := [] }

/-- A connection to an address. -/
def create (address : String) (timeout : Duration) (world : World Stage) :
    Session × World Stage :=
  let number := world.net.created
  ({ number, address, script := world.net.scriptAt address },
    record (.create number address timeout)
      { world with net.created := number + 1 })

/-- Takes a command. -/
def send (name : String) (args : List Bytes) (session : Session) (world : World Stage) :
    Except Failure Unit × Session × World Stage :=
  if session.phase = .closed then (.error (.reported .connectionClosed), session, world)
  else if session.script.crashOn = some name then
    (.error (.crashed (.other "scripted crash")), session, world)
  else if reaches session.taken session.script.failSendAfter then
    (.error (.reported (.io ⟨.brokenPipe, "broken pipe"⟩)), session.lost, world)
  else
    (.ok (),
      { session with
        phase := .opened
        taken := session.taken + 1
        owed := session.owed ++ [(name, args)] },
      record (.send session.number name args) world)

/-- The reply of a script to a command: the one it names, or the name with the first argument. -/
def replyTo (script : Script) (name : String) (args : List Bytes) : Reply :=
  (script.replies.lookup name).getD (.status (name ++ ":" ++ Utf8.lossy (args.headD [])))

/-- Gives the reply to the oldest command without one. -/
def receive (session : Session) (world : World Stage) :
    Except Failure Reply × Session × World Stage :=
  if session.phase = .closed then (.error (.reported .connectionClosed), session, world)
  else if reaches session.replied session.script.failReplyAfter then
    (.error (.reported .connectionClosed), session.lost, world)
  else
    match session.owed with
    | [] => (.error (.reported (.protocol .nothingPending)), session, world)
    | (name, args) :: owed =>
      (.ok (replyTo session.script name args),
        { session with owed, replied := session.replied + 1 },
        record (.receive session.number) world)

/-- Takes a command and gives the next reply. -/
def ask (name : String) (args : List Bytes) (session : Session) (world : World Stage) :
    Except Failure Reply × Session × World Stage :=
  match session.send name args world with
  | (.error failure, session, world) => (.error failure, session, world)
  | (.ok (), session, world) => session.receive world

/-- Opens the connection, if the script lets it. -/
def probe (session : Session) (world : World Stage) :
    Except Error Unit × Session × World Stage :=
  let world := record (.probe session.number) world
  match session.phase with
  | .closed => (.error .connectionClosed, session, world)
  | .opened => (.ok (), session, world)
  | .idle =>
    let before := world.net.opened.count session.address
    let world := { world with net.opened := session.address :: world.net.opened }
    if reaches before session.script.openLimit then
      (.error (.io ⟨.connectionRefused, "refused"⟩), session, world)
    else (.ok (), { session with phase := .opened }, world)

/-- Closes the connection. -/
def close (session : Session) (world : World Stage) :
    Except Error Unit × Session × World Stage :=
  if session.phase = .closed then (.ok (), session, world)
  else
    let world := record (.close session.number) world
    if session.script.closeFails then
      (.error (.io ⟨.other, "close failed"⟩), session.lost, world)
    else (.ok (), session.lost, world)

/-- A new connection to the same address, if the script lets it. -/
def sibling (session : Session) (world : World Stage) :
    Except Error Session × World Stage :=
  let before := world.net.copied.count session.address
  let world := { world with net.copied := session.address :: world.net.copied }
  if reaches before session.script.siblingLimit then
    (.error (.io ⟨.other, "clone refused"⟩), world)
  else
    let number := world.net.created
    (.ok { number, address := session.address, script := session.script },
      record (.sibling session.number number)
        { world with net.created := number + 1 })

instance : Connection Session Stage where
  create := create
  ask := ask
  send := send
  receive := receive
  owed session := session.owed.length
  probe := probe
  isOpen session := session.phase = .opened
  isClosed session := session.phase = .closed
  close := close
  sibling := sibling
  abandon _ world := world

end Session

end RespClient.Scripted
