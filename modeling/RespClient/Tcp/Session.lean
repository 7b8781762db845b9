import RespClient.Tcp.Network
import RespClient.Wire.Frame

/-!
# Connections over TCP

A session with one server. It dials at its first use. Frames gather in the session and leave
together when a reply is waited for, or when the session is closed or dropped.

After a failure to dial, to read or to understand a reply the session is closed for good: the
replies can no longer be trusted to belong to the commands. Only two calls are refused without that:
executing a command while replies are owed, and waiting for a reply while none is.
-/

namespace RespClient.Tcp

/-- The two directions of a dialed connection: what is still to be read, and the frames that have
not left yet. -/
structure Link where
  number : Nat
  input : Input
  ending : Ending
  unsent : List Bytes
  deriving DecidableEq, Repr

/-- The stages of a session's life. -/
inductive State where
  | idle
  | connected (link : Link)
  | closed
  deriving DecidableEq, Repr

/-- A connection to one server, with the number of commands whose replies have not been read. -/
structure Session where
  address : String
  timeout : Duration
  state : State
  owed : Nat
  deriving DecidableEq, Repr

namespace Session

/-- A session that has not dialed yet. -/
def create (address : String) (timeout : Duration) : Session := ⟨address, timeout, .idle, 0⟩

/-- Whether the session is connected. -/
def isOpen (session : Session) : Bool :=
  match session.state with
  | .connected _ => true
  | _ => false

/-- Whether the session is closed. -/
def isClosed (session : Session) : Bool :=
  match session.state with
  | .closed => true
  | _ => false

/-- The session with its transport gone. -/
def shutdown (session : Session) : Session := { session with state := .closed, owed := 0 }

/-- The session after an error that makes it useless. -/
def giveUp (error : Error) (session : Session) (world : World Network) :
    Session × World Network :=
  (session.shutdown, world.report (.givenUp session.address error))

/-- Sends the frames that have gathered in a link. -/
def flush (link : Link) (world : World Network) : Link × World Network :=
  ({ link with unsent := [] },
    { world with net := world.net.send link.number link.unsent.flatten })

/-- Dials the server. -/
def dial (session : Session) (world : World Network) : Except Error Link × World Network :=
  match world.net.dial session.address session.timeout with
  | (.error error, net) => (.error error, { world with net })
  | (.ok channel, net) =>
    (.ok ⟨channel.number, { unread := channel.stream }, channel.ending, []⟩,
      { world with net }.report (.connected session.address))

/-- The link of the session, which an idle session dials for; a session that cannot is closed. -/
def link (session : Session) (world : World Network) :
    Except Error Link × Session × World Network :=
  match session.state with
  | .connected link => (.ok link, session, world)
  | .closed => (.error .connectionClosed, session, world)
  | .idle =>
    match session.dial world with
    | (.ok link, world) => (.ok link, { session with state := .connected link }, world)
    | (.error error, world) => (.error error, { session with state := .closed }, world)

/-- Queues a command for sending. -/
def send (name : String) (args : List Bytes) (session : Session) (world : World Network) :
    Except Error Unit × Session × World Network :=
  match session.link world with
  | (.error error, session, world) => (.error error, session, world)
  | (.ok link, session, world) =>
    let link := { link with unsent := link.unsent ++ [frame name args] }
    (.ok (), { session with state := .connected link, owed := session.owed + 1 }, world)

/-- Sends what has gathered and reads the next reply. -/
def receive (session : Session) (world : World Network) :
    Except Error Reply × Session × World Network :=
  if session.owed = 0 then (.error (.protocol .nothingPending), session, world)
  else
    match session.state with
    | .idle | .closed => (.error .connectionClosed, session, world)
    | .connected link =>
      let (link, world) := flush link world
      match Reply.readFrom link.ending link.input with
      | (.ok reply, input) =>
        (.ok reply,
          { session with
            state := .connected { link with input }
            owed := session.owed - 1 }, world)
      | (.error error, _) => (.error error, session.giveUp error world)

/-- Sends one command and reads its reply. -/
def ask (name : String) (args : List Bytes) (session : Session) (world : World Network) :
    Except Error Reply × Session × World Network :=
  if 0 < session.owed then
    (.error (.protocol (.repliesUnread session.owed)), session, world)
  else
    match session.send name args world with
    | (.error error, session, world) => (.error error, session, world)
    | (.ok (), session, world) => session.receive world

/-- Makes sure that the server answers, unless the session is connected already. -/
def probe (session : Session) (world : World Network) :
    Except Error Unit × Session × World Network :=
  if session.isOpen then (.ok (), session, world)
  else
    match session.ask "PING" [] world with
    | (.error error, session, world) => (.error error, session, world)
    | (.ok (.status "PONG"), session, world) => (.ok (), session, world)
    | (.ok reply, session, world) =>
      let error := .unexpectedReply .pong reply.summary
      (.error error, session.giveUp error world)

/-- Sends what has gathered when the session is dropped. -/
def abandon (session : Session) (world : World Network) : World Network :=
  match session.state with
  | .connected link => (flush link world).2
  | .idle | .closed => world

/-- Sends what has gathered and closes the session. -/
def close (session : Session) (world : World Network) : Session × World Network :=
  (session.shutdown, session.abandon world)

/-- A session with the same server that has not dialed yet. -/
def sibling (session : Session) : Session := create session.address session.timeout

/-- An outcome whose error goes to the caller. -/
def reported {α β : Type} (outcome : Except Error α × β) : Except Failure α × β :=
  (outcome.1.mapError .reported, outcome.2)

instance : Connection Session Network where
  create address timeout world := (create address timeout, world)
  ask name args session world := reported (session.ask name args world)
  send name args session world := reported (session.send name args world)
  receive session world := reported (session.receive world)
  owed := owed
  probe := probe
  isOpen := isOpen
  isClosed := isClosed
  close session world := (.ok (), session.close world)
  sibling session world := (.ok session.sibling, world)
  abandon := abandon

end Session

end RespClient.Tcp
