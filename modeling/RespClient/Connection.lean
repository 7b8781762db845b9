import RespClient.Duration
import RespClient.Log
import RespClient.Reply

/-!
# Connections

`Connection C Net` is what the pool and the queue ask of a type `C` of connections through a network
of type `Net`. A connection is owned by one holder at a time; a call on it takes the connection and
the world and gives both back, whether it succeeds or not.

Commands may be pipelined: any number of them is sent, then their replies are received in the same
order. Until then the connection owes the replies. Exchanging commands and replies may crash the
thread that does it; the other calls may only report an error.
-/

namespace RespClient

/-- What calls act on besides the connection itself: the network, and the log. -/
structure World (Net : Type) where
  net : Net
  log : Array LogEntry := #[]
  deriving Repr

/-- Adds a report to the log. -/
def World.report {Net : Type} (world : World Net) (entry : LogEntry) : World Net :=
  { world with log := world.log.push entry }

/-- A call on a connection: its outcome, and the connection and the world it leaves. -/
abbrev Call (C Net ε α : Type) := C → World Net → Except ε α × C × World Net

/-- The type `C` is a type of connections through networks of type `Net`. -/
class Connection (C : Type) (Net : outParam Type) where
  /-- A connection to an address, with a timeout. Nothing is sent yet. -/
  create : String → Duration → World Net → C × World Net
  /-- Sends one command and waits for its reply. -/
  ask : String → List Bytes → Call C Net Failure Reply
  /-- Sends a command and does not wait for its reply. -/
  send : String → List Bytes → Call C Net Failure Unit
  /-- Waits for the reply to the oldest command that has none. -/
  receive : Call C Net Failure Reply
  /-- The number of replies that have not been received. -/
  owed : C → Nat
  /-- Dials the server if that has not been done, and makes sure that it answers. -/
  probe : Call C Net Error Unit
  /-- Whether the server has been dialed and the connection is not closed. -/
  isOpen : C → Bool
  /-- Whether the connection was closed, or lost to a failure. -/
  isClosed : C → Bool
  /-- Gives the transport up. -/
  close : Call C Net Error Unit
  /-- A new connection to the same server, independent of this one. -/
  sibling : C → World Net → Except Error C × World Net
  /-- What becomes of a connection that its holder drops without closing it. -/
  abandon : C → World Net → World Net

end RespClient
