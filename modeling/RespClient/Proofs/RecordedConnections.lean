import RespClient.Proofs.ConnectionLaws
import RespClient.Proofs.ConnectionViews
import RespClient.Proofs.ExchangeOutcome

/-!
# Recorded connections

What passes over connections can be written down. For every type of connections, `Recorded` is a type
of connections too: a `Journal` in the world has the commands that were passed to connections, whether
they were accepted or not, and the replies that connections have given, both in order and over all
connections. Nothing else changes (`Recorded.view`).

`Course.recorded` is the main statement. It says what an exchange adds to the journal.
-/

namespace RespClient

open Connection (Sends Receives)

variable {C Net : Type}

/-- A connection whose calls are written down. -/
structure Recorded (C : Type) where
  connection : C

/-- A network, and what has passed over its connections. -/
structure Journal (Net : Type) where
  net : Net
  /-- The commands that were passed to connections. -/
  sent : List (String × List Bytes) := []
  /-- The replies that connections have given. -/
  given : List Reply := []

/-- The world with a journal in which nothing is written. -/
def World.recording (world : World Net) : World (Journal Net) := ⟨{ net := world.net }, world.log⟩

namespace Journal

/-- Writes down a command that is passed to a connection. -/
def send (name : String) (args : List Bytes) (journal : Journal Net) : Journal Net :=
  { journal with sent := journal.sent ++ [(name, args)] }

/-- Writes down a reply, if a connection gives one. -/
def give (result : Except Failure Reply) (journal : Journal Net) : Journal Net :=
  { journal with given := journal.given ++ result.toOption.toList }

end Journal

namespace Recorded

/-- A call, and what is written down for its result. -/
def call {ε α : Type} (action : Call C Net ε α) (note : Except ε α → Journal Net → Journal Net) :
    Call (Recorded C) (Journal Net) ε α :=
  fun recorded world =>
    let (result, after, world') := action recorded.connection (world.map Journal.net)
    (result, ⟨after⟩, ⟨note result { world.net with net := world'.net }, world'.log⟩)

/-- The world with the journal of another. -/
def keep (journal : Journal Net) (world : World Net) : World (Journal Net) :=
  ⟨{ journal with net := world.net }, world.log⟩

instance [Connection C Net] : Connection (Recorded C) (Journal Net) where
  create address timeout world :=
    let (connection, world') := Connection.create address timeout (world.map Journal.net)
    (⟨connection⟩, keep world.net world')
  ask name args := call (Connection.ask name args)
    fun result journal => (journal.send name args).give result
  send name args := call (Connection.send name args) fun _ => Journal.send name args
  receive := call Connection.receive Journal.give
  owed recorded := Connection.owed recorded.connection
  probe := call Connection.probe fun _ => id
  isOpen recorded := Connection.isOpen recorded.connection
  isClosed recorded := Connection.isClosed recorded.connection
  close := call Connection.close fun _ => id
  sibling recorded world :=
    let (result, world') := Connection.sibling recorded.connection (world.map Journal.net)
    (result.map Recorded.mk, keep world.net world')
  abandon recorded world :=
    keep world.net (Connection.abandon recorded.connection (world.map Journal.net))

variable [Connection C Net]

/-- Shows connections without what is written down. -/
def view : Connection.View (Recorded C) C where
  bare := Recorded.connection
  net := Journal.net
  owed _ := rfl
  isOpen _ := rfl
  isClosed _ := rfl
  create _ _ _ := rfl
  ask _ _ _ _ := rfl
  send _ _ _ _ := rfl
  receive _ _ := rfl
  probe _ _ := rfl
  close _ _ := rfl
  sibling recorded world := by
    rcases copies : Connection.sibling recorded.connection (world.map Journal.net) with
      ⟨error | fresh, world'⟩
    · simp only [Connection.sibling, copies]
      rfl
    · simp only [Connection.sibling, copies]
      rfl
  abandon _ _ := rfl

end Recorded

variable [Connection C Net]

/-- Recorded connections report what the others do. -/
theorem Connection.Discreet.recorded (discreet : Connection.Discreet C) :
    Connection.Discreet (Recorded C) where
  sent name args recorded world := discreet.sent name args recorded.connection (world.map Journal.net)
  received recorded world := discreet.received recorded.connection (world.map Journal.net)
  closed recorded world := discreet.closed recorded.connection (world.map Journal.net)
  copied recorded world := discreet.copied recorded.connection (world.map Journal.net)

/-! ## What is written down -/

/-- What a command asks of the server. -/
def Command.request (command : Command) : String × List Bytes := (command.name, command.args)

/-- The second world has more in its journal: these commands were sent, and these replies given. -/
structure World.Adds (world world' : World (Journal Net)) (commands : List Command)
    (replies : List Reply) : Prop where
  sent : world'.net.sent = world.net.sent ++ commands.map Command.request
  given : world'.net.given = world.net.given ++ replies

omit [Connection C Net] in
theorem World.Adds.trans {world world' world'' : World (Journal Net)}
    {commands commands' : List Command} {replies replies' : List Reply}
    (first : world.Adds world' commands replies) (second : world'.Adds world'' commands' replies') :
    world.Adds world'' (commands ++ commands') (replies ++ replies') where
  sent := by rw [second.sent, first.sent, List.map_append, List.append_assoc]
  given := by rw [second.given, first.given, List.append_assoc]

omit [Connection C Net] in
theorem World.Adds.nothing {world world' : World (Journal Net)}
    (sent : world'.net.sent = world.net.sent) (given : world'.net.given = world.net.given) :
    world.Adds world' [] [] := by
  refine ⟨?_, ?_⟩
  · rw [sent, List.map_nil, List.append_nil]
  · rw [given, List.append_nil]

omit [Connection C Net] in
/-- Reports are not written down in the journal. -/
theorem World.Adds.report {world world' : World (Journal Net)} {commands : List Command}
    {replies : List Reply} (adds : world.Adds world' commands replies) (entry : LogEntry) :
    world.Adds (world'.report entry) commands replies := ⟨adds.sent, adds.given⟩

namespace Recorded

variable {connection after : Recorded C} {world world' : World (Journal Net)}

/-- A command is written down when it is passed on, whatever comes of it. -/
theorem adds_of_send {command : Command} {result : Except Failure Unit}
    (sends : Connection.send command.name command.args connection world = (result, after, world')) :
    world.Adds world' [command] [] := by
  cases sends
  exact ⟨rfl, (List.append_nil _).symm⟩

/-- A reply is written down when it is given. -/
theorem adds_of_receive {result : Except Failure Reply}
    (receives : Connection.receive connection world = (result, after, world')) :
    world.Adds world' [] result.toOption.toList := by
  cases receives
  exact ⟨(List.append_nil _).symm, rfl⟩

theorem adds_of_close {result : Except Error Unit}
    (closes : Connection.close connection world = (result, after, world')) :
    world.Adds world' [] [] := by
  cases closes
  exact .nothing rfl rfl

theorem adds_of_sibling {result : Except Error (Recorded C)}
    (copies : Connection.sibling connection world = (result, world')) : world.Adds world' [] [] :=
  .nothing (congrArg (fun copy => copy.2.net.sent) copies).symm
    (congrArg (fun copy => copy.2.net.given) copies).symm

theorem adds_of_sends {commands : List Command}
    (sent : Sends commands connection world after world') : world.Adds world' commands [] := by
  induction sent with
  | nil => exact .nothing rfl rfl
  | cons sends more others => exact (adds_of_send sends).trans others

theorem adds_of_receives {replies : List Reply}
    (received : Receives replies connection world after world') :
    world.Adds world' [] replies := by
  induction received with
  | nil => exact .nothing rfl rfl
  | cons receives more others => exact (adds_of_receive receives).trans others

end Recorded

/-- An exchange passes on the commands that are accepted, and the next one if there is one; and it is
given its replies. -/
theorem Course.recorded {commands : List Command} {connection after : Recorded C}
    {world world' : World (Journal Net)} {count : Nat} {replies : List Reply}
    {result : Except Failure Unit}
    (course : Course commands connection world count replies result after world') :
    world.Adds world' (commands.take (count + 1)) replies := by
  cases course with
  | @unsent before later command failure next last world₁ world₂ split sent fails =>
    have first : commands.take (before.length + 1) = before ++ [command] := by
      rw [split, List.take_length_add_append]
      rfl
    rw [first]
    exact (Recorded.adds_of_sends sent).trans (Recorded.adds_of_send fails)
  | @unanswered _ failure first next last world₁ world₂ world₃ sent received short fails =>
    have all : world.Adds world' (commands ++ []) ([] ++ (replies ++ [])) :=
      (Recorded.adds_of_sends sent).trans
        ((Recorded.adds_of_receives received).trans (Recorded.adds_of_receive fails))
    rwa [List.append_nil, List.append_nil, ← List.take_of_length_le (Nat.le_succ commands.length)]
      at all
  | @finished _ first last world₁ world₂ sent received complete =>
    have all : world.Adds world' (commands ++ []) ([] ++ replies) :=
      (Recorded.adds_of_sends sent).trans (Recorded.adds_of_receives received)
    rwa [List.append_nil, ← List.take_of_length_le (Nat.le_succ commands.length)] at all

end RespClient
