import RespClient.Proofs.ConnectionLaws
import RespClient.Proofs.ExchangeOutcome
import RespClient.Proofs.PoolViews

/-!
# Enrolled connections

Connections can be put on a list when they are made. For every type of connections, `Enrolled` is a type
of connections too: a `Roster` in the world has the address and the timeout of every connection that was
made for one, in order. Siblings are not on it, which are made for a connection. Nothing else changes
(`Enrolled.view`).

The events of a pool can be followed on its roster: `Event.enroll` is an event of a pool whose connections
are enrolled, in which borrowers and others do what they do without the roster. What is seen of it is the
event itself (`Event.enroll_plain`), and so for runs (`enrollAll_plain`).
-/

namespace RespClient

variable {C Net : Type}

/-- A connection that may be on the roster. -/
structure Enrolled (C : Type) where
  connection : C

/-- A network, and the connections that were made through it. -/
structure Roster (Net : Type) where
  net : Net
  /-- The address and the timeout of each connection that was made for an address, in order. -/
  entries : List (String × Duration) := []

namespace Roster

/-- Adds a connection. -/
def enter (address : String) (timeout : Duration) (roster : Roster Net) : Roster Net :=
  { roster with entries := roster.entries ++ [(address, timeout)] }

/-- A world with the network that it has, and the entries of a roster. -/
def under (roster : Roster Net) (world : World Net) : World (Roster Net) :=
  ⟨{ roster with net := world.net }, world.log⟩

end Roster

/-- The world with an empty roster. -/
def World.enrolling (world : World Net) : World (Roster Net) := ⟨{ net := world.net }, world.log⟩

namespace Enrolled

/-- A call that the roster takes no part in. -/
def call {ε α : Type} (action : Call C Net ε α) : Call (Enrolled C) (Roster Net) ε α :=
  fun enrolled world =>
    let (result, after, world') := action enrolled.connection (world.map Roster.net)
    (result, ⟨after⟩, world.net.under world')

instance [Connection C Net] : Connection (Enrolled C) (Roster Net) where
  create address timeout world :=
    let (connection, world') := Connection.create address timeout (world.map Roster.net)
    (⟨connection⟩, (world.net.enter address timeout).under world')
  ask name args := call (Connection.ask name args)
  send name args := call (Connection.send name args)
  receive := call Connection.receive
  owed enrolled := Connection.owed enrolled.connection
  probe := call Connection.probe
  isOpen enrolled := Connection.isOpen enrolled.connection
  isClosed enrolled := Connection.isClosed enrolled.connection
  close := call Connection.close
  sibling enrolled world :=
    let (result, world') := Connection.sibling enrolled.connection (world.map Roster.net)
    (result.map Enrolled.mk, world.net.under world')
  abandon enrolled world :=
    world.net.under (Connection.abandon enrolled.connection (world.map Roster.net))

variable [Connection C Net]

/-- Shows connections without the roster. -/
def view : Connection.View (Enrolled C) C where
  bare := Enrolled.connection
  net := Roster.net
  owed _ := rfl
  isOpen _ := rfl
  isClosed _ := rfl
  create _ _ _ := rfl
  ask _ _ _ _ := rfl
  send _ _ _ _ := rfl
  receive _ _ := rfl
  probe _ _ := rfl
  close _ _ := rfl
  sibling enrolled world := by
    rcases copies : Connection.sibling enrolled.connection (world.map Roster.net) with
      ⟨error | fresh, world'⟩
    · simp only [Connection.sibling, copies]
      rfl
    · simp only [Connection.sibling, copies]
      rfl
  abandon _ _ := rfl

theorem closes (closes : Connection.Closes C) : Connection.Closes (Enrolled C) :=
  fun enrolled world => closes enrolled.connection (world.map Roster.net)

/-- An exchange puts nothing on the roster. -/
theorem entries_exchange (commands : List Command) (enrolled : Enrolled C)
    (world : World (Roster Net)) :
    (exchange commands enrolled world).2.2.2.net.entries = world.net.entries :=
  exchange_keeps (fun _ (world' : World (Roster Net)) => world'.net.entries = world.net.entries)
    (fun _ _ {_ _} same => same) (fun {_ _} same => same) commands rfl

end Enrolled

/-! ## Pools on a roster -/

namespace Pool

/-- A pool of enrolled connections, in a world with a roster. -/
abbrev OnRoster (C Net : Type) := Pool (Enrolled C) × World (Roster Net)

namespace OnRoster

/-- The pool and the world without the roster. -/
def plain (state : OnRoster C Net) : Pool C × World Net :=
  (state.1.map Enrolled.connection, state.2.map Roster.net)

/-- What is on the roster. -/
def entries (state : OnRoster C Net) : List (String × Duration) := state.2.net.entries

end OnRoster

/-- The event of a pool of enrolled connections that is this event without the roster. -/
def Event.onRoster (roster : Roster Net) : Event C Net → Event (Enrolled C) (Roster Net)
  | .start => .start
  | .stop => .stop
  | .checkOut => .checkOut
  | .checkIn connection => .checkIn ⟨connection⟩
  | .borrow use keeps =>
    .borrow (fun enrolled world =>
      let (connection, world') := use enrolled.connection (world.map Roster.net)
      (⟨connection⟩, world.net.under world')) keeps
  | .exchange commands => .exchange commands
  | .elsewhere world => .elsewhere (roster.under world)

variable [Connection C Net]

/-- What an event leaves of a pool of enrolled connections. -/
def Event.enroll (event : Event C Net) (state : OnRoster C Net) : OnRoster C Net :=
  (event.onRoster state.2.net).perform state

/-- What events leave of a pool of enrolled connections. -/
def enrollAll (events : List (Event C Net)) (state : OnRoster C Net) : OnRoster C Net :=
  events.foldl (fun state event => event.enroll state) state

/-- Without the roster, an enrolled event is the event itself. -/
theorem Event.enroll_plain (event : Event C Net) (state : OnRoster C Net) :
    (event.enroll state).plain = event.perform state.plain := by
  obtain ⟨pool, world⟩ := state
  have lending := checkOut_map Enrolled.connection pool
  cases event with
  | start =>
    exact (congrArg Prod.snd (start_view Enrolled.view pool world)).symm
  | stop => exact (stop_view Enrolled.view pool world).symm
  | checkOut =>
    rcases lent : pool.checkOut with error | ⟨enrolled, pool'⟩
    all_goals
      rw [lent] at lending
      simp only [enroll, onRoster, perform, OnRoster.plain, lent, lending, Except.map]
  | checkIn connection => exact (checkIn_view Enrolled.view pool ⟨connection⟩ world).symm
  | borrow use keeps =>
    rcases lent : pool.checkOut with error | ⟨enrolled, pool'⟩
    · rw [lent] at lending
      simp only [enroll, onRoster, perform, OnRoster.plain, lent, lending, Except.map]
    · rw [lent] at lending
      simp only [enroll, onRoster, perform, OnRoster.plain, lent, lending, Except.map]
      cases keeps with
      | true => rfl
      | false => exact (checkIn_view Enrolled.view pool' _ _).symm
  | exchange commands =>
    exact (congrArg (fun out => out.2.2) (exchange_pool_view Enrolled.view commands pool world)).symm
  | elsewhere world' => rfl

/-- Without the roster, a run of enrolled events is the run of the pool. -/
theorem enrollAll_plain (events : List (Event C Net)) (state : OnRoster C Net) :
    (enrollAll events state).plain = run state.plain.1 state.plain.2 events := by
  induction events generalizing state with
  | nil => rfl
  | cons event later more =>
    refine (more (event.enroll state)).trans ?_
    rw [Event.enroll_plain]
    rfl

end Pool

end RespClient
