import RespClient.Proofs.PoolOpening
import RespClient.Proofs.SessionTraffic

/-!
# Watched sessions

A dial in vain leaves no trace in what a network has accepted and what was sent through it. To tell whom
a program has dialed, sessions can be watched: `Watched` is a type of connections that makes the calls of
sessions, and a `Watch` in the world has the addresses that were dialed, in order, whether somebody answered
or not. Nothing else changes (`Watched.view`).

`Operation.dials` says which calls dial. It is right about them: a call changes the network as its dial does,
if it dials, and otherwise only sends (`sends_perform`). Whether a call dials depends on its session alone, so
that it dials in any network what it dials in one where every server accepts.
-/

namespace RespClient.Tcp

namespace Session

/-! ## Calls that dial -/

/-- The address that a session dials when it needs a link, if it has to dial. -/
def dialsForLink (session : Session) : List String :=
  match session.state with
  | .idle => [session.address]
  | .connected _ | .closed => []

/-- The address that a call on a session dials, if it dials one. -/
def Operation.dials (session : Session) : Operation → List String
  | .ask .. => if 0 < session.owed then [] else session.dialsForLink
  | .send .. => session.dialsForLink
  | .probe => if session.isOpen || 0 < session.owed then [] else session.dialsForLink
  | .receive | .close => []

/-- The network once these addresses have been dialed by a session. -/
def dialedAfter (session : Session) (dials : List String) (net : Network) : Network :=
  dials.foldl (fun net address => (net.dial address session.timeout).2) net

/-- Apart from what was sent, the second network is the first one. -/
def Sends (net net' : Network) : Prop := ∃ sent, net' = { net with sent }

theorem Sends.refl (net : Network) : Sends net net := ⟨net.sent, rfl⟩

theorem sends_send (net : Network) (number : Nat) (bytes : Bytes) :
    Sends net (net.send number bytes) := by
  unfold Network.send
  split
  · exact .refl net
  · exact ⟨_, rfl⟩

variable {session : Session} {world : World Network}

theorem net_dial (session : Session) (world : World Network) :
    (session.dial world).2.net = (world.net.dial session.address session.timeout).2 := by
  unfold dial
  rcases world.net.dial session.address session.timeout with ⟨error | channel, net⟩ <;> rfl

theorem net_send (name : String) (args : List Bytes) (session : Session) (world : World Network) :
    (session.send name args world).2.2.net = session.dialedAfter session.dialsForLink world.net := by
  have dials := session.net_dial world
  rcases send_cases name args session world with
    ⟨link, stage, out⟩ | ⟨stage, out⟩ | ⟨link, world', stage, dialed, out⟩ |
      ⟨error, world', stage, dialed, out⟩
  all_goals rw [out, dialedAfter, dialsForLink, stage]
  · rfl
  · rfl
  · rw [dialed] at dials
    exact dials
  · rw [dialed] at dials
    exact dials

theorem sends_receive (session : Session) (world : World Network) :
    Sends world.net (session.receive world).2.2.net := by
  rcases receive_cases session world with
    ⟨-, out⟩ | ⟨-, -, out⟩ | ⟨link, reply, input, -, -, -, out⟩ | ⟨link, error, input, -, -, -, out⟩
  all_goals rw [out]
  · exact .refl _
  · exact .refl _
  · exact sends_send ..
  · exact sends_send ..

theorem sends_ask (name : String) (args : List Bytes) (session : Session) (world : World Network) :
    Sends (session.dialedAfter ((Operation.ask name args).dials session) world.net)
      (session.ask name args world).2.2.net := by
  have sends := net_send name args session world
  rcases ask_cases name args session world with
    ⟨owes, out⟩ | ⟨error, after, world', none, fails, out⟩ | ⟨after, world', none, sent, out⟩
  · rw [out, Operation.dials, if_pos owes]
    exact .refl _
  · rw [out, Operation.dials, if_neg (Nat.not_lt.2 (Nat.le_of_eq none)), ← sends, fails]
    exact .refl _
  · rw [out, Operation.dials, if_neg (Nat.not_lt.2 (Nat.le_of_eq none)), ← sends, sent]
    exact sends_receive after world'

/-- A call changes the network as its dial does, if it dials, and sends something at most. -/
theorem sends_perform (operation : Operation) (session : Session) (world : World Network) :
    Sends (session.dialedAfter (operation.dials session) world.net)
      (operation.perform session world).2.net := by
  cases operation with
  | ask name args => exact sends_ask name args session world
  | send name args =>
    rw [Operation.perform, net_send]
    exact .refl _
  | receive => exact sends_receive session world
  | close =>
    change Sends world.net (session.abandon world).net
    unfold abandon
    split
    · exact sends_send ..
    · exact .refl _
    · exact .refl _
  | probe =>
    have asks := sends_ask "PING" [] session world
    rcases probe_cases session world with
      ⟨opened, out⟩ | ⟨error, after, world', notOpen, fails, out⟩ |
        ⟨after, world', notOpen, pong, out⟩ | ⟨reply, after, world', notOpen, -, other, out⟩
    · rw [Operation.perform, out, Operation.dials, opened, Bool.true_or, if_pos rfl]
      exact .refl _
    all_goals
      have same : Operation.probe.dials session = (Operation.ask "PING" []).dials session := by
        simp only [Operation.dials, notOpen, Bool.false_or, decide_eq_true_eq]
      rw [same, Operation.perform, out]
    · rwa [fails] at asks
    · rwa [pong] at asks
    · rwa [other] at asks

end Session

/-! ## Sessions that are watched -/

/-- A session whose dials are written down. -/
structure Watched where
  session : Session

/-- A network, and the addresses that were dialed. -/
structure Watch where
  net : Network
  /-- The addresses that were dialed, in order. -/
  dialed : List String := []

/-- The world in which nothing has been dialed yet. -/
def watching (world : World Network) : World Watch := ⟨{ net := world.net }, world.log⟩

namespace Watched

open Session (Operation)

/-- A call, and what it dials. -/
def call {ε α : Type} (operation : Operation) (action : Call Session Network ε α) :
    Call Watched Watch ε α :=
  fun watched world =>
    let (result, after, world') := action watched.session (world.map Watch.net)
    let dialed := world.net.dialed ++ operation.dials watched.session
    (result, ⟨after⟩, ⟨{ net := world'.net, dialed }, world'.log⟩)

instance : Connection Watched Watch where
  create address timeout world := (⟨.create address timeout⟩, world)
  ask name args := call (.ask name args) (Connection.ask name args)
  send name args := call (.send name args) (Connection.send name args)
  receive := call .receive Connection.receive
  owed watched := Connection.owed watched.session
  probe := call .probe Connection.probe
  isOpen watched := Connection.isOpen watched.session
  isClosed watched := Connection.isClosed watched.session
  close := call .close Connection.close
  sibling watched world := (.ok ⟨watched.session.sibling⟩, world)
  abandon watched world :=
    let world' := watched.session.abandon (world.map Watch.net)
    ⟨{ world.net with net := world'.net }, world'.log⟩

/-- Shows sessions without what is written down. -/
def view : Connection.View Watched Session where
  bare := Watched.session
  net := Watch.net
  owed _ := rfl
  isOpen _ := rfl
  isClosed _ := rfl
  create _ _ _ := rfl
  ask _ _ _ _ := rfl
  send _ _ _ _ := rfl
  receive _ _ := rfl
  probe _ _ := rfl
  close _ _ := rfl
  sibling _ _ := rfl
  abandon _ _ := rfl

theorem closes : Connection.Closes Watched := fun watched world =>
  Session.laws.closes watched.session (world.map Watch.net)

end Watched

end RespClient.Tcp
