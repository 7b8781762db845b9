import RespClient.Tcp.Session

/-!
# Mishaps of the transport

A `Network` takes all that is sent through it, and what happens to its connections is decided when they are
dialed. More can go wrong on the way: a host has no address, a connection is made and cannot be set up, only
some of the bytes leave, or reading fails. `Mishaps` says which of these strike a call, and `sendUnder`,
`receiveUnder`, `askUnder`, `probeUnder` and `closeUnder` are the calls of a session under mishaps.

A call is struck at most once, since it ends there. One that is not struck is the call itself
(`sendUnder_none` and so on).
-/

namespace RespClient.Tcp

/-- How dialing may fail whatever the network is like. -/
inductive DialMishap where
  /-- The host has no address. -/
  | unresolved
  /-- No connection is made. -/
  | unreached (cause : IoError)
  /-- A connection is made, and cannot be set up. -/
  | unusable (cause : IoError)
  deriving DecidableEq, Repr

/-- How queueing a frame may fail: this many of the bytes that have gathered leave, and no more. -/
structure WriteMishap where
  taken : Nat
  cause : IoError
  deriving DecidableEq, Repr

/-- How waiting for a reply may fail. -/
inductive ReceiveMishap where
  /-- This many of the bytes that have gathered leave, and no more. -/
  | sending (taken : Nat) (cause : IoError)
  | reading (cause : IoError)
  deriving DecidableEq, Repr

/-- The mishaps that strike a call if it comes so far. -/
structure Mishaps where
  dialing : Option DialMishap := none
  queueing : Option WriteMishap := none
  receiving : Option ReceiveMishap := none
  /-- The number of bytes that leave when the session is closed, if not all do. -/
  closing : Option Nat := none
  deriving DecidableEq, Repr

/-- Sends some of the frames that have gathered in a link. -/
def Link.leave (link : Link) (taken : Nat) (world : World Network) : World Network :=
  { world with net := world.net.send link.number (link.unsent.flatten.take taken) }

namespace DialMishap

/-- The error that is reported for a host without an address. -/
def noAddress (address : String) : Error :=
  .config (.other ("address '" ++ address ++ "' did not resolve"))

/-- The error of a session with this address. -/
def error (address : String) : DialMishap → Error
  | unresolved => noAddress address
  | unreached cause | unusable cause => .io cause

/-- The world after the mishap. A connection that cannot be set up was accepted all the same. -/
def strike (session : Session) (world : World Network) : DialMishap → World Network
  | unresolved | unreached _ => world
  | unusable _ => { world with net := (world.net.dial session.address session.timeout).2 }

end DialMishap

namespace ReceiveMishap

/-- What went wrong. -/
def cause : ReceiveMishap → IoError
  | sending _ cause | reading cause => cause

/-- The world after the mishap. -/
def strike (link : Link) (world : World Network) : ReceiveMishap → World Network
  | sending taken _ => link.leave taken world
  | reading _ => (Session.flush link world).2

end ReceiveMishap

namespace Session

/-! ## Calls -/

/-- Queues a command for sending. -/
def sendUnder (mishaps : Mishaps) (name : String) (args : List Bytes) (session : Session)
    (world : World Network) : Except Error Unit × Session × World Network :=
  match session.state, mishaps.dialing with
  | .idle, some mishap =>
    (.error (mishap.error session.address), { session with state := .closed },
      mishap.strike session world)
  | _, _ =>
    match session.link world, mishaps.queueing with
    | (.ok link, session, world), some mishap =>
      let link := { link with unsent := link.unsent ++ [frame name args] }
      (.error (.io mishap.cause),
        session.giveUp (.io mishap.cause) (link.leave mishap.taken world))
    | _, _ => session.send name args world

/-- Sends what has gathered and reads the next reply. -/
def receiveUnder (mishaps : Mishaps) (session : Session) (world : World Network) :
    Except Error Reply × Session × World Network :=
  match session.state, mishaps.receiving with
  | .connected link, some mishap =>
    if session.owed = 0 then session.receive world
    else (.error (.io mishap.cause), session.giveUp (.io mishap.cause) (mishap.strike link world))
  | _, _ => session.receive world

/-- Sends one command and reads its reply. -/
def askUnder (mishaps : Mishaps) (name : String) (args : List Bytes) (session : Session)
    (world : World Network) : Except Error Reply × Session × World Network :=
  if 0 < session.owed then
    (.error (.protocol (.repliesUnread session.owed)), session, world)
  else
    match session.sendUnder mishaps name args world with
    | (.error error, session, world) => (.error error, session, world)
    | (.ok (), session, world) => session.receiveUnder mishaps world

/-- Makes sure that the server answers, unless the session is connected already. -/
def probeUnder (mishaps : Mishaps) (session : Session) (world : World Network) :
    Except Error Unit × Session × World Network :=
  if session.isOpen then (.ok (), session, world)
  else
    match session.askUnder mishaps "PING" [] world with
    | (.error error, session, world) => (.error error, session, world)
    | (.ok (.status "PONG"), session, world) => (.ok (), session, world)
    | (.ok reply, session, world) =>
      let error := .unexpectedReply .pong reply.summary
      (.error error, session.giveUp error world)

/-- Sends what has gathered and closes the session, which never fails. -/
def closeUnder (mishaps : Mishaps) (session : Session) (world : World Network) :
    Session × World Network :=
  match session.state, mishaps.closing with
  | .connected link, some taken => (session.shutdown, link.leave taken world)
  | _, _ => session.close world

/-! ## Calls that no mishap strikes -/

theorem sendUnder_none (name : String) (args : List Bytes) (session : Session)
    (world : World Network) : session.sendUnder {} name args world = session.send name args world := by
  unfold sendUnder
  split
  · next none => cases none
  · split
    · next none => cases none
    · rfl

theorem receiveUnder_none (session : Session) (world : World Network) :
    session.receiveUnder {} world = session.receive world := by
  unfold receiveUnder
  split
  · next none => cases none
  · rfl

theorem askUnder_none (name : String) (args : List Bytes) (session : Session)
    (world : World Network) : session.askUnder {} name args world = session.ask name args world := by
  unfold askUnder ask
  split
  · rfl
  · rw [sendUnder_none]
    rcases session.send name args world with ⟨error | ⟨⟩, after, world'⟩
    · rfl
    · exact receiveUnder_none after world'

theorem probeUnder_none (session : Session) (world : World Network) :
    session.probeUnder {} world = session.probe world := by
  unfold probeUnder probe
  split
  · rfl
  · have same := askUnder_none "PING" [] session world
    generalize session.askUnder {} "PING" [] world = outcome at same ⊢
    subst same
    rfl

theorem closeUnder_none (session : Session) (world : World Network) :
    session.closeUnder {} world = session.close world := by
  unfold closeUnder
  split
  · next none => cases none
  · rfl

end Session

end RespClient.Tcp
