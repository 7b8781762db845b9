import Mathlib.Data.List.Forall2
import RespClient.Pipeline
import RespClient.Proofs.SessionRun
import RespClient.Scripted

/-!
# Laws of pipelining

What is assumed of connections whose commands are pipelined. A connection has an `Account`: it
issues a ticket for every command that it accepts, and redeems the oldest ticket with every reply
that it gives. `Account.Lawful` says so, and that a connection that fails while it owes replies is
closed and owes nothing any more.

`Sends` and `Receives` are calls that succeed one after the other; `Account.Lawful.sends` and
`Account.Lawful.receives` say what such calls do to an account. Sessions over TCP and scripted
sessions keep lawful accounts (`Tcp.Session.account_lawful`, `Scripted.Session.account_lawful`).
-/

namespace RespClient.Connection

variable {C Net Ticket : Type}

/-! ## Accounts -/

/-- How connections keep account of the replies that they owe. -/
structure Account (C Ticket : Type) where
  /-- The connection is in order, and owes the replies of these tickets, the oldest first. -/
  Owes : C → List Ticket → Prop
  /-- The ticket is for a command with this name and these arguments. -/
  IssuedFor : Ticket → String → List Bytes → Prop
  /-- The reply is the one to the command of the ticket. -/
  Redeems : Reply → Ticket → Prop

variable [Connection C Net]

/-- What is assumed of an account. Nothing is assumed of calls that crash. -/
structure Account.Lawful (account : Account C Ticket) : Prop where
  owed_eq : ∀ {connection : C} {tickets : List Ticket},
    account.Owes connection tickets → owed connection = tickets.length
  settled : ∀ {connection : C}, owed connection = 0 → account.Owes connection []
  /-- A command that is accepted adds a ticket. -/
  accepted : ∀ {connection after : C} {world world' : World Net} {tickets : List Ticket}
    {name : String} {args : List Bytes},
    account.Owes connection tickets →
    send name args connection world = (.ok (), after, world') →
    ∃ ticket, account.IssuedFor ticket name args ∧ account.Owes after (tickets ++ [ticket])
  /-- A reply that is given redeems the oldest ticket. -/
  redeemed : ∀ {connection after : C} {world world' : World Net} {tickets : List Ticket}
    {reply : Reply},
    account.Owes connection tickets →
    receive connection world = (.ok reply, after, world') →
    ∃ ticket rest, tickets = ticket :: rest ∧ account.Redeems reply ticket ∧
      account.Owes after rest
  /-- A connection that fails to accept a command owes nothing, and is closed if it did. -/
  refused : ∀ {connection after : C} {world world' : World Net} {tickets : List Ticket}
    {name : String} {args : List Bytes} {error : Error},
    account.Owes connection tickets →
    send name args connection world = (.error (.reported error), after, world') →
    owed after = 0 ∧ (tickets ≠ [] → isClosed after = true)
  /-- A connection that fails to give a reply that it owes is closed, and owes nothing. -/
  lost : ∀ {connection after : C} {world world' : World Net} {tickets : List Ticket}
    {error : Error},
    account.Owes connection tickets → tickets ≠ [] →
    receive connection world = (.error (.reported error), after, world') →
    owed after = 0 ∧ isClosed after = true

/-! ## Calls that succeed one after the other -/

/-- The connection accepts these commands in order. -/
inductive Sends : List Command → C → World Net → C → World Net → Prop where
  | nil {connection : C} {world : World Net} : Sends [] connection world connection world
  | cons {command : Command} {rest : List Command} {connection next last : C}
      {world world' world'' : World Net}
      (sends : send command.name command.args connection world = (.ok (), next, world'))
      (more : Sends rest next world' last world'') :
    Sends (command :: rest) connection world last world''

/-- The connection gives these replies in order. -/
inductive Receives : List Reply → C → World Net → C → World Net → Prop where
  | nil {connection : C} {world : World Net} : Receives [] connection world connection world
  | cons {reply : Reply} {rest : List Reply} {connection next last : C}
      {world world' world'' : World Net}
      (receives : receive connection world = (.ok reply, next, world'))
      (more : Receives rest next world' last world'') :
    Receives (reply :: rest) connection world last world''

namespace Account.Lawful

variable {account : Account C Ticket} {connection after : C} {world world' : World Net}
  {tickets : List Ticket}

/-- Commands that are accepted add a ticket each, in order. -/
theorem sends (laws : account.Lawful) {commands : List Command}
    (owes : account.Owes connection tickets)
    (sent : Sends commands connection world after world') :
    ∃ issued : List Ticket,
      List.Forall₂ (fun ticket command => account.IssuedFor ticket command.name command.args)
        issued commands ∧
      account.Owes after (tickets ++ issued) := by
  induction sent generalizing tickets with
  | nil => exact ⟨[], .nil, by rwa [List.append_nil]⟩
  | cons sends more others =>
    obtain ⟨ticket, isFor, owes'⟩ := laws.accepted owes sends
    obtain ⟨issued, areFor, owes''⟩ := others owes'
    refine ⟨ticket :: issued, .cons isFor areFor, ?_⟩
    rwa [List.append_assoc] at owes''

/-- Replies that are given redeem the oldest tickets, in order. -/
theorem receives (laws : account.Lawful) {replies : List Reply}
    (owes : account.Owes connection tickets)
    (received : Receives replies connection world after world') :
    ∃ old rest, tickets = old ++ rest ∧ List.Forall₂ account.Redeems replies old ∧
      account.Owes after rest := by
  induction received generalizing tickets with
  | nil => exact ⟨[], tickets, rfl, .nil, owes⟩
  | cons receives more others =>
    obtain ⟨ticket, later, rfl, redeems, owes'⟩ := laws.redeemed owes receives
    obtain ⟨old, rest, rfl, redeem, owes''⟩ := others owes'
    exact ⟨ticket :: old, rest, rfl, .cons redeems redeem, owes''⟩

end Account.Lawful

/-- A command, with the reply that will come for it if one does. -/
structure Promise where
  name : String
  args : List Bytes
  reply? : Option Reply

end RespClient.Connection

namespace RespClient

open Connection (Account Promise)

/-! ## Sessions over TCP -/

/-- The next replies in a stream, and nothing from the first on that cannot be read. -/
def upcoming (ending : Ending) : Nat → Bytes → List (Option Reply)
  | 0, _ => []
  | count + 1, bytes =>
    match Reply.read ending bytes with
    | (.ok reply, rest) => some reply :: upcoming ending count rest
    | (.error _, _) => List.replicate (count + 1) none

theorem upcoming_of_ok {ending : Ending} {bytes rest : Bytes} {reply : Reply}
    (read : Reply.read ending bytes = (.ok reply, rest)) (count : Nat) :
    upcoming ending (count + 1) bytes = some reply :: upcoming ending count rest := by
  rw [upcoming, read]

theorem upcoming_of_error {ending : Ending} {bytes rest : Bytes} {error : Error}
    (read : Reply.read ending bytes = (.error error, rest)) (count : Nat) :
    upcoming ending count bytes = List.replicate count none := by
  cases count with
  | zero => rfl
  | succ count => rw [upcoming, read]

theorem upcoming_succ (ending : Ending) (count : Nat) (bytes : Bytes) :
    ∃ last, upcoming ending (count + 1) bytes = upcoming ending count bytes ++ [last] := by
  induction count generalizing bytes with
  | zero =>
    rcases read : Reply.read ending bytes with ⟨error | reply, rest⟩
    · exact ⟨none, upcoming_of_error read 1⟩
    · exact ⟨some reply, upcoming_of_ok read 0⟩
  | succ count more =>
    rcases read : Reply.read ending bytes with ⟨error | reply, rest⟩
    · refine ⟨none, ?_⟩
      rw [upcoming_of_error read, upcoming_of_error read]
      exact List.replicate_succ'
    · obtain ⟨last, found⟩ := more rest
      refine ⟨last, ?_⟩
      rw [upcoming_of_ok read, upcoming_of_ok read, found, List.cons_append]

namespace Tcp.Session

/-- The account of sessions over TCP: the replies to the commands that are owed are the next ones in
the stream of the server. -/
def account : Account Session Promise where
  Owes session promises :=
    session.owed = promises.length ∧
    (promises ≠ [] → ∃ link, session.state = .connected link ∧
      promises.map Promise.reply? = upcoming link.ending promises.length link.input.unread)
  IssuedFor promise name args := promise.name = name ∧ promise.args = args
  Redeems reply promise := promise.reply? = some reply

section Account

variable {session : Session} {link : Link} {promises : List Promise}

theorem account_front (owes : account.Owes session promises)
    (stage : session.state = .connected link) :
    promises.map Promise.reply? = upcoming link.ending promises.length link.input.unread := by
  cases promises with
  | nil => rfl
  | cons promise rest =>
    obtain ⟨link', stage', front⟩ := owes.2 (List.cons_ne_nil _ _)
    cases stage.symm.trans stage'
    exact front

/-- Only a connected session owes replies. -/
theorem account_nil (owes : account.Owes session promises)
    (notConnected : ∀ link, session.state ≠ .connected link) : promises = [] := by
  by_contra some
  obtain ⟨link, stage, -⟩ := owes.2 some
  exact notConnected link stage

/-- A session that queues a command on its link promises the reply behind those that it owes. -/
theorem account_owes_queued (owed : session.owed = promises.length)
    (front : promises.map Promise.reply? =
      upcoming link.ending promises.length link.input.unread)
    (name : String) (args : List Bytes) :
    ∃ promise, account.IssuedFor promise name args ∧
      account.Owes (session.queued link name args) (promises ++ [promise]) := by
  obtain ⟨last, found⟩ := upcoming_succ link.ending promises.length link.input.unread
  refine ⟨⟨name, args, last⟩, ⟨rfl, rfl⟩, ?_, fun _ => ⟨_, rfl, ?_⟩⟩
  · rw [List.length_append, ← owed]
    rfl
  · rw [List.map_append, List.length_append, front]
    exact found.symm

end Account

/-- The account of sessions over TCP is lawful. -/
theorem account_lawful : account.Lawful where
  owed_eq owes := owes.1
  settled none := ⟨none, fun some => absurd rfl some⟩
  accepted {session after world world' promises name args} owes sends := by
    change reported (session.send name args world) = (.ok (), after, world') at sends
    rcases send_cases name args session world with
      ⟨link, stage, out⟩ | ⟨stage, out⟩ | ⟨link, dialed, stage, -, out⟩ | ⟨error, dialed, -, -, out⟩
    all_goals
      rw [out] at sends
      cases sends
    · exact account_owes_queued owes.1 (account_front owes stage) name args
    · have none : promises = [] := account_nil owes (by simp [stage])
      subst none
      exact account_owes_queued owes.1 rfl name args
  redeemed {session after world world' promises reply} owes receives := by
    change reported (session.receive world) = (.ok reply, after, world') at receives
    rcases receive_cases session world with
      ⟨-, out⟩ | ⟨-, -, out⟩ | ⟨link, reply', input, some, stage, read, out⟩ |
        ⟨link, error, input, -, -, -, out⟩
    all_goals
      rw [out] at receives
      cases receives
    have owed : session.owed = promises.length := owes.1
    have front := account_front owes stage
    cases promises with
    | nil => exact absurd owed some
    | cons promise rest =>
      have reads := Reply.read_unread link.ending link.input
      rw [read] at reads
      rw [List.length_cons, upcoming_of_ok reads] at front
      obtain ⟨first, others⟩ := List.cons.inj front
      refine ⟨promise, rest, rfl, first, ?_, fun _ => ⟨_, rfl, others⟩⟩
      simp only [owed, List.length_cons, Nat.add_sub_cancel]
  refused {session after world world' promises name args error} owes sends := by
    change reported (session.send name args world) = (.error (.reported error), after, world')
      at sends
    rcases send_cases name args session world with
      ⟨link, stage, out⟩ | ⟨stage, out⟩ | ⟨link, dialed, stage, -, out⟩ |
        ⟨cause, dialed, stage, -, out⟩
    all_goals
      rw [out] at sends
      cases sends
    all_goals
      have none : promises = [] := account_nil owes (by simp [stage])
      subst none
      exact ⟨owes.1, fun some => absurd rfl some⟩
  lost {session after world world' promises error} owes some receives := by
    change reported (session.receive world) = (.error (.reported error), after, world') at receives
    obtain ⟨owed, front⟩ := owes
    obtain ⟨link, stage, -⟩ := front some
    have owes : session.owed ≠ 0 := by
      rw [owed]
      exact fun none => some (List.eq_nil_of_length_eq_zero none)
    rcases receive_cases session world with
      ⟨none, -⟩ | ⟨-, notOpened, -⟩ | ⟨link, reply, input, -, -, -, out⟩ |
        ⟨link, cause, input, -, -, -, out⟩
    · exact absurd none owes
    · rw [isOpen, stage] at notOpened
      cases notOpened
    · rw [out] at receives
      cases receives
    · rw [out] at receives
      cases receives
      exact ⟨rfl, rfl⟩

end Tcp.Session

/-! ## Scripted sessions -/

namespace Scripted.Session

/-- The account of scripted sessions: the replies are those of the script. -/
def account : Account Session Promise where
  Owes session promises :=
    session.owed = promises.map (fun promise => (promise.name, promise.args)) ∧
    (∀ promise ∈ promises,
      promise.reply? = some (replyTo session.script promise.name promise.args)) ∧
    (session.phase = .closed → promises = [])
  IssuedFor promise name args := promise.name = name ∧ promise.args = args
  Redeems reply promise := promise.reply? = some reply

/-- The account of scripted sessions is lawful. -/
theorem account_lawful : account.Lawful where
  owed_eq {session promises} owes := by
    change session.owed.length = promises.length
    rw [owes.1, List.length_map]
  settled {session} none :=
    ⟨List.eq_nil_of_length_eq_zero none, fun _ some => absurd some List.not_mem_nil, fun _ => rfl⟩
  accepted {session after world world' promises name args} owes sends := by
    change session.send name args world = (.ok (), after, world') at sends
    obtain ⟨owed, scripted, -⟩ := owes
    unfold send at sends
    split at sends
    · cases sends
    · split at sends
      · cases sends
      · split at sends
        · cases sends
        · cases sends
          refine ⟨⟨name, args, some (replyTo session.script name args)⟩, ⟨rfl, rfl⟩, ?_, ?_, nofun⟩
          · rw [List.map_append, ← owed]
            rfl
          · intro promise promised
            rcases List.mem_append.1 promised with old | new
            · exact scripted promise old
            · rw [List.mem_singleton.1 new]
  redeemed {session after world world' promises reply} owes receives := by
    change session.receive world = (.ok reply, after, world') at receives
    obtain ⟨owed, scripted, closed⟩ := owes
    unfold receive at receives
    split at receives
    · cases receives
    · next opened =>
      split at receives
      · cases receives
      · split at receives
        · cases receives
        · next name args later some =>
          cases receives
          cases promises with
          | nil => cases some.symm.trans owed
          | cons promise rest =>
            obtain ⟨same, others⟩ := List.cons.inj (some.symm.trans owed)
            obtain ⟨rfl, rfl⟩ := Prod.mk.inj same
            exact ⟨promise, rest, rfl, scripted promise List.mem_cons_self, others,
              fun other more => scripted other (List.mem_cons_of_mem promise more),
              fun now => absurd now opened⟩
  refused {session after world world' promises name args error} owes sends := by
    change session.send name args world = (.error (.reported error), after, world') at sends
    obtain ⟨owed, -, closed⟩ := owes
    unfold send at sends
    split at sends
    · next already =>
      cases sends
      have none : promises = [] := closed already
      subst none
      exact ⟨congrArg List.length owed, fun some => absurd rfl some⟩
    · split at sends
      · cases sends
      · split at sends
        · cases sends
          exact ⟨rfl, fun _ => rfl⟩
        · cases sends
  lost {session after world world' promises error} owes some receives := by
    change session.receive world = (.error (.reported error), after, world') at receives
    obtain ⟨owed, -, closed⟩ := owes
    unfold receive at receives
    split at receives
    · next already => exact absurd (closed already) some
    · split at receives
      · cases receives
        exact ⟨rfl, rfl⟩
      · split at receives
        · next none =>
          rw [none] at owed
          exact absurd (List.map_eq_nil_iff.1 owed.symm) some
        · cases receives

end Scripted.Session

end RespClient
