import RespClient.Proofs.PipeliningLaws

/-!
# What an exchange comes to

An exchange makes its calls in order: it sends its commands, then receives their replies, and stops
at the first call that fails. `Course` lists the three ways in which that can end, and
`roundTrip_course` says that an exchange always ends in one of them, with the replies that were
received on the first commands.

`exchange_outcome` is the main statement. It joins the course of an exchange with the account of its
connection: each reply is on the command whose ticket it redeems, and no reply is owed in the end.
-/

namespace RespClient

open Connection (Account Sends Receives)

variable {C Net Ticket : Type}

/-- The commands with these replies on the first of them. -/
def answered (commands : List Command) (replies : List Reply) : List Command :=
  List.zipWith (fun command reply => { command with reply := some reply }) commands replies ++
    commands.drop replies.length

theorem answered_nil (commands : List Command) : answered commands [] = commands := by
  rw [answered, List.zipWith_nil_right, List.nil_append, List.length_nil, List.drop_zero]

/-- The commands behind the replies are as they were. -/
theorem drop_answered {commands : List Command} {replies : List Reply}
    (enough : replies.length ≤ commands.length) :
    (answered commands replies).drop replies.length = commands.drop replies.length := by
  refine List.drop_left' ?_
  rw [List.length_zipWith, Nat.min_eq_right enough]

variable [Connection C Net]

/-! ## The course of an exchange -/

/-- The calls of an exchange on a connection: so many commands are accepted, and these replies are
given. The result is the failure of the first call that fails, if one does, and the connection and
the world are those that the last call leaves. -/
inductive Course (commands : List Command) (connection : C) (world : World Net) :
    Nat → List Reply → Except Failure Unit → C → World Net → Prop where
  /-- A command is not accepted. -/
  | unsent {before later : List Command} {command : Command} {failure : Failure}
      {next last : C} {world' world'' : World Net}
      (split : commands = before ++ command :: later)
      (sent : Sends before connection world next world')
      (fails : Connection.send command.name command.args next world' =
        (.error failure, last, world'')) :
    Course commands connection world before.length [] (.error failure) last world''
  /-- All commands are accepted, and a reply does not come. -/
  | unanswered {replies : List Reply} {failure : Failure} {first next last : C}
      {world₁ world₂ world₃ : World Net}
      (sent : Sends commands connection world first world₁)
      (received : Receives replies first world₁ next world₂)
      (short : replies.length < commands.length)
      (fails : Connection.receive next world₂ = (.error failure, last, world₃)) :
    Course commands connection world commands.length replies (.error failure) last world₃
  /-- All commands are accepted, and all replies come. -/
  | finished {replies : List Reply} {first last : C} {world₁ world₂ : World Net}
      (sent : Sends commands connection world first world₁)
      (received : Receives replies first world₁ last world₂)
      (complete : replies.length = commands.length) :
    Course commands connection world commands.length replies (.ok ()) last world₂

theorem sendAll_cases (commands : List Command) (connection : C) (world : World Net) :
    (∃ after world', Sends commands connection world after world' ∧
      sendAll commands connection world = (.ok (), after, world')) ∨
    ∃ before command later next world' failure after world'',
      commands = before ++ command :: later ∧ Sends before connection world next world' ∧
      Connection.send command.name command.args next world' = (.error failure, after, world'') ∧
      sendAll commands connection world = (.error failure, after, world'') := by
  induction commands generalizing connection world with
  | nil => exact Or.inl ⟨connection, world, .nil, rfl⟩
  | cons command rest others =>
    rcases sends : Connection.send command.name command.args connection world with
      ⟨failure | ⟨⟩, next, world'⟩
    · refine Or.inr ⟨[], command, rest, connection, world, failure, next, world', rfl, .nil, sends,
        ?_⟩
      simp only [sendAll, sends]
    · have continues : sendAll (command :: rest) connection world = sendAll rest next world' := by
        simp only [sendAll, sends]
      rcases others next world' with ⟨after, world'', sent, out⟩ |
        ⟨before, second, later, next', world₁, failure, after, world₂, rfl, sent, fails, out⟩
      · exact Or.inl ⟨after, world'', .cons sends sent, continues.trans out⟩
      · exact Or.inr ⟨command :: before, second, later, next', world₁, failure, after, world₂, rfl,
          .cons sends sent, fails, continues.trans out⟩

theorem receiveAll_cases (commands : List Command) (connection : C) (world : World Net) :
    (∃ replies after world', replies.length = commands.length ∧
      Receives replies connection world after world' ∧
      receiveAll commands connection world = (.ok (), answered commands replies, after, world')) ∨
    ∃ replies next world' failure after world'', replies.length < commands.length ∧
      Receives replies connection world next world' ∧
      Connection.receive next world' = (.error failure, after, world'') ∧
      receiveAll commands connection world =
        (.error failure, answered commands replies, after, world'') := by
  induction commands generalizing connection world with
  | nil => exact Or.inl ⟨[], connection, world, rfl, .nil, rfl⟩
  | cons command rest others =>
    rcases receives : Connection.receive connection world with ⟨failure | reply, next, world'⟩
    · refine Or.inr ⟨[], connection, world, failure, next, world', Nat.succ_pos _, .nil, receives,
        ?_⟩
      simp only [receiveAll, receives]
      rfl
    · rcases others next world' with ⟨replies, after, world'', complete, received, out⟩ |
        ⟨replies, next', world₁, failure, after, world₂, short, received, fails, out⟩
      · refine Or.inl ⟨reply :: replies, after, world'', congrArg (· + 1) complete,
          .cons receives received, ?_⟩
        simp only [receiveAll, receives, out]
        rfl
      · refine Or.inr ⟨reply :: replies, next', world₁, failure, after, world₂,
          Nat.succ_lt_succ short, .cons receives received, fails, ?_⟩
        simp only [receiveAll, receives, out]
        rfl

/-- A round trip takes one of the courses, and puts the replies on the first commands. -/
theorem roundTrip_course (commands : List Command) (connection : C) (world : World Net) :
    ∃ count replies result after world',
      roundTrip commands connection world = (result, answered commands replies, after, world') ∧
      Course commands connection world count replies result after world' := by
  rcases sendAll_cases commands connection world with ⟨first, world₁, sent, out⟩ |
    ⟨before, command, later, next, world', failure, after, world'', split, sent, fails, out⟩
  · rcases receiveAll_cases commands first world₁ with
      ⟨replies, after, world₂, complete, received, out'⟩ |
        ⟨replies, next, world₂, failure, after, world₃, short, received, fails, out'⟩
    · refine ⟨_, replies, _, after, world₂, ?_, .finished sent received complete⟩
      simp only [roundTrip, out, out']
    · refine ⟨_, replies, _, after, world₃, ?_, .unanswered sent received short fails⟩
      simp only [roundTrip, out, out']
  · refine ⟨_, [], _, after, world'', ?_, .unsent split sent fails⟩
    simp only [roundTrip, out, answered_nil]

namespace Course

variable {commands : List Command} {connection after : C} {world world' : World Net} {count : Nat}
  {replies : List Reply} {result : Except Failure Unit}

theorem length_le (course : Course commands connection world count replies result after world') :
    replies.length ≤ commands.length := by
  cases course with
  | unsent => exact Nat.zero_le _
  | unanswered _ _ short => exact Nat.le_of_lt short
  | finished _ _ complete => exact Nat.le_of_eq complete

theorem ok_iff (course : Course commands connection world count replies result after world') :
    result = .ok () ↔ replies.length = commands.length := by
  cases course with
  | unsent split =>
    refine ⟨nofun, fun none => ?_⟩
    rw [split, List.length_append] at none
    simp at none
  | unanswered _ _ short => exact ⟨nofun, fun complete => absurd complete (Nat.ne_of_lt short)⟩
  | finished _ _ complete => exact ⟨fun _ => complete, fun _ => rfl⟩

/-- No reply is received before all commands are sent. -/
theorem replies_nil (course : Course commands connection world count replies result after world')
    (unsent : count < commands.length) : replies = [] := by
  cases course with
  | unsent => rfl
  | unanswered => exact absurd unsent (Nat.lt_irrefl _)
  | finished => exact absurd unsent (Nat.lt_irrefl _)

/-- The account of a connection that owes nothing, over an exchange: tickets for the commands that
are accepted, redeemed in order by the replies, and none left unless a call crashes. -/
theorem settles {account : Account C Ticket} (laws : account.Lawful)
    (course : Course commands connection world count replies result after world')
    (none : Connection.owed connection = 0) :
    ∃ issued : List Ticket, issued.length = count ∧
      List.Forall₂ (fun ticket command => account.IssuedFor ticket command.name command.args)
        issued (commands.take count) ∧
      List.Forall₂ account.Redeems replies (issued.take replies.length) ∧
      ((∀ crash, result ≠ .error (.crashed crash)) → Connection.owed after = 0) := by
  cases course with
  | @unsent before later command failure next last world₁ world₂ split sent fails =>
    obtain ⟨issued, areFor, owes⟩ := laws.sends (laws.settled none) sent
    refine ⟨issued, areFor.length_eq, ?_, .nil, fun noCrash => ?_⟩
    · rwa [split, List.take_left]
    · cases failure with
      | reported error => exact (laws.refused owes fails).1
      | crashed crash => exact absurd rfl (noCrash crash)
  | @unanswered _ failure first next last world₁ world₂ world₃ sent received short fails =>
    obtain ⟨issued, areFor, owes⟩ := laws.sends (laws.settled none) sent
    obtain ⟨old, rest, split, redeem, owes'⟩ := laws.receives owes received
    rw [List.nil_append] at split
    -- A ticket is left, so that failing to receive closes the connection.
    have some : rest ≠ [] := by
      rintro rfl
      have count := areFor.length_eq
      rw [split, List.append_nil, ← redeem.length_eq] at count
      exact absurd count (Nat.ne_of_lt short)
    refine ⟨issued, areFor.length_eq, ?_, ?_, fun noCrash => ?_⟩
    · rwa [List.take_length]
    · rwa [split, redeem.length_eq, List.take_left]
    · cases failure with
      | reported error => exact (laws.lost owes' some fails).1
      | crashed crash => exact absurd rfl (noCrash crash)
  | @finished _ first last world₁ world₂ sent received complete =>
    obtain ⟨issued, areFor, owes⟩ := laws.sends (laws.settled none) sent
    obtain ⟨old, rest, split, redeem, owes'⟩ := laws.receives owes received
    rw [List.nil_append] at split
    have counts : old.length = issued.length := by
      rw [← redeem.length_eq, complete, areFor.length_eq]
    have empty : rest = [] := by
      rw [split, List.length_append] at counts
      exact List.eq_nil_of_length_eq_zero (by omega)
    refine ⟨issued, areFor.length_eq, ?_, ?_, fun _ => ?_⟩
    · rwa [List.take_length]
    · rwa [split, redeem.length_eq, List.take_left]
    · rw [laws.owed_eq owes', empty]
      rfl

end Course

/-! ## What an exchange keeps -/

section Keeps

variable (holds : C → World Net → Prop)

theorem sendAll_keeps
    (sendKeeps : ∀ (name : String) (args : List Bytes) {connection : C} {world : World Net},
      holds connection world → holds (Connection.send name args connection world).2.1
        (Connection.send name args connection world).2.2)
    (commands : List Command) {connection : C} {world : World Net}
    (before : holds connection world) :
    holds (sendAll commands connection world).2.1 (sendAll commands connection world).2.2 := by
  induction commands generalizing connection world with
  | nil => exact before
  | cons command rest others =>
    have next := sendKeeps command.name command.args before
    rcases sends : Connection.send command.name command.args connection world with
      ⟨failure | ⟨⟩, after, world'⟩
    · rw [sends] at next
      simp only [sendAll, sends]
      exact next
    · rw [sends] at next
      simp only [sendAll, sends]
      exact others next

theorem receiveAll_keeps
    (receiveKeeps : ∀ {connection : C} {world : World Net}, holds connection world →
      holds (Connection.receive connection world).2.1 (Connection.receive connection world).2.2)
    (commands : List Command) {connection : C} {world : World Net}
    (before : holds connection world) :
    holds (receiveAll commands connection world).2.2.1
      (receiveAll commands connection world).2.2.2 := by
  induction commands generalizing connection world with
  | nil => exact before
  | cons command rest others =>
    have next := receiveKeeps before
    rcases receives : Connection.receive connection world with ⟨failure | reply, after, world'⟩
    · rw [receives] at next
      simp only [receiveAll, receives]
      exact next
    · rw [receives] at next
      simp only [receiveAll, receives]
      exact others next

/-- What sending and receiving keep is kept by an exchange. -/
theorem exchange_keeps
    (sendKeeps : ∀ (name : String) (args : List Bytes) {connection : C} {world : World Net},
      holds connection world → holds (Connection.send name args connection world).2.1
        (Connection.send name args connection world).2.2)
    (receiveKeeps : ∀ {connection : C} {world : World Net}, holds connection world →
      holds (Connection.receive connection world).2.1 (Connection.receive connection world).2.2)
    (commands : List Command) {connection : C} {world : World Net}
    (before : holds connection world) :
    holds (exchange commands connection world).2.2.1
      (exchange commands connection world).2.2.2 := by
  unfold exchange
  dsimp only
  split
  · exact before
  · have sent := sendAll_keeps holds sendKeeps commands before
    unfold roundTrip
    split
    · next sends =>
      rw [sends] at sent
      exact sent
    · next sends =>
      rw [sends] at sent
      exact receiveAll_keeps holds receiveKeeps commands sent

end Keeps

/-! ## Main statement -/

/-- **What an exchange comes to.** Take connections that keep a lawful account, as sessions over TCP
do, and commands without replies. A connection that owes replies refuses the exchange, and nothing
changes. Otherwise the exchange takes one of the courses, so that it ends with the first failure of
the connection if there is one, and whatever the replies are, errors of the server included. The
replies that are received are on the first commands, each on the one whose ticket it redeems, and
the others have none. The exchange succeeds exactly if there is a reply for every command; if a
command was not accepted there is none at all. In the end the connection owes nothing, unless one of
its calls crashed. -/
theorem exchange_outcome :
    Tcp.Session.account.Lawful ∧
    ∀ {C Net Ticket : Type} [Connection C Net] {account : Account C Ticket}, account.Lawful →
    ∀ (commands : List Command), (∀ command ∈ commands, command.reply = none) →
    ∀ (connection : C) (world : World Net),
      (0 < Connection.owed connection →
        exchange commands connection world =
          (.error (.reported (.protocol
            (.repliesUnreadBeforeBatch (Connection.owed connection)))),
            commands, connection, world)) ∧
      (Connection.owed connection = 0 →
        ∃ (issued : List Ticket) (replies : List Reply) (result : Except Failure Unit) (after : C)
          (world' : World Net),
          exchange commands connection world =
            (result, answered commands replies, after, world') ∧
          Course commands connection world issued.length replies result after world' ∧
          List.Forall₂ (fun ticket command => account.IssuedFor ticket command.name command.args)
            issued (commands.take issued.length) ∧
          List.Forall₂ account.Redeems replies (issued.take replies.length) ∧
          (∀ command ∈ (answered commands replies).drop replies.length, command.reply = none) ∧
          (result = .ok () ↔ replies.length = commands.length) ∧
          (issued.length < commands.length → replies = []) ∧
          ((∀ crash, result ≠ .error (.crashed crash)) → Connection.owed after = 0)) := by
  refine ⟨Tcp.Session.account_lawful, ?_⟩
  intro C Net Ticket _ account laws commands fresh connection world
  refine ⟨fun owes => if_pos owes, fun none => ?_⟩
  obtain ⟨count, replies, result, after, world', out, course⟩ :=
    roundTrip_course commands connection world
  obtain ⟨issued, rfl, areFor, redeem, settled⟩ := course.settles laws none
  refine ⟨issued, replies, result, after, world', (exchange_of_settled none commands world).trans out,
    course, areFor, redeem, ?_, course.ok_iff, course.replies_nil, settled⟩
  intro command later
  rw [drop_answered course.length_le] at later
  exact fresh command (List.mem_of_mem_drop later)

/-- A connection that is lost behind an error of the server and one more reply. -/
theorem exchange_outcome_instance :
    let session : Scripted.Session :=
      { number := 0
        address := "localhost:6379"
        script := { failReplyAfter := some 2
                    replies := [("GET", .error "ERR"), ("SET", .status "OK")] } }
    let world : World Scripted.Stage := ⟨{ scripts := [] }, #[]⟩
    let commands : List Command := [⟨"GET", [], none⟩, ⟨"SET", [], none⟩, ⟨"DEL", [], none⟩]
    Scripted.Session.account.Lawful ∧ (∀ command ∈ commands, command.reply = none) ∧
      Connection.owed session = 0 ∧
      ∃ (issued : List Connection.Promise) (replies : List Reply) (after : Scripted.Session)
        (world' : World Scripted.Stage),
        exchange commands session world =
          (.error (.reported .connectionClosed), answered commands replies, after, world') ∧
        replies = [.error "ERR", .status "OK"] ∧
        List.Forall₂ Scripted.Session.account.Redeems replies (issued.take replies.length) ∧
        Connection.owed after = 0 := by
  intro session world commands
  have fresh : ∀ command ∈ commands, command.reply = none := by decide
  obtain ⟨issued, replies, result, after, world', out, -, -, redeem, -, -, -, settled⟩ :=
    (exchange_outcome.2 Scripted.Session.account_lawful commands fresh session world).2 rfl
  have failed : Except.error (.reported .connectionClosed) = result := congrArg Prod.fst out
  have found : [some (Reply.error "ERR"), some (.status "OK"), none] =
      (answered commands replies).map Command.reply :=
    congrArg (fun outcome => outcome.2.1.map Command.reply) out
  subst failed
  refine ⟨Scripted.Session.account_lawful, fresh, rfl, issued, replies, after, world', out, ?_,
    redeem, settled nofun⟩
  rcases replies with _ | ⟨first, _ | ⟨second, _ | ⟨third, rest⟩⟩⟩
  all_goals simp_all [answered, commands]

end RespClient
