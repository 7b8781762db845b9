import RespClient.Proofs.PoolRotation

/-!
# Cursors over addresses

A rotation can be copied at any time, and each copy goes its own way. `move` is one step with any number of
such cursors, which are known by the order in which they were made: one of them gives its next address,
or is copied. A cursor remembers the position at which it was made, and the addresses that it has given since.

`OnTrack` says where a cursor is by that, and every move keeps all cursors on track (`onTrack_move`).
`SameAt` compares two groups of cursors at one of them, and no later move tells such groups apart
(`SameAt.move`). `cursors_go_round` is the main statement.
-/

namespace RespClient.Pool.Rotation

/-! ## Cursors and moves -/

/-- A cursor, the position at which it was made, and the addresses that it has given since. -/
structure Cursor where
  rotation : Rotation
  start : Nat
  given : List String
  deriving DecidableEq, Repr

namespace Cursor

/-- A cursor that is new. -/
def new (rotation : Rotation) : Cursor := ⟨rotation, rotation.position, []⟩

/-- The cursor after it has given its next address. -/
def next (cursor : Cursor) : Cursor :=
  { cursor with
    rotation := cursor.rotation.advance
    given := cursor.given ++ [cursor.rotation.current] }

end Cursor

/-- What may be done with cursors. -/
inductive Move where
  /-- A cursor gives its next address. -/
  | next (number : Nat)
  /-- A cursor is copied. The copy comes behind all that there are. -/
  | copy (number : Nat)
  deriving DecidableEq, Repr

/-- The cursors after a move. -/
def move (cursors : List Cursor) : Move → List Cursor
  | .next number => cursors.modify number Cursor.next
  | .copy number => cursors ++ (cursors[number]?.map fun parent => .new parent.rotation).toList

/-- The cursors after moves, one after the other. -/
def moveAll (cursors : List Cursor) (moves : List Move) : List Cursor := moves.foldl move cursors

/-! ## Where a cursor is -/

/-- The cursor has gone round the addresses from where it started, and has given each address in its turn. -/
structure Cursor.OnTrack (addresses : List String) (cursor : Cursor) : Prop where
  here : At { addresses } cursor.rotation (cursor.start + cursor.given.length)
  given : ∀ (turn : Nat) (inside : turn < cursor.given.length),
    addresses[(cursor.start + turn) % addresses.length]? = some cursor.given[turn]

namespace Cursor.OnTrack

variable {addresses : List String} {cursor : Cursor}

theorem next (onTrack : cursor.OnTrack addresses) : cursor.next.OnTrack addresses where
  here := by
    rw [Cursor.next, List.length_append, List.length_singleton, ← Nat.add_assoc]
    exact onTrack.here.advance
  given turn inside := by
    simp only [Cursor.next, List.length_append, List.length_singleton] at inside ⊢
    rcases Nat.lt_succ_iff_lt_or_eq.1 inside with earlier | rfl
    · rw [List.getElem_append_left earlier]
      exact onTrack.given turn earlier
    · rw [List.getElem_concat_length rfl]
      exact onTrack.here.current

/-- A copy starts where its parent is. -/
theorem copy (onTrack : cursor.OnTrack addresses) : (Cursor.new cursor.rotation).OnTrack addresses where
  here := by
    refine ⟨onTrack.here.addresses, ?_⟩
    have inside := cursor.rotation.inside
    rw [onTrack.here.addresses] at inside
    exact (Nat.mod_eq_of_lt inside).symm
  given _ inside := nomatch inside

end Cursor.OnTrack

theorem onTrack_move {addresses : List String} {cursors : List Cursor}
    (onTrack : ∀ cursor ∈ cursors, cursor.OnTrack addresses) (what : Move) :
    ∀ cursor ∈ move cursors what, cursor.OnTrack addresses := by
  intro cursor there
  cases what with
  | next number =>
    obtain ⟨place, found⟩ := List.mem_iff_getElem?.1 there
    rw [move, List.getElem?_modify] at found
    obtain ⟨before, old, rfl⟩ := Option.map_eq_some_iff.1 found
    have kept := onTrack before (List.mem_of_getElem? old)
    split
    · exact kept.next
    · exact kept
  | copy number =>
    rcases List.mem_append.1 there with old | new
    · exact onTrack cursor old
    · obtain ⟨parent, found, rfl⟩ := Option.map_eq_some_iff.1 (Option.mem_toList.1 new)
      exact (onTrack parent (List.mem_of_getElem? found)).copy

theorem onTrack_moveAll {addresses : List String} {cursors : List Cursor}
    (onTrack : ∀ cursor ∈ cursors, cursor.OnTrack addresses) (moves : List Move) :
    ∀ cursor ∈ moveAll cursors moves, cursor.OnTrack addresses := by
  induction moves generalizing cursors with
  | nil => exact onTrack
  | cons first rest step => exact step (onTrack_move onTrack first)

/-! ## Where a cursor started -/

theorem starts_next (cursors : List Cursor) (number : Nat) :
    (move cursors (.next number)).map Cursor.start = cursors.map Cursor.start := by
  refine List.ext_getElem? fun place => ?_
  rw [move, List.getElem?_map, List.getElem?_map, List.getElem?_modify]
  cases cursors[place]? with
  | none => rfl
  | some cursor =>
    simp only [Option.map_some]
    split <;> rfl

/-- A copy starts where its parent is. -/
theorem starts_copy (cursors : List Cursor) (number : Nat) :
    (move cursors (.copy number)).map Cursor.start = cursors.map Cursor.start ++
      (cursors[number]?.map fun parent => parent.rotation.position).toList := by
  rw [move, List.map_append]
  cases cursors[number]? <;> rfl

/-- No moves change where cursors started. -/
theorem starts_moveAll (cursors : List Cursor) (moves : List Move) :
    cursors.map Cursor.start <+: (moveAll cursors moves).map Cursor.start := by
  induction moves generalizing cursors with
  | nil => exact List.prefix_refl _
  | cons first rest step =>
    have kept : cursors.map Cursor.start <+: (move cursors first).map Cursor.start := by
      cases first with
      | next number => rw [starts_next]
      | copy number =>
        rw [starts_copy]
        exact List.prefix_append ..
    exact kept.trans (step (move cursors first))

/-! ## Cursors that are left alone -/

/-- There are as many cursors, and this one of them is the same. -/
structure SameAt (number : Nat) (cursors cursors' : List Cursor) : Prop where
  inside : number < cursors.length
  length : cursors.length = cursors'.length
  same : cursors[number]? = cursors'[number]?

/-- To advance one cursor leaves another as it is. -/
theorem SameAt.of_next {cursors : List Cursor} {number other : Nat} (inside : other < cursors.length)
    (different : other ≠ number) : SameAt other (move cursors (.next number)) cursors where
  inside := by rwa [move, List.length_modify]
  length := List.length_modify ..
  same := List.getElem?_modify_ne _ _ different.symm

theorem SameAt.move {number : Nat} {cursors cursors' : List Cursor}
    (same : SameAt number cursors cursors') (what : Move) :
    SameAt number (move cursors what) (Rotation.move cursors' what) := by
  cases what with
  | next advanced =>
    refine ⟨?_, ?_, ?_⟩
    · rw [Rotation.move, List.length_modify]
      exact same.inside
    · rw [Rotation.move, Rotation.move, List.length_modify, List.length_modify, same.length]
    · rw [Rotation.move, Rotation.move, List.getElem?_modify, List.getElem?_modify, same.same]
  | copy copied =>
    have inside' := same.length ▸ same.inside
    refine ⟨?_, ?_, ?_⟩
    · rw [Rotation.move, List.length_append]
      exact Nat.lt_add_right _ same.inside
    · -- The parent is there in both groups or in neither.
      by_cases there : copied < cursors'.length
      · simp [Rotation.move, there, same.length]
      · simp [Rotation.move, there, same.length]
    · rw [Rotation.move, Rotation.move, List.getElem?_append_left same.inside,
        List.getElem?_append_left inside', same.same]

theorem SameAt.moveAll {number : Nat} {cursors cursors' : List Cursor}
    (same : SameAt number cursors cursors') (moves : List Move) :
    SameAt number (moveAll cursors moves) (Rotation.moveAll cursors' moves) := by
  induction moves generalizing cursors cursors' with
  | nil => exact same
  | cons first rest step => exact step (same.move first)

/-! ## Main statement -/

/-- **Cursors go round, each for itself.** Over any addresses there is a first cursor. After any moves with it and its
copies, a cursor is at one of the addresses: that of its turn, counted from where it started and round the
list; and it has given the addresses of the turns before, in order. The first cursor started with
the first address, and a copy with the one that its parent was to give next. Whether a cursor gives an
address makes no difference to any other one that is there, now or later. -/
theorem cursors_go_round {addresses : List String} (nonempty : addresses ≠ []) :
    ∃ first, ofAddresses addresses = .ok first ∧ ∀ moves,
      let cursors := moveAll [.new first] moves
      (∀ cursor ∈ cursors, cursor.rotation.position < addresses.length ∧
        cursor.rotation.position = (cursor.start + cursor.given.length) % addresses.length ∧
        addresses[cursor.rotation.position]? = some cursor.rotation.current ∧
        ∀ (turn : Nat) (inside : turn < cursor.given.length),
          addresses[(cursor.start + turn) % addresses.length]? = some cursor.given[turn]) ∧
      cursors[0]?.map Cursor.start = some 0 ∧
      (∀ number parent later, cursors[number]? = some parent →
        (moveAll cursors (.copy number :: later))[cursors.length]?.map Cursor.start =
          some parent.rotation.position) ∧
      ∀ number other later, other < cursors.length → other ≠ number →
        (moveAll cursors (.next number :: later))[other]? = (moveAll cursors later)[other]? := by
  have present : 0 < addresses.length := List.length_pos_iff.2 nonempty
  let first : Rotation := ⟨addresses, 0, present⟩
  have found : ofAddresses addresses = .ok first := dif_pos present
  refine ⟨first, found, fun moves => ?_⟩
  intro cursors
  have fresh : (Cursor.new first).OnTrack addresses :=
    ⟨⟨rfl, (Nat.zero_mod _).symm⟩, fun _ inside => nomatch inside⟩
  have onTrack : ∀ cursor ∈ cursors, cursor.OnTrack addresses :=
    onTrack_moveAll (List.forall_mem_singleton.2 fresh) moves
  refine ⟨fun cursor there => ?_, ?_, fun number parent later found => ?_,
    fun number other later inside different => ?_⟩
  · have track := onTrack cursor there
    have inside := cursor.rotation.inside
    rw [track.here.addresses] at inside
    refine ⟨inside, track.here.position, ?_, track.given⟩
    rw [track.here.position]
    exact track.here.current
  · obtain ⟨more, starts⟩ := starts_moveAll [.new first] moves
    rw [← List.getElem?_map, ← starts]
    rfl
  · obtain ⟨more, starts⟩ := starts_moveAll (move cursors (.copy number)) later
    rw [← List.getElem?_map]
    change ((moveAll (move cursors (.copy number)) later).map Cursor.start)[cursors.length]? = _
    rw [← starts, starts_copy, found]
    simp
  · exact ((SameAt.of_next inside different).moveAll later).same

/-- A cursor over two addresses is copied after one turn, and its copy goes round once. -/
theorem cursors_go_round_instance :
    let addresses := ["a:1", "b:2"]
    addresses ≠ [] ∧ ∃ first, ofAddresses addresses = .ok first ∧
      let cursors := moveAll [.new first] [.next 0, .copy 0, .next 1, .next 1]
      cursors.map Cursor.given = [["a:1"], ["b:2", "a:1"]] ∧
      cursors[0]?.map Cursor.start = some 0 ∧
      (∃ parent, cursors[1]? = some parent ∧ parent.rotation.position = 1 ∧
        (moveAll cursors [.copy 1, .next 2])[2]?.map Cursor.start = some parent.rotation.position) ∧
      (moveAll cursors [.next 0, .next 1])[1]? = (moveAll cursors [.next 1])[1]? := by
  intro addresses
  have nonempty : addresses ≠ [] := nofun
  obtain ⟨first, found, round⟩ := cursors_go_round nonempty
  cases found
  let cursors := moveAll [.new ⟨addresses, 0, by decide⟩] [.next 0, .copy 0, .next 1, .next 1]
  have given : cursors.map Cursor.given = [["a:1"], ["b:2", "a:1"]] := by
    dsimp +zetaDelta only
    decide +kernel
  have there : 1 < cursors.length := by
    dsimp +zetaDelta only
    decide +kernel
  have position : cursors[1]?.map (fun cursor => cursor.rotation.position) = some 1 := by
    dsimp +zetaDelta only
    decide +kernel
  obtain ⟨-, start, copies, alone⟩ := round [.next 0, .copy 0, .next 1, .next 1]
  obtain ⟨parent, second, behindFirst⟩ := Option.map_eq_some_iff.1 position
  exact ⟨nonempty, _, rfl, given, start,
    ⟨parent, second, behindFirst, copies 1 parent [.next 2] second⟩,
    alone 0 1 [.next 1] there (by decide)⟩

end RespClient.Pool.Rotation
