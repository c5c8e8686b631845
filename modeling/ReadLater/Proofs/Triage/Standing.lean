import ReadLater.Catalog.Entry

/-!
# Where an entry stands after its moves

An entry keeps no history of its own, only its state and its two stamps. This module says how
they follow from the moves it was given, in order:

* `Move.standingAfter`: where a history of moves leaves an entry, said of the history alone: in
  the state of its last move, or the inbox; bookmarked at the time of the last move into the
  bookmarks, unless a move into the inbox came after it; archived at the time of the last move
  into the archive, unless a move into the inbox or the bookmarks came after it;
* **`Entry.standing_replay`**: an entry that stands where a history left it, moved by more moves,
  stands where the longer history leaves it; so a new entry stands where its moves leave it;
* `Move.standingAfter_consistent`: an entry in the inbox has no stamp, a bookmarked one a bookmark
  stamp and no archive stamp, an archived one an archive stamp.
-/

namespace ReadLater

open Clock

/-- A move of an entry to a state, at an instant. -/
structure Move where
  entryId : String
  target : TriageState
  time : Instant
  deriving DecidableEq, Repr

/-- Where an entry stands in triage: its state and its two stamps. -/
structure Standing where
  state : TriageState
  bookmarkedAt : Option Instant
  archivedAt : Option Instant
  deriving DecidableEq, Repr

namespace Standing

/-- Where a new entry stands: in the inbox, without stamps. -/
def fresh : Standing := ⟨.inbox, none, none⟩

/-- The stamps a state carries: none in the inbox; a bookmark stamp and no archive stamp in the
bookmarks; an archive stamp in the archive. -/
def Consistent (s : Standing) : Prop :=
  match s.state with
  | .inbox => s.bookmarkedAt = none ∧ s.archivedAt = none
  | .bookmarked => s.bookmarkedAt.isSome ∧ s.archivedAt = none
  | .archived => s.archivedAt.isSome

end Standing

namespace Entry

/-- Where an entry stands. -/
def standing (e : Entry) : Standing := ⟨e.state, e.bookmarkedAt, e.archivedAt⟩

/-- The entry moved by each move of a history in turn. -/
def replay (e : Entry) (ms : List Move) : Entry :=
  ms.foldl (fun e m => e.moveTo m.target m.time) e

@[simp] theorem replay_nil (e : Entry) : e.replay [] = e := rfl

@[simp] theorem replay_cons (e : Entry) (m : Move) (ms : List Move) :
    e.replay (m :: ms) = (e.moveTo m.target m.time).replay ms := rfl

theorem replay_append (e : Entry) (ms ms' : List Move) :
    e.replay (ms ++ ms') = (e.replay ms).replay ms' :=
  List.foldl_append

@[simp] theorem moveTo_id (e : Entry) (target : TriageState) (now : Instant) :
    (e.moveTo target now).id = e.id := by
  cases target <;> rfl

@[simp] theorem moveTo_itemId (e : Entry) (target : TriageState) (now : Instant) :
    (e.moveTo target now).itemId = e.itemId := by
  cases target <;> rfl

@[simp] theorem standing_moveTo_inbox (e : Entry) (now : Instant) :
    (e.moveTo .inbox now).standing = .fresh := rfl

@[simp] theorem standing_moveTo_bookmarked (e : Entry) (now : Instant) :
    (e.moveTo .bookmarked now).standing = ⟨.bookmarked, some now, none⟩ := rfl

@[simp] theorem standing_moveTo_archived (e : Entry) (now : Instant) :
    (e.moveTo .archived now).standing = ⟨.archived, e.bookmarkedAt, some now⟩ := rfl

end Entry

namespace Move

/-- The moves of the entry with an id, in order. -/
def ofEntry (ms : List Move) (id : String) : List Move :=
  ms.filter (·.entryId == id)

/-- The state a history leaves: the target of its last move, or the inbox. -/
def stateAfter (ms : List Move) : TriageState :=
  (ms.getLast?.map (·.target)).getD .inbox

/-- The bookmark stamp a history leaves: the time of its last move into the bookmarks, unless a
move into the inbox came after it. -/
def bookmarkAfter (ms : List Move) : Option Instant :=
  match ms.reverse.find? (fun m => m.target == .bookmarked || m.target == .inbox) with
  | some m => if m.target = .bookmarked then some m.time else none
  | none => none

/-- The archive stamp a history leaves: the time of its last move into the archive, unless a
move into the inbox or the bookmarks came after it. -/
def archiveAfter (ms : List Move) : Option Instant :=
  match ms.reverse.find?
      (fun m => m.target == .archived || m.target == .inbox || m.target == .bookmarked) with
  | some m => if m.target = .archived then some m.time else none
  | none => none

/-- Where a history leaves an entry. -/
def standingAfter (ms : List Move) : Standing :=
  ⟨stateAfter ms, bookmarkAfter ms, archiveAfter ms⟩

@[simp] theorem ofEntry_append (ms ms' : List Move) (id : String) :
    ofEntry (ms ++ ms') id = ofEntry ms id ++ ofEntry ms' id :=
  List.filter_append ms ms'

/-- A history none of whose moves names an entry has no move of it. -/
theorem ofEntry_eq_nil {ms : List Move} {id : String} (h : ∀ m ∈ ms, m.entryId ≠ id) :
    ofEntry ms id = [] := by
  rw [ofEntry, List.filter_eq_nil_iff]
  intro m hm
  simpa using h m hm

@[simp] theorem standingAfter_nil : standingAfter [] = .fresh := rfl

/-! ## One more move -/

variable (ms : List Move) (m : Move)

theorem standingAfter_snoc_inbox (h : m.target = .inbox) :
    standingAfter (ms ++ [m]) = .fresh := by
  simp [standingAfter, stateAfter, bookmarkAfter, archiveAfter, h, Standing.fresh]

theorem standingAfter_snoc_bookmarked (h : m.target = .bookmarked) :
    standingAfter (ms ++ [m]) = ⟨.bookmarked, some m.time, none⟩ := by
  simp [standingAfter, stateAfter, bookmarkAfter, archiveAfter, h]

/-- A move into the archive keeps the bookmark stamp that the history before it left. -/
theorem standingAfter_snoc_archived (h : m.target = .archived) :
    standingAfter (ms ++ [m]) = ⟨.archived, bookmarkAfter ms, some m.time⟩ := by
  simp [standingAfter, stateAfter, bookmarkAfter, archiveAfter, h]

/-- **Every history leaves the stamps its state carries.** Only the last move counts. -/
theorem standingAfter_consistent : (standingAfter ms).Consistent := by
  rcases List.eq_nil_or_concat ms with rfl | ⟨ms, m, rfl⟩
  · exact ⟨rfl, rfl⟩
  · rw [List.concat_eq_append]
    cases h : m.target with
    | inbox =>
      rw [standingAfter_snoc_inbox ms m h]
      exact ⟨rfl, rfl⟩
    | bookmarked =>
      rw [standingAfter_snoc_bookmarked ms m h]
      exact ⟨rfl, rfl⟩
    | archived =>
      rw [standingAfter_snoc_archived ms m h]
      rfl

end Move

namespace Entry

/-- One move takes an entry that stands where a history left it to where the history with the
move leaves it. -/
theorem standing_moveTo {e : Entry} {ms : List Move} (he : e.standing = Move.standingAfter ms)
    (m : Move) : (e.moveTo m.target m.time).standing = Move.standingAfter (ms ++ [m]) := by
  cases h : m.target with
  | inbox => rw [Move.standingAfter_snoc_inbox ms m h, standing_moveTo_inbox]
  | bookmarked => rw [Move.standingAfter_snoc_bookmarked ms m h, standing_moveTo_bookmarked]
  | archived =>
    -- the archive keeps the bookmark stamp, which the entry had from its history
    have hb : e.bookmarkedAt = Move.bookmarkAfter ms := congrArg Standing.bookmarkedAt he
    rw [Move.standingAfter_snoc_archived ms m h, standing_moveTo_archived, hb]

/-- **An entry stands where its moves leave it.** Moving an entry that stands where a history left
it stands where the longer history leaves it; from the inbox without stamps, a history of moves
leaves it where `Move.standingAfter` says. -/
theorem standing_replay {e : Entry} {ms : List Move} (he : e.standing = Move.standingAfter ms)
    (ms' : List Move) : (e.replay ms').standing = Move.standingAfter (ms ++ ms') := by
  induction ms' generalizing e ms with
  | nil => rw [replay_nil, List.append_nil, he]
  | cons m rest ih =>
    rw [replay_cons, ih (standing_moveTo he m), List.append_assoc, List.singleton_append]

end Entry

end ReadLater
