import Mathlib
import ReadLater.Proofs.Triage.Standing
import ReadLater.Proofs.Soundness

/-!
# What one transaction does to the entries

Only a transition moves an entry: a transition request, or a pushed mutation that asks for one.
It moves the entry only to another state than its own, stamped with the instant it started.
Every other write keeps the entries where they stand, and a new entry starts in the inbox
without stamps.

* `Triage.Follows E mv E'`: the entries `E'` follow from `E` by the moves `mv`; `Follows.insert`
  and `Follows.move` say it of the two writes that touch entries;
* `Triage.Account E log`: every entry of `E` stands where its own moves in `log` leave it;
  **`Account.follow`** carries it across one transaction;
* one triple per body: **`Triage.transition_follows`** and **`Sync.Mutation.run_follows`** make
  the move they ask for, at the instant they start; every other body moves nothing
  (`Ingest.ingest_follows`, `Subscription.subscribe_follows`, …);
* `Operation.exec_follows`: an operation that is neither a push nor a transition request moves
  no entry.
-/

namespace ReadLater

open Clock Store Std.Do

namespace Triage

/-- The move a transition request makes on the entries `E` at an instant: the entry with the id,
to the state the target names, when the entry is in another state. -/
def moveOf (E : List Entry) (entryId target : String) (now : Instant) : Option Move := do
  let state ← TriageState.parse? target
  let e ← E.find? (·.id == entryId)
  if e.state = state then none else some ⟨entryId, state, now⟩

/-- The move of a request for a state, of an entry that is there. -/
theorem moveOf_eq {E : List Entry} {entryId target : String} {state : TriageState} {e : Entry}
    (hp : TriageState.parse? target = some state) (hf : E.find? (·.id == entryId) = some e)
    (now : Instant) :
    moveOf E entryId target now = if e.state = state then none else some ⟨entryId, state, now⟩ := by
  simp [moveOf, hp, hf]

/-- The entries `E'` follow from `E` by the moves `mv`: every entry of `E` stays under its id,
moved as its moves in `mv` say, and every other entry of `E'` is new, in the inbox without
stamps. The moves name entries of `E`, and ids stay apart. -/
structure Follows (E : List Entry) (mv : List Move) (E' : List Entry) : Prop where
  nodup : (E.map (·.id)).Nodup → (E'.map (·.id)).Nodup
  kept : ∀ e ∈ E, ∃ e' ∈ E', e'.id = e.id
  moved : ∀ e' ∈ E', (∃ e ∈ E, e.id = e'.id ∧
      e'.standing = (e.replay (Move.ofEntry mv e.id)).standing) ∨
    (∀ e ∈ E, e.id ≠ e'.id) ∧ e'.standing = .fresh
  named : ∀ m ∈ mv, ∃ e ∈ E, e.id = m.entryId

namespace Follows

variable {E E₁ : List Entry}

theorem refl (E : List Entry) : Follows E [] E where
  nodup h := h
  kept e he := ⟨e, he, rfl⟩
  moved e he := Or.inl ⟨e, he, rfl, rfl⟩
  named _ h := absurd h List.not_mem_nil

/-- A new entry in the inbox without stamps, under an id no entry has, keeps the entries
following. -/
theorem insert {e : Entry} (h : Follows E [] E₁) (hnew : ∀ x ∈ E₁, x.id ≠ e.id)
    (hfresh : e.standing = .fresh) : Follows E [] (E₁ ++ [e]) where
  nodup hE := Database.nodup_map_append (h.nodup hE) hnew
  kept x hx := by
    obtain ⟨x', hx', hid⟩ := h.kept x hx
    exact ⟨x', List.mem_append_left _ hx', hid⟩
  moved x hx := by
    rcases List.mem_append.1 hx with hx | hx
    · exact h.moved x hx
    · rw [List.mem_singleton] at hx
      subst hx
      -- no entry of `E` has the new id, since each stayed in `E₁` under its own
      refine Or.inr ⟨fun y hy hid => ?_, hfresh⟩
      obtain ⟨y', hy', hid'⟩ := h.kept y hy
      exact hnew y' hy' (hid'.trans hid)
  named _ h' := absurd h' List.not_mem_nil

/-- A transition writes the entry it found, moved, over the row with its id: the entries follow
by the move. -/
theorem move {m : Move} {old : Entry} (hfind : E.find? (·.id == m.entryId) = some old) (v : Int) :
    Follows E [m] (replaceById (·.id) { old.moveTo m.target m.time with version := v } E) := by
  have hold : old ∈ E := List.mem_of_find?_eq_some hfind
  have hid : old.id = m.entryId := by simpa using List.find?_some hfind
  have hmid : ({ old.moveTo m.target m.time with version := v } : Entry).id = old.id :=
    Entry.moveTo_id old m.target m.time
  refine ⟨fun hE => (map_replaceById (·.id) _ E).symm ▸ hE, fun e he => ?_, fun e' he' => ?_,
    fun m' hm' => ?_⟩
  · exact exists_id_replaceById he
  · rcases mem_replaceById he' with rfl | ⟨he', hne⟩
    · -- the moved entry, under the id of the one found
      refine Or.inl ⟨old, hold, hmid.symm, ?_⟩
      simp [Move.ofEntry, hid, Entry.standing]
    · -- any other entry has no move
      refine Or.inl ⟨e', he', rfl, ?_⟩
      have hne' : m.entryId ≠ e'.id := fun h => hne (h.symm.trans (hmid.trans hid).symm)
      simp [Move.ofEntry, hne']
  · rw [List.mem_singleton] at hm'
    exact ⟨old, hold, hm' ▸ hid⟩

end Follows

/-- The entries `E` stand where the history `log` left them: each where its own moves leave it.
Every move names one of them, and no two share an id. -/
structure Account (E : List Entry) (log : List Move) : Prop where
  nodup : (E.map (·.id)).Nodup
  stands : ∀ e ∈ E, e.standing = Move.standingAfter (Move.ofEntry log e.id)
  named : ∀ m ∈ log, ∃ e ∈ E, e.id = m.entryId

/-- A store without entries stands where no moves leave it. -/
theorem Account.nil : Account [] [] :=
  ⟨List.nodup_nil, fun _ h => absurd h List.not_mem_nil, fun _ h => absurd h List.not_mem_nil⟩

/-- **One transaction keeps the account**, with its moves added to the history. -/
theorem Account.follow {E E' : List Entry} {log mv : List Move} (h : Account E log)
    (hf : Follows E mv E') : Account E' (log ++ mv) where
  nodup := hf.nodup h.nodup
  stands e' he' := by
    rcases hf.moved e' he' with ⟨e, he, hid, hst⟩ | ⟨hnew, hfresh⟩
    · -- an old entry: its history so far, then its moves in this transaction
      rw [hst, Entry.standing_replay (h.stands e he), Move.ofEntry_append, hid]
    · -- a new entry: no move of the history or of this transaction names it
      have hlog : Move.ofEntry log e'.id = [] := Move.ofEntry_eq_nil fun m hm hm' => by
        obtain ⟨e, he, hid⟩ := h.named m hm
        exact hnew e he (hid.trans hm')
      have hmv : Move.ofEntry mv e'.id = [] := Move.ofEntry_eq_nil fun m hm hm' => by
        obtain ⟨e, he, hid⟩ := hf.named m hm
        exact hnew e he (hid.trans hm')
      rw [hfresh, Move.ofEntry_append, hlog, hmv]
      rfl
  named m hm := by
    -- the entry a move names stays, under its id
    obtain ⟨e, he, hid⟩ : ∃ e ∈ E, e.id = m.entryId := by
      rcases List.mem_append.1 hm with hm | hm
      · exact h.named m hm
      · exact hf.named m hm
    obtain ⟨e', he', hid'⟩ := hf.kept e he
    exact ⟨e', he', hid'.trans hid⟩

end Triage

/-! ## Bodies that move nothing -/

set_option mvcgen.warning false

section Unmoved

variable (E : List Entry)

theorem Store.Txn.nextVersion_follows :
    ⦃fun s _ => ⌜Triage.Follows E [] s.db.entries⌝⦄ Txn.nextVersion
    ⦃⇓? _ s _ => ⌜Triage.Follows E [] s.db.entries⌝⦄ := by
  mvcgen [Txn.nextVersion, Txn.loadTicket, Txn.currentVersion, Txn.read, Txn.failWith]

/-- Committing the version leaves the entries, whatever moved them before. -/
theorem Store.Txn.commitVersion_follows (mv : List Move) :
    ⦃fun s _ => ⌜Triage.Follows E mv s.db.entries⌝⦄ Txn.commitVersion
    ⦃⇓? _ s _ => ⌜Triage.Follows E mv s.db.entries⌝⦄ := by
  mvcgen [Txn.commitVersion, Txn.advanceVersion, Txn.loadTicket, Txn.currentVersion, Txn.read,
    Txn.failWith, Txn.writeCounting]
  -- moving the counter leaves the entries
  all_goals
    obtain ⟨rfl, -⟩ := Prod.mk.inj (Database.advanceCounter_ok ‹_›)
    split <;> assumption

theorem Subscription.unsubscribe_follows (sourceId : String) :
    ⦃fun s _ => ⌜Triage.Follows E [] s.db.entries⌝⦄ Subscription.unsubscribe sourceId
    ⦃⇓? _ s _ => ⌜Triage.Follows E [] s.db.entries⌝⦄ := by
  have := Txn.nextVersion_follows E
  mvcgen [Subscription.unsubscribe, Txn.read, Txn.write, Txn.now, Txn.ambient, readClock,
    Txn.fail, this]
  rename_i h _ hdel _ hput
  obtain rfl := Database.deleteSource_ok hdel
  obtain rfl := Database.putTombstone_ok hput
  exact h

theorem IdentityEvent.apply_follows (user : String) (ev : IdentityEvent) :
    ⦃fun s _ => ⌜Triage.Follows E [] s.db.entries⌝⦄ ev.apply user
    ⦃⇓? _ s _ => ⌜Triage.Follows E [] s.db.entries⌝⦄ := by
  have := Txn.nextVersion_follows E
  mvcgen [IdentityEvent.apply, Txn.read, Txn.write, Txn.now, Txn.ambient, readClock,
    Txn.fail, logAt, this]
  all_goals
    rename_i h _ hw
    rcases Database.upsertProfile_ok hw with ⟨-, rfl⟩ | ⟨_, -, rfl⟩ <;> exact h

attribute [local irreducible] Text.trim Text.toUpper Provider.parse? Json.valid in
theorem Subscription.subscribe_follows (req : SubscribeRequest) :
    ⦃fun s _ => ⌜Triage.Follows E [] s.db.entries⌝⦄ Subscription.subscribe req
    ⦃⇓? _ s _ => ⌜Triage.Follows E [] s.db.entries⌝⦄ := by
  have := Txn.nextVersion_follows E
  mvcgen [Subscription.subscribe, Txn.read, Txn.write, Txn.now, Txn.ambient, readClock,
    Txn.fail, Txn.freshId, freshId, this]
  rename_i h _ _ hw
  obtain rfl := Database.insertSource_ok hw
  exact h

namespace Ingest

theorem upsertByProvider_follows (provider : String) (x : Incoming) (kind : Option ContentKind)
    (version : Int) (now : Clock.Instant) :
    ⦃fun s _ => ⌜Triage.Follows E [] s.db.entries⌝⦄ upsertByProvider provider x kind version now
    ⦃⇓? _ s _ => ⌜Triage.Follows E [] s.db.entries⌝⦄ := by
  mvcgen [upsertByProvider, Txn.read, Txn.write, Txn.freshId, freshId, Txn.ambient]
  · rename_i h _ _ _ _ _ _ hw
    obtain rfl := Database.updateItem_ok hw
    exact h
  · rename_i h _ _ _ _ _ hw
    obtain rfl := Database.insertItem_ok hw
    exact h

theorem upsertByUrl_follows (x : Incoming) (kind : Option ContentKind) (version : Int)
    (now : Clock.Instant) :
    ⦃fun s _ => ⌜Triage.Follows E [] s.db.entries⌝⦄ upsertByUrl x kind version now
    ⦃⇓? _ s _ => ⌜Triage.Follows E [] s.db.entries⌝⦄ := by
  mvcgen [upsertByUrl, Txn.read, Txn.write, Txn.freshId, freshId, Txn.ambient]
  rename_i h _ _ _ _ _ hw
  obtain rfl := Database.insertItem_ok hw
  exact h

/-- A new entry starts in the inbox without stamps. -/
theorem ensureEntry_follows (itemId : String) (version : Int) (now : Clock.Instant) :
    ⦃fun s _ => ⌜Triage.Follows E [] s.db.entries⌝⦄ ensureEntry itemId version now
    ⦃⇓? _ s _ => ⌜Triage.Follows E [] s.db.entries⌝⦄ := by
  mvcgen [ensureEntry, Txn.read, Txn.write, Txn.freshId, freshId, Txn.ambient]
  rename_i h _ _ _ _ _ hw
  have hnew := Database.insertEntry_new hw
  obtain rfl := Database.insertEntry_ok hw
  exact h.insert hnew rfl

attribute [local irreducible] Incoming.normalize in
theorem takeItems_follows (src : Source) (now : Clock.Instant) (items : List Incoming) :
    ∀ (i : Nat) (t : Tally), ⦃fun s _ => ⌜Triage.Follows E [] s.db.entries⌝⦄
      takeItems src now i items t ⦃⇓? _ s _ => ⌜Triage.Follows E [] s.db.entries⌝⦄ := by
  induction items with
  | nil =>
    intro i t
    mvcgen [takeItems]
  | cons raw rest ih =>
    intro i t
    have hnext := Txn.nextVersion_follows E
    have hup := upsertByProvider_follows E
    have hensure := ensureEntry_follows E
    mvcgen [takeItems, Txn.read, Txn.write, ih, hnext, hup, hensure]
    rename_i h _ hw
    rcases Database.markSeen_ok hw with rfl | rfl <;> exact h

attribute [local irreducible] Content.cleanUrl Content.cleanText Incoming.parseKind Text.trim
  Text.toUpper Provider.parse? in
theorem save_follows (req : SaveRequest) :
    ⦃fun s _ => ⌜Triage.Follows E [] s.db.entries⌝⦄ save req
    ⦃⇓? _ s _ => ⌜Triage.Follows E [] s.db.entries⌝⦄ := by
  have hnext := Txn.nextVersion_follows E
  have hurl := upsertByUrl_follows E
  have hup := upsertByProvider_follows E
  have hensure := ensureEntry_follows E
  mvcgen [save, Txn.fail, Txn.now, Txn.ambient, readClock, hnext, hurl, hup, hensure]

end Ingest

theorem Ingest.ingest_follows (maxBatch : Nat) (sourceId : String) (items : List Incoming) :
    ⦃fun s _ => ⌜Triage.Follows E [] s.db.entries⌝⦄ Ingest.ingest maxBatch sourceId items
    ⦃⇓? _ s _ => ⌜Triage.Follows E [] s.db.entries⌝⦄ := by
  have htake := Ingest.takeItems_follows E
  have hcommit := Txn.commitVersion_follows E []
  mvcgen [Ingest.ingest, Txn.withTicket, Txn.read, Txn.fail, Txn.now, Txn.ambient, readClock,
    htake, hcommit]

end Unmoved

/-! ## Transitions -/

namespace Triage

/-- **A transition makes the move it asks for**, at the instant it starts, or nothing. -/
theorem transition_follows (D : Database) (A : Ambient) (entryId target : String) :
    ⦃fun s a => ⌜s.db = D ∧ a = A⌝⦄ Triage.transition entryId target
    ⦃⇓? _ s _ => ⌜Follows D.entries (moveOf D.entries entryId target A.clock).toList
      s.db.entries⌝⦄ := by
  mvcgen [Triage.transition, Txn.read, Txn.writeCounting, Txn.now, Txn.ambient, readClock,
    Txn.fail, Txn.nextVersion_frame]
  · -- the entry is in the state asked for: nothing moves
    rename_i state hp s _ hpre _ hread e he hsame
    obtain ⟨rfl, -⟩ := hpre
    subst he
    rw [moveOf_eq hp (Database.entryById_ok hread).symm, if_pos (beq_iff_eq.1 hsame)]
    exact Follows.refl _
  · -- the entry moves, stamped with the instant the transition read
    rename_i state hp s₀ amb hpre _ hread e he hdiff v moved s _ hframe db hit hw _ _
    obtain ⟨rfl, rfl⟩ := hpre
    subst he
    obtain ⟨hdb, -⟩ := hframe
    rw [hdb] at hw
    obtain ⟨rfl, -⟩ := Prod.mk.inj (Database.updateEntry_ok hw)
    have hfind := (Database.entryById_ok hread).symm
    rw [moveOf_eq hp hfind, if_neg (fun h => hdiff (beq_iff_eq.2 h))]
    exact @Follows.move _ ⟨entryId, state, amb.clock⟩ e hfind v
/-- The transaction of a transition request: the move, then its version. -/
def request (entryId target : String) : Txn (Entry × Int) := do
  let ((e, _), v) ← Txn.versioned (Triage.transition entryId target)
  return (e, v)

/-- A transition request makes its move, and its version leaves the entries. -/
theorem request_follows (D : Database) (A : Ambient) (entryId target : String) :
    ⦃fun s a => ⌜s.db = D ∧ a = A⌝⦄ request entryId target
    ⦃⇓? _ s _ => ⌜Follows D.entries (moveOf D.entries entryId target A.clock).toList
      s.db.entries⌝⦄ := by
  have htransition := transition_follows D A entryId target
  have hcommit := Txn.commitVersion_follows D.entries
  mvcgen [request, Txn.versioned, Txn.withTicket, htransition, hcommit]

end Triage

namespace Sync

/-- The move a mutation's effect makes on the entries `E` at an instant: the transition its
arguments ask for, for the three kinds that move an entry. -/
def MutationKind.move (k : MutationKind) (a : Json) (E : List Entry) (now : Instant) :
    Option Move :=
  match k with
  | .updateItemState => Triage.moveOf E (a.textField "userItemId") (a.textField "state") now
  | .bookmarkItem => Triage.moveOf E (a.textField "userItemId") TriageState.bookmarked.name now
  | .archiveItem => Triage.moveOf E (a.textField "userItemId") TriageState.archived.name now
  | .saveItem | .unsubscribeSource => none

/-- The move a mutation makes on the entries `E` at an instant: its kind's, when it parses. -/
def Mutation.move (m : Mutation) (E : List Entry) (now : Instant) : Option Move :=
  match m.parse with
  | .ok (k, a) => k.move a E now
  | .error _ => none

attribute [local irreducible] Content.cleanUrl Content.cleanText Incoming.parseKind Text.trim
  Text.toUpper Provider.parse? Json.textField TriageState.name in
theorem MutationKind.effect_follows (D : Database) (A : Ambient) (k : MutationKind) (a : Json) :
    ⦃fun s amb => ⌜s.db = D ∧ amb = A⌝⦄ k.effect a
    ⦃⇓? _ s _ => ⌜Triage.Follows D.entries (k.move a D.entries A.clock).toList s.db.entries⌝⦄ := by
  have htransition := Triage.transition_follows D A
  have hsave := Ingest.save_follows D.entries
  have hunsubscribe := Subscription.unsubscribe_follows D.entries
  mvcgen [MutationKind.effect, htransition, hsave, hunsubscribe]
  -- a save and an unsubscription start from the store itself and move nothing
  all_goals
    rename_i h
    exact h.1 ▸ Triage.Follows.refl _

attribute [local irreducible] Mutation.parse in
/-- **A mutation makes the move it asks for**, at the instant it starts, or nothing. -/
theorem Mutation.run_follows (D : Database) (A : Ambient) (m : Mutation) :
    ⦃fun s amb => ⌜s.db = D ∧ amb = A⌝⦄ m.run
    ⦃⇓? _ s _ => ⌜Triage.Follows D.entries (m.move D.entries A.clock).toList s.db.entries⌝⦄ := by
  have heffect := MutationKind.effect_follows D A
  mvcgen [Mutation.run, Txn.fail, heffect]
  -- a mutation that parses moves what its kind's effect moves
  rename_i k a hp _ _ _ _ _ _
  intro h
  rw [Mutation.move, hp]
  exact h

end Sync

/-! ## Operations -/

/-- Whether an operation may move entries: a push, or a transition request. -/
def Operation.MayMove : Operation → Prop
  | .push .. | .transition .. => True
  | _ => False

/-- **An operation that is neither a push nor a transition request moves no entry.** -/
theorem Operation.exec_follows {op : Operation} (hop : ¬ op.MayMove) (d : Database)
    (amb : Ambient) : Triage.Follows d.entries [] (op.exec d amb).1.entries := by
  -- the property of a store that the work keeps
  let P : Database → Prop := fun db => Triage.Follows d.entries [] db.entries
  have hd : P d := .refl _
  have hcommit := Txn.commitVersion_follows d.entries []
  cases op with
  | push => exact absurd trivial hop
  | transition => exact absurd trivial hop
  | pull user req =>
    rw [exec, Sync.pull_keeps]
    exact hd
  | ingest n sourceId items =>
    exact Work.atomically_keeps (P := P) (Ingest.ingest_follows d.entries n sourceId items) amb hd
  | subscribe req =>
    have hbody := Txn.versioned_keeps (P := P) hcommit (Subscription.subscribe_follows d.entries req)
    exact Work.atomically_keeps (P := P) (by mvcgen [hbody]) amb hd
  | unsubscribe sourceId =>
    have hbody :=
      Txn.versioned_keeps (P := P) hcommit (Subscription.unsubscribe_follows d.entries sourceId)
    exact Work.atomically_keeps (P := P) (by mvcgen [hbody]) amb hd
  | identity user ev =>
    have hbody := Txn.versioned_keeps (P := P) hcommit (IdentityEvent.apply_follows d.entries user ev)
    exact Work.atomically_keeps (P := P) (by mvcgen [hbody]) amb hd

end ReadLater
