import Mathlib
import ReadLater.Proofs.Ingest.Batches

/-!
# What an ingest reports

An ingest accounts for every item of its batch once. Against the deliveries of the source that
the store had marked before the call, an item is

* rejected when it fails the checks: the report lists it, in index order, with the reason;
* skipped when its key (its trimmed provider id) was marked before the call, or is the key of an
  earlier item of the batch: the report counts it;
* taken otherwise: its item is written and its delivery marked, and the report lists the user's
  entry for the item, each entry once, in the order first reached.

The version rises by one exactly when an item is taken, and an ingest that fails leaves the store
as it was.

* `Incoming.key?`, `Store.Database.marked`, `Store.Database.entryIdOf`;
* `Ingest.Fate`, `Ingest.fates M items`: the fate of each item of a batch against the marks `M`,
  read item by item through `fates_cons`; `rejectionsFrom_eq_fates`;
* `Ingest.takeItems_cons_exec`: one item of a take, in three cases; `takeNew_effects`: what taking
  a new delivery leaves;
* `Ingest.takeItems_skips`, `Ingest.takeItems_lists_entries`: what a whole take counts and lists;
* `Ingest.Accounts`: what a successful ingest reports, item by item;
  **`Ingest.ingest_accounts_for_every_item`**: every ingest that succeeds accounts so, and every
  one that fails leaves the store as it was.
-/

namespace ReadLater

open Clock Store Std.Do

set_option mvcgen.warning false

/-- The key of an item: its trimmed provider id, when the item passes the checks. -/
def Incoming.key? (raw : Incoming) : Option String :=
  match raw.normalize with
  | .ok (x, _) => some x.providerItemId
  | .error _ => none

namespace Store.Database

/-- Whether a store holds a mark of a source's delivery of a provider id. -/
def marked (d : Database) (sourceId providerItemId : String) : Bool :=
  d.seen.any fun m => m.sourceId == sourceId && m.providerItemId == providerItemId

/-- The id of the user's entry for the item that a provider knows by a key. -/
def entryIdOf (d : Database) (provider key : String) : Option String :=
  (d.itemOf (.provider provider (some key))).bind fun i => (d.entryOf i.id).map (·.id)

variable {d d' : Database}

theorem wasSeen_ok {k p : String} {b : Bool} (h : d.wasSeen k p = .ok b) : b = d.marked k p := by
  simp only [wasSeen, Sql.bind_eq_ok, Sql.pure_eq_ok] at h
  obtain ⟨_, -, rfl⟩ := h
  rfl

/-- A mark written adds its provider id to the source's marks. -/
theorem marked_markSeen {m : SeenMark} (h : d.markSeen m = .ok d') (q : String) :
    d'.marked m.sourceId q = (d.marked m.sourceId q || m.providerItemId == q) := by
  obtain ⟨-, rfl⟩ := markSeen_eq h
  split
  · -- the delivery was marked already
    rename_i hany
    by_cases hq : m.providerItemId = q
    · subst hq
      simp only [marked, hany, beq_self_eq_true, Bool.or_true]
    · simp [hq]
  · simp [marked, List.any_append]

/-- What a resolving store reached by a key, it reaches under the same entry id. -/
theorem Resolves.entryIdOf {D : Database} (h : D.Resolves d) {provider key id : String}
    (he : D.entryIdOf provider key = some id) : d.entryIdOf provider key = some id := by
  simp only [Database.entryIdOf, Option.bind_eq_some_iff, Option.map_eq_some_iff] at he
  obtain ⟨j, hj, e, he, rfl⟩ := he
  obtain ⟨j', hj', hid⟩ := h.itemOf hj
  obtain ⟨e', he', heid⟩ := h.entryOf he
  simp only [Database.entryIdOf, hj', hid, he', Option.bind_some, Option.map_some, heid]

end Store.Database

/-- A list without repeats, grown by one element at its end. -/
theorem List.eraseDups_append_singleton {α : Type} [BEq α] [LawfulBEq α] (E : List α) (a : α) :
    (E ++ [a]).eraseDups = if E.eraseDups.contains a then E.eraseDups else E.eraseDups ++ [a] := by
  rw [List.eraseDups_append]
  by_cases ha : a ∈ E
  · have hnil : [a].removeAll E = [] := by simp [List.removeAll, ha]
    simp [hnil, ha]
  · have hone : [a].removeAll E = [a] := by simp [List.removeAll, ha]
    simp [hone, ha, List.eraseDups_cons]

namespace Ingest

/-! ## The fate of each item -/

/-- What a batch does with one of its items. -/
inductive Fate where
  /-- The item fails the checks: it is listed with its provider id as delivered and the reason. -/
  | rejected (providerItemId : String) (problem : Problem)
  /-- The item's key was marked before, or is the key of an earlier item: it is counted. -/
  | skipped
  /-- The item is written under its key. -/
  | taken (key : String)

namespace Fate

/-- The rejection that the fate of the item at an index reports. -/
def rejection : Fate → Nat → Option Rejection
  | .rejected pid e, j => some ⟨j, pid, e.code, e.message⟩
  | _, _ => none

def isSkipped : Fate → Bool
  | .skipped => true
  | _ => false

/-- The key of a taken item. -/
def taken? : Fate → Option String
  | .taken p => some p
  | _ => none

end Fate

/-- The fate of an item that follows the items `before` it in its batch, against the marks `M`
made before the batch. -/
def fate (M : String → Bool) (before : List Incoming) (raw : Incoming) : Fate :=
  match raw.normalize with
  | .error e => .rejected raw.providerItemId e
  | .ok (x, _) =>
    if M x.providerItemId || before.any (·.key? == some x.providerItemId) then .skipped
    else .taken x.providerItemId

/-- The fates of the items of a batch, in order. -/
def fates (M : String → Bool) (items : List Incoming) : List Fate :=
  items.mapIdx fun j raw => fate M (items.take j) raw

/-- The rejections that the fates of a batch report, each with its index, in index order. -/
def rejectionsOf (F : List Fate) : List Rejection :=
  F.zipIdx.filterMap fun (f, j) => f.rejection j

/-- The keys of the items taken, in order. -/
def takenKeys (F : List Fate) : List String := F.filterMap Fate.taken?

@[simp] theorem takenKeys_nil : takenKeys [] = [] := rfl

@[simp] theorem takenKeys_cons (f : Fate) (F : List Fate) :
    takenKeys (f :: F) = f.taken?.toList ++ takenKeys F := by
  cases f <;> rfl

/-- Every item has one fate: rejected, skipped or taken. -/
theorem length_rejections_add_skipped_add_taken :
    ∀ (F : List Fate) (i : Nat), ((F.zipIdx i).filterMap fun (f, j) => f.rejection j).length +
      F.countP Fate.isSkipped + (takenKeys F).length = F.length := by
  intro F
  induction F with
  | nil => intro i; rfl
  | cons f F ih =>
    intro i
    have := ih (i + 1)
    cases f <;> simp only [List.zipIdx_cons, List.filterMap_cons, Fate.rejection, takenKeys,
      List.countP_cons, Fate.isSkipped, Fate.taken?, List.length_cons] at this ⊢ <;> grind

/-- The marks `M` and the key of an item. -/
def withKey (M : String → Bool) (raw : Incoming) (p : String) : Bool :=
  M p || raw.key? == some p

theorem fate_cons (M : String → Bool) (raw : Incoming) (before : List Incoming) (r : Incoming) :
    fate M (raw :: before) r = fate (withKey M raw) before r := by
  unfold fate withKey
  split
  · rfl
  · -- the key of `raw` moves from the items before into the marks
    rw [List.any_cons, Bool.or_assoc]

/-- A batch read item by item: an item's key joins the marks the rest is read against. -/
theorem fates_cons (M : String → Bool) (raw : Incoming) (rest : List Incoming) :
    fates M (raw :: rest) = fate M [] raw :: fates (withKey M raw) rest := by
  simp only [fates, List.mapIdx_cons, List.take_zero, List.take_succ_cons, fate_cons]

/-- The rejections of a batch from index `i` on are those its fates report. -/
theorem rejectionsFrom_eq_fates :
    ∀ (M : String → Bool) (items : List Incoming) (i : Nat),
      rejectionsFrom i items = ((fates M items).zipIdx i).filterMap fun (f, j) => f.rejection j := by
  intro M items
  induction items generalizing M with
  | nil => intro i; rfl
  | cons raw rest ih =>
    intro i
    rw [fates_cons, List.zipIdx_cons, List.filterMap_cons, ← ih, rejectionsFrom]
    rcases hn : raw.normalize with e | ⟨x, kind⟩
    · simp [fate, hn, Fate.rejection]
    · by_cases hM : M x.providerItemId <;> simp [fate, hn, hM, Fate.rejection]

/-! ## One item of a take -/

attribute [local irreducible] Incoming.normalize in
/-- One item of a take that succeeds: rejected, skipped as marked, or taken as a new delivery
(a version, its item, its mark and its entry), with the rest of the take after it. -/
theorem takeItems_cons_exec {src : Source} {now : Instant} {i : Nat} {raw : Incoming}
    {rest : List Incoming} {t t' : Tally} {s s' : TxnState} {amb amb' : Ambient}
    (h : (takeItems src now i (raw :: rest) t).exec s amb = (.ok (t', s'), amb')) :
    (∃ e, raw.normalize = .error e ∧
      (takeItems src now (i + 1) rest { t with rejections :=
        t.rejections ++ [⟨i, raw.providerItemId, e.code, e.message⟩] }).exec s amb =
        (.ok (t', s'), amb')) ∨
    (∃ x kind, raw.normalize = .ok (x, kind) ∧ s.db.wasSeen src.id x.providerItemId = .ok true ∧
      (takeItems src now (i + 1) rest { t with skipped := t.skipped + 1 }).exec s amb =
        (.ok (t', s'), amb')) ∨
    (∃ x kind, raw.normalize = .ok (x, kind) ∧ s.db.wasSeen src.id x.providerItemId = .ok false ∧
      ∃ v s₁ amb₁ item s₂ amb₂ s₃ e s₄ amb₄,
        Txn.nextVersion.exec s amb = (.ok (v, s₁), amb₁) ∧
        (upsertByProvider src.provider.name x kind v now).exec s₁ amb₁ = (.ok (item, s₂), amb₂) ∧
        s₂.db.markSeen ⟨src.id, x.providerItemId, now⟩ = .ok s₃.db ∧ s₃.ticket = s₂.ticket ∧
        (ensureEntry item.id v now).exec s₃ amb₂ = (.ok (e, s₄), amb₄) ∧
        (takeItems src now (i + 1) rest
          { t with entryIds := if t.entryIds.contains e.id then t.entryIds
                               else t.entryIds ++ [e.id] }).exec s₄ amb₄ =
          (.ok (t', s'), amb')) := by
  unfold takeItems at h
  rcases hn : raw.normalize with e | ⟨x, kind⟩ <;> rw [hn] at h <;> dsimp only at h
  · exact .inl ⟨e, rfl, h⟩
  obtain ⟨seen, s₀, amb₀, hread, h⟩ := Txn.exec_bind_eq_ok.1 h
  obtain ⟨hseen, rfl, rfl⟩ := Txn.read_ok hread
  cases seen
  · simp only [Bool.false_eq_true, ↓reduceIte] at h
    obtain ⟨v, s₁, amb₁, hnext, h₁⟩ := Txn.exec_bind_eq_ok.1 h
    obtain ⟨item, s₂, amb₂, hup, h₂⟩ := Txn.exec_bind_eq_ok.1 h₁
    obtain ⟨_, s₃, amb₃, hmark, h₃⟩ := Txn.exec_bind_eq_ok.1 h₂
    obtain ⟨hw, htk, hamb⟩ := Txn.write_ok hmark
    obtain ⟨e, s₄, amb₄, hentry, h₄⟩ := Txn.exec_bind_eq_ok.1 h₃
    exact .inr (.inr ⟨x, kind, rfl, hseen, v, s₁, amb₁, item, s₂, amb₂, s₃, e, s₄, amb₄, hnext, hup,
      hw, htk, hamb ▸ hentry, h₄⟩)
  · exact .inr (.inl ⟨x, kind, rfl, hseen, h⟩)

variable (S : List SeenMark) (T : VersionTicket)

/-- Writing an item keeps the marks and the ticket. -/
theorem upsertByProvider_keeps_marks (provider : String) (x : Incoming)
    (kind : Option ContentKind) (version : Int) (now : Instant) :
    ⦃fun s _ => ⌜s.db.seen = S ∧ s.ticket = T⌝⦄ upsertByProvider provider x kind version now
    ⦃⇓? _ s _ => ⌜s.db.seen = S ∧ s.ticket = T⌝⦄ := by
  mvcgen [upsertByProvider, Txn.read, Txn.write, Txn.freshId, freshId, Txn.ambient]
  · rename_i h _ _ _ _ _ _ hw
    rw [Database.updateItem_ok hw]
    exact h
  · rename_i h _ _ _ _ _ hw
    rw [Database.insertItem_ok hw]
    exact h

/-- Finding or writing an entry keeps the marks and the ticket. -/
theorem ensureEntry_keeps_marks (itemId : String) (version : Int) (now : Instant) :
    ⦃fun s _ => ⌜s.db.seen = S ∧ s.ticket = T⌝⦄ ensureEntry itemId version now
    ⦃⇓? _ s _ => ⌜s.db.seen = S ∧ s.ticket = T⌝⦄ := by
  mvcgen [ensureEntry, Txn.read, Txn.write, Txn.freshId, freshId, Txn.ambient]
  rename_i h _ _ _ _ _ hw
  rw [Database.insertEntry_ok hw]
  exact h

/-- A new delivery taken: the store marks its key, the ticket is used, and in a store that holds
each key once the key reaches the user's entry for its item. -/
theorem takeNew_effects {src : Source} {now : Instant} {x : Incoming} {kind : Option ContentKind}
    {v : Int} {item : Item} {e : Entry} {s s₁ s₂ s₃ s₄ : TxnState}
    {amb amb₁ amb₂ amb₄ : Ambient}
    (hnext : Txn.nextVersion.exec s amb = (.ok (v, s₁), amb₁))
    (hup : (upsertByProvider src.provider.name x kind v now).exec s₁ amb₁ = (.ok (item, s₂), amb₂))
    (hmark : s₂.db.markSeen ⟨src.id, x.providerItemId, now⟩ = .ok s₃.db)
    (htk : s₃.ticket = s₂.ticket)
    (hentry : (ensureEntry item.id v now).exec s₃ amb₂ = (.ok (e, s₄), amb₄)) :
    (∀ q, s₄.db.marked src.id q = (s.db.marked src.id q || x.providerItemId == q)) ∧
      s₄.ticket.used = true ∧
      (s.db.Deduplicated → s₄.db.Deduplicated ∧
        s₄.db.entryIdOf src.provider.name x.providerItemId = some e.id) := by
  obtain ⟨-, c, -, hs₁, -⟩ := Txn.nextVersion_ok hnext
  have hpre : s₁.db.seen = s.db.seen ∧ s₁.ticket = ⟨some c, true⟩ := by
    rw [hs₁]
    exact ⟨rfl, rfl⟩
  obtain ⟨hseen₂, htk₂⟩ := Txn.of_triple (upsertByProvider_keeps_marks _ _ _ _ _ _ _) hpre hup
  obtain ⟨hseen₄, htk₄⟩ :=
    Txn.of_triple (ensureEntry_keeps_marks s₃.db.seen s₃.ticket _ _ _) ⟨rfl, rfl⟩ hentry
  refine ⟨fun q => ?_, by rw [htk₄, htk, htk₂], fun hd => ?_⟩
  · calc s₄.db.marked src.id q = s₃.db.marked src.id q := by simp only [Database.marked, hseen₄]
      _ = (s₂.db.marked src.id q || x.providerItemId == q) := Database.marked_markSeen hmark q
      _ = (s.db.marked src.id q || x.providerItemId == q) := by simp only [Database.marked, hseen₂]
  · -- the key finds the item written, and the item its entry
    have hres₁ : s.db.Resolves s₁.db := by
      rw [hs₁]
      exact .refl hd
    obtain ⟨hres₂, hitem⟩ := Txn.of_triple (upsertByProvider_finds s.db _ _ _ _ _) hres₁ hup
    have hres₃ : s₂.db.Resolves s₃.db := Database.Resolves.markSeen (.refl hres₂.unique) hmark
    obtain ⟨hres₄, hentry'⟩ := Txn.of_triple (ensureEntry_finds s₂.db _ _ _) hres₃ hentry
    obtain ⟨j, hj, hid⟩ := hres₄.itemOf hitem
    refine ⟨hres₄.unique, ?_⟩
    simp only [Database.entryIdOf, hj, Option.bind_some, hid, hentry', Option.map_some]

/-! ## A whole take -/

attribute [local irreducible] Incoming.normalize in
/-- **A take counts the items it skips, and uses the ticket exactly when it takes one.** The
induction is on the batch; along it, the store's marks of the source are the marks `M` made
before the batch together with the keys of the items so far (`withKey`). -/
theorem takeItems_skips {src : Source} {now : Instant} :
    ∀ {items : List Incoming} {M : String → Bool} {i : Nat} {t t' : Tally} {s s' : TxnState}
      {amb amb' : Ambient},
      (∀ p, s.db.marked src.id p = M p) →
      (takeItems src now i items t).exec s amb = (.ok (t', s'), amb') →
      t'.skipped = t.skipped + (fates M items).countP Fate.isSkipped ∧
        s'.ticket.used = (s.ticket.used || !(takenKeys (fates M items)).isEmpty) := by
  intro items
  induction items with
  | nil =>
    intro M i t t' s s' amb amb' _ h
    simp only [takeItems, Txn.exec_pure, Prod.mk.injEq, Except.ok.injEq] at h
    obtain ⟨⟨rfl, rfl⟩, rfl⟩ := h
    simp [fates, takenKeys]
  | cons raw rest ih =>
    intro M i t t' s s' amb amb' hM h
    rw [fates_cons]
    rcases takeItems_cons_exec h with ⟨e, hn, hrest⟩ | ⟨x, kind, hn, hseen, hrest⟩ |
      ⟨x, kind, hn, hseen, v, s₁, amb₁, item, s₂, amb₂, s₃, e, s₄, amb₄, hnext, hup, hmark, htk,
        hentry, hrest⟩
    · -- rejected: the marks stay
      have hM' : ∀ p, s.db.marked src.id p = withKey M raw p := by
        simp [withKey, Incoming.key?, hn, hM]
      obtain ⟨hsk, hused⟩ := ih hM' hrest
      simp [fate, hn, hsk, hused, Fate.isSkipped, Fate.taken?]
    · -- skipped: its key was marked
      have hmk : M x.providerItemId = true := by rw [← hM, ← Database.wasSeen_ok hseen]
      have hM' : ∀ p, s.db.marked src.id p = withKey M raw p := by
        intro p
        by_cases hp : x.providerItemId = p
        · subst hp
          simp [withKey, hM, hmk]
        · simp [withKey, Incoming.key?, hn, hM, hp]
      obtain ⟨hsk, hused⟩ := ih hM' hrest
      dsimp only at hsk
      simp only [hsk, hused, fate, hn, hmk, Bool.true_or, ↓reduceIte, List.countP_cons,
        Fate.isSkipped, takenKeys_cons, Fate.taken?, Option.toList_none, List.nil_append]
      exact ⟨by omega, trivial⟩
    · -- taken: a new key, marked from now on
      have hnm : M x.providerItemId = false := by rw [← hM, ← Database.wasSeen_ok hseen]
      obtain ⟨hmarks, hused₄, -⟩ := takeNew_effects hnext hup hmark htk hentry
      have hM' : ∀ p, s₄.db.marked src.id p = withKey M raw p := by
        intro p
        simp [hmarks, hM, withKey, Incoming.key?, hn]
      obtain ⟨hsk, hused⟩ := ih hM' hrest
      simp [fate, hn, hnm, hsk, hused, hused₄, Fate.isSkipped, Fate.taken?]

attribute [local irreducible] Incoming.normalize in
/-- **A take lists the entries that the keys it takes reach, each once, in the order first
reached.** In a store that holds each key once, every key taken reaches the user's entry for its
item in the store the take leaves; the tally lists those entries after the ones `E` it held. -/
theorem takeItems_lists_entries {src : Source} {now : Instant} :
    ∀ {items : List Incoming} {M : String → Bool} {i : Nat} {t t' : Tally} {s s' : TxnState}
      {amb amb' : Ambient} {E : List String},
      (∀ p, s.db.marked src.id p = M p) → s.db.Deduplicated →
      (takeItems src now i items t).exec s amb = (.ok (t', s'), amb') →
      t.entryIds = E.eraseDups → ∃ ids, (takenKeys (fates M items)).map (s'.db.entryIdOf src.provider.name) = ids.map some ∧
        t'.entryIds = (E ++ ids).eraseDups := by
  intro items
  induction items with
  | nil =>
    intro M i t t' s s' amb amb' E _ _ h hE
    simp only [takeItems, Txn.exec_pure, Prod.mk.injEq, Except.ok.injEq] at h
    obtain ⟨⟨rfl, rfl⟩, rfl⟩ := h
    exact ⟨[], rfl, by rw [List.append_nil, hE]⟩
  | cons raw rest ih =>
    intro M i t t' s s' amb amb' E hM hd h hE
    rw [fates_cons]
    rcases takeItems_cons_exec h with ⟨e, hn, hrest⟩ | ⟨x, kind, hn, hseen, hrest⟩ |
      ⟨x, kind, hn, hseen, v, s₁, amb₁, item, s₂, amb₂, s₃, e, s₄, amb₄, hnext, hup, hmark, htk,
        hentry, hrest⟩
    · -- rejected: nothing listed
      have hM' : ∀ p, s.db.marked src.id p = withKey M raw p := by
        simp [withKey, Incoming.key?, hn, hM]
      obtain ⟨ids, hids, hlist⟩ := ih hM' hd hrest hE
      exact ⟨ids, by simpa [fate, hn, Fate.taken?] using hids, hlist⟩
    · -- skipped: nothing listed
      have hmk : M x.providerItemId = true := by rw [← hM, ← Database.wasSeen_ok hseen]
      have hM' : ∀ p, s.db.marked src.id p = withKey M raw p := by
        intro p
        by_cases hp : x.providerItemId = p
        · subst hp
          simp [withKey, hM, hmk]
        · simp [withKey, Incoming.key?, hn, hM, hp]
      obtain ⟨ids, hids, hlist⟩ := ih hM' hd hrest hE
      exact ⟨ids, by simpa [fate, hn, hmk, Fate.taken?] using hids, hlist⟩
    · -- taken: its entry listed unless it was already
      have hnm : M x.providerItemId = false := by rw [← hM, ← Database.wasSeen_ok hseen]
      obtain ⟨hmarks, -, hnew⟩ := takeNew_effects hnext hup hmark htk hentry
      obtain ⟨hd₄, hreach⟩ := hnew hd
      have hM' : ∀ p, s₄.db.marked src.id p = withKey M raw p := by
        intro p
        simp [hmarks, hM, withKey, Incoming.key?, hn]
      obtain ⟨ids, hids, hlist⟩ := ih hM' hd₄ hrest
        (show _ = (E ++ [e.id]).eraseDups by rw [List.eraseDups_append_singleton, ← hE])
      -- the rest of the take keeps what the key reached
      have hres := Txn.of_triple (takeItems_resolves s₄.db src now rest (i + 1) _) (.refl hd₄) hrest
      refine ⟨e.id :: ids, ?_, by rw [hlist, List.append_assoc, List.singleton_append]⟩
      simp [fate, hn, hnm, Fate.taken?, hids, hres.entryIdOf hreach]

/-! ## An ingest -/

/-- An ingest that fails leaves the store as it was. -/
theorem atomically_ingest_error {n : Nat} {sid : String} {items : List Incoming} {d d' : Database}
    {amb amb' : Ambient} {f : Failure}
    (h : (Work.atomically (Ingest.ingest n sid items)).exec d amb = ((.error f, d'), amb')) :
    d' = d := by
  rw [Work.exec_atomically] at h
  rcases hx : (Ingest.ingest n sid items).exec ⟨d, {}⟩ amb with ⟨_ | ⟨r, s⟩, amb₀⟩ <;>
    rw [hx] at h
  · simp only [Prod.mk.injEq] at h
    exact h.1.2.symm
  · cases h

/-- What an ingest of `items` for the source `src` reports as `rep`, from a store `d` at version
`v₀` to the store `d'`, against the deliveries of the source marked in `d`. -/
structure Accounts (src : Source) (items : List Incoming) (d : Database) (v₀ : Int) (d' : Database)
    (rep : IngestReport) : Prop where
  /-- The rejected items, with their index and reason, in index order. -/
  rejections : rep.rejections = rejectionsOf (fates (d.marked src.id) items)
  skipped : rep.skipped = (fates (d.marked src.id) items).countP Fate.isSkipped
  /-- Rejected, skipped and taken items make up the batch. -/
  partition : rep.rejections.length + rep.skipped +
    (takenKeys (fates (d.marked src.id) items)).length = items.length
  version : d'.counter = some rep.version
  /-- The version rises by one exactly when an item is taken. -/
  rise : rep.version = if takenKeys (fates (d.marked src.id) items) = [] then v₀ else v₀ + 1
  /-- In a store that holds each key once, every key taken reaches an entry, and the report lists
  those entries each once, in the order first reached. -/
  entries : d.Deduplicated → ∃ ids : List String,
    (takenKeys (fates (d.marked src.id) items)).map (d'.entryIdOf src.provider.name) =
      ids.map some ∧ rep.entryIds = ids.eraseDups

/-- **An ingest accounts for every item of its batch.** An ingest that fails, whatever the
reason, leaves every table and the version as they were. An ingest that succeeds found its source
and a batch within the limit, and accounts for each item of the batch by its fate against the
deliveries of the source marked before the call (`Accounts`). -/
theorem ingest_accounts_for_every_item (n : Nat) (sid : String) (items : List Incoming)
    (d : Database) (amb : Ambient) :
    (∀ f d' amb', (Work.atomically (Ingest.ingest n sid items)).exec d amb =
      ((.error f, d'), amb') → d' = d) ∧
    ∀ rep d' amb', (Work.atomically (Ingest.ingest n sid items)).exec d amb =
      ((.ok rep, d'), amb') →
      ∃ src v₀, d.sourceById sid = .ok (some src) ∧ items.length ≤ n ∧ d.counter = some v₀ ∧
        Accounts src items d v₀ d' rep := by
  refine ⟨fun f d' amb' h => atomically_ingest_error h, fun rep d' amb' h => ?_⟩
  obtain ⟨-, hn, src, t, s, amb₁, s', hsrc, ht, hc, hrep, rfl⟩ := atomically_ingest_ok h
  have hM : ∀ p, (⟨d, {}⟩ : TxnState).db.marked src.id p = d.marked src.id p := fun _ => rfl
  have hB := Txn.of_triple (takeItems_batched ⟨d, {}⟩ src amb.clock items 0 {}) (Batched.refl _) ht
  have hstore := commitVersion_store hc hB.loaded
  obtain ⟨hrej, -⟩ := takeItems_marks ht
  obtain ⟨hsk, hused⟩ := takeItems_skips hM ht
  obtain ⟨-, c, hcur, -, hcommit⟩ := Txn.commitVersion_ok hc
  -- the ticket held nothing before the take, so the commit read the counter of the store
  have hcounter : d.counter = some c := by
    rcases hcur with hcur | ⟨-, hcnt⟩
    · rcases hB.current with hnone | ⟨-, hcd⟩
      · rw [hcur] at hnone
        cases hnone
      · rw [← hcd, hcur]
    · rw [← hB.counter, hcnt]
  have hrejs : rep.rejections = rejectionsOf (fates (d.marked src.id) items) := by
    rw [hrep, hrej, List.nil_append, rejectionsFrom_eq_fates (d.marked src.id) items 0]
    rfl
  have hskips : rep.skipped = (fates (d.marked src.id) items).countP Fate.isSkipped := by
    rw [hrep, hsk, Nat.zero_add]
  refine ⟨src, c, hsrc, hn, hcounter, hrejs, hskips, ?_, by rw [hstore], ?_, fun hd => ?_⟩
  · rw [hrejs, hskips, rejectionsOf, length_rejections_add_skipped_add_taken, fates,
      List.length_mapIdx]
  · -- the commit moves the counter exactly when the take used the ticket
    rcases hcommit with ⟨hu, -, hv⟩ | ⟨hu, -, -, hv⟩ <;> rw [hused] at hu
    · have hnil : takenKeys (fates (d.marked src.id) items) = [] := by simpa using hu
      rw [if_pos hnil, hv]
    · have hne : takenKeys (fates (d.marked src.id) items) ≠ [] := by simpa using hu
      rw [if_neg hne, hv]
  · obtain ⟨ids, hids, hlist⟩ := takeItems_lists_entries hM hd ht (E := []) rfl
    refine ⟨ids, ?_, by rw [hrep, hlist, List.nil_append]⟩
    rw [hstore]
    exact hids

/-- A store with one YouTube source that has delivered `m` before, and YouTube's item `b` with
the user's entry for it. -/
def markedVideoStore : Database :=
  { tables := [.items, .sources, .seen, .entries, .counter],
    versioned := [.items, .sources, .entries],
    counter := some 3,
    sources := [⟨"s", .youtube, "UC", "", "", 1, ⟨0⟩⟩],
    items := [{ id := "b", kind := .video, provider := some "YOUTUBE", providerId := some "b",
                version := 2, createdAt := ⟨0⟩, updatedAt := ⟨0⟩ }],
    entries := [{ id := "eb", itemId := "b", state := .inbox, ingestedAt := ⟨0⟩, version := 2 }],
    seen := [⟨"s", "m", ⟨0⟩⟩] }

/-- A new key, a blank id, the key marked before, the new key again and the known item. -/
def mixedBatch : List Incoming :=
  [{ providerItemId := " a " }, { providerItemId := " " }, { providerItemId := "m" },
    { providerItemId := "a" }, { providerItemId := "b" }]

/-- That batch, ingested into that store. -/
theorem mixed_batch_accounted :
    ∃ rep d' amb', (Work.atomically (Ingest.ingest 500 "s" mixedBatch)).exec markedVideoStore {} =
        ((.ok rep, d'), amb') ∧
      ∃ src v₀, markedVideoStore.sourceById "s" = .ok (some src) ∧ mixedBatch.length ≤ 500 ∧
        markedVideoStore.counter = some v₀ ∧ Accounts src mixedBatch markedVideoStore v₀ d' rep := by
  have hok : ((Work.atomically (Ingest.ingest 500 "s" mixedBatch)).exec
      markedVideoStore {}).1.1.toBool = true := by
    decide +kernel
  rcases hx : (Work.atomically (Ingest.ingest 500 "s" mixedBatch)).exec markedVideoStore {} with
    ⟨⟨_ | rep, d'⟩, amb'⟩
  · rw [hx] at hok
    cases hok
  · exact ⟨rep, d', amb', rfl, (ingest_accounts_for_every_item _ _ _ _ _).2 rep d' amb' hx⟩

-- the blank id is rejected at index 1; `m` and the second `a` are skipped; `a` and `b` are taken
example : (rejectionsOf (fates (markedVideoStore.marked "s") mixedBatch)).map (·.index) = [1] ∧
    (fates (markedVideoStore.marked "s") mixedBatch).countP Fate.isSkipped = 2 ∧
    takenKeys (fates (markedVideoStore.marked "s") mixedBatch) = ["a", "b"] := by
  decide +kernel

end Ingest

end ReadLater
