import Mathlib
import ReadLater.Proofs.Store.Identities
import ReadLater.Proofs.Soundness
import ReadLater.Proofs.Triage.Standing

/-!
# One row per key in every store the service reaches

No key of the store keeps two items of one identity apart: the code that takes a delivery or a
save looks the item up by its identity and creates one only when the lookup finds none. This
module proves that this is enough, over every run of the service, and that the lookups find the
same rows again:

* one triple per transaction body: every body keeps the items and entries of the store it
  started from, under their ids and keys, and holds each key once (`Ingest.ingest_resolves`,
  `Subscription.unsubscribe_resolves`, …); a push does so mutation by mutation
  (`Sync.push_resolves`);
* `Operation.exec_resolves`: so does every operation, committed or not;
* `Store.Reachable.deduplicated`: every store the service reaches holds each key once;
* `Ingest.upsertByProvider_finds`, `Ingest.upsertByUrl_finds`, `Ingest.ensureEntry_finds`: the
  item a delivery or a save resolves to is the one the store then knows by its identity, and the
  one it knew before if there was one; the same for the entry of an item;
* **`content_identity_unique`**: the three together.
-/

namespace ReadLater

open Clock Store Std.Do

set_option mvcgen.warning false

/-! ## A new store -/

/-- Clearing a table, and the schema's bookkeeping, keep each key once. -/
theorem Store.Database.Deduplicated.schemaStable : SchemaStable Deduplicated where
  clearRows d t h := by
    cases t with
    | items => exact { h with itemIds := List.nodup_nil, identities := List.nodup_nil }
    | entries => exact { h with entryIds := List.nodup_nil, entryItems := List.nodup_nil }
    | sources => exact { h with sources := List.nodup_nil }
    | seen => exact { h with seen := List.nodup_nil }
    | profile | clients | counter | tombstones | migrations => exact h.of_rows rfl rfl rfl rfl
  tables _ _ h := h.of_rows rfl rfl rfl rfl
  versioned _ _ h := h.of_rows rfl rfl rfl rfl
  indexes _ _ h := h.of_rows rfl rfl rfl rfl
  seeded _ h := h.of_rows rfl rfl rfl rfl
  applied _ _ h := h.of_rows rfl rfl rfl rfl

/-- A new store holds each key once. -/
theorem Store.newStore_deduplicated (user : String) (amb : Ambient) :
    (newStore user amb).Deduplicated :=
  Database.Deduplicated.schemaStable.newStore
    ⟨List.nodup_nil, List.nodup_nil, List.nodup_nil, List.nodup_nil, List.nodup_nil,
      List.nodup_nil⟩ user amb

/-! ## Every transaction body -/

section Bodies

variable (D : Database)

theorem Store.Txn.nextVersion_resolves :
    ⦃fun s _ => ⌜D.Resolves s.db⌝⦄ Txn.nextVersion ⦃⇓? _ s _ => ⌜D.Resolves s.db⌝⦄ := by
  mvcgen [Txn.nextVersion, Txn.loadTicket, Txn.currentVersion, Txn.read, Txn.failWith]

theorem Store.Txn.commitVersion_resolves :
    ⦃fun s _ => ⌜D.Resolves s.db⌝⦄ Txn.commitVersion ⦃⇓? _ s _ => ⌜D.Resolves s.db⌝⦄ := by
  mvcgen [Txn.commitVersion, Txn.advanceVersion, Txn.loadTicket, Txn.currentVersion, Txn.read,
    Txn.failWith, Txn.writeCounting]
  all_goals exact Database.Resolves.advanceCounter ‹_› ‹_›

theorem Subscription.unsubscribe_resolves (sourceId : String) :
    ⦃fun s _ => ⌜D.Resolves s.db⌝⦄ Subscription.unsubscribe sourceId
    ⦃⇓? _ s _ => ⌜D.Resolves s.db⌝⦄ := by
  have := Txn.nextVersion_resolves D
  mvcgen [Subscription.unsubscribe, Txn.read, Txn.write, Txn.now, Txn.ambient, readClock,
    Txn.fail, this]
  rename_i h _ hdel _ hput
  obtain rfl := Database.putTombstone_ok hput
  exact (h.deleteSource hdel).of_rows rfl rfl rfl rfl

theorem IdentityEvent.apply_resolves (user : String) (ev : IdentityEvent) :
    ⦃fun s _ => ⌜D.Resolves s.db⌝⦄ ev.apply user ⦃⇓? _ s _ => ⌜D.Resolves s.db⌝⦄ := by
  have := Txn.nextVersion_resolves D
  mvcgen [IdentityEvent.apply, Txn.read, Txn.write, Txn.now, Txn.ambient, readClock,
    Txn.fail, logAt, this]
  all_goals
    rename_i h _ hw
    rcases Database.upsertProfile_ok hw with ⟨-, rfl⟩ | ⟨_, -, rfl⟩ <;>
      exact h.of_rows rfl rfl rfl rfl

attribute [local irreducible] Text.trim Text.toUpper Provider.parse? Json.valid in
theorem Subscription.subscribe_resolves (req : SubscribeRequest) :
    ⦃fun s _ => ⌜D.Resolves s.db⌝⦄ Subscription.subscribe req ⦃⇓? _ s _ => ⌜D.Resolves s.db⌝⦄ := by
  have := Txn.nextVersion_resolves D
  mvcgen [Subscription.subscribe, Txn.read, Txn.write, Txn.now, Txn.ambient, readClock,
    Txn.fail, Txn.freshId, freshId, this]
  rename_i h _ _ hw
  exact h.insertSource hw

/-- A transition writes the entry it found, moved, under its id and item. -/
theorem Triage.transition_resolves (entryId target : String) :
    ⦃fun s _ => ⌜D.Resolves s.db⌝⦄ Triage.transition entryId target
    ⦃⇓? _ s _ => ⌜D.Resolves s.db⌝⦄ := by
  mvcgen [Triage.transition, Txn.read, Txn.writeCounting, Txn.now, Txn.ambient, readClock,
    Txn.fail, Txn.nextVersion_frame]
  rename_i state _ s₀ amb hpre _ hread e he _ v moved s _ hframe db hit hw _ _
  subst he
  obtain ⟨hdb, -⟩ := hframe
  rw [hdb] at hw
  have hfound : e ∈ s₀.db.entries := List.mem_of_find?_eq_some (Database.entryById_ok hread).symm
  refine hpre.updateEntry hw fun r hr hid => ?_
  -- the row under the moved entry's id is the entry found, since ids are apart
  obtain rfl : r = e := List.inj_on_of_nodup_map hpre.unique.entryIds hr hfound
    (hid.trans (Entry.moveTo_id e state amb.clock))
  exact (Entry.moveTo_itemId r state amb.clock).symm

namespace Ingest

/-- **A delivery of a provider resolves to the item the store knows by the provider's id**: the
one there was, refreshed, or a new one when there was none. -/
theorem upsertByProvider_finds (provider : String) (x : Incoming) (kind : Option ContentKind)
    (version : Int) (now : Instant) :
    ⦃fun s _ => ⌜D.Resolves s.db⌝⦄ upsertByProvider provider x kind version now
    ⦃⇓? i s _ => ⌜D.Resolves s.db ∧
      s.db.itemOf (.provider provider (some x.providerItemId)) = some i⌝⦄ := by
  mvcgen [upsertByProvider, Txn.read, Txn.write, Txn.freshId, freshId, Txn.ambient]
  · -- the item found, refreshed under its id and identity
    rename_i s amb hpre _ hread old hold i db hw
    subst hold
    obtain ⟨hmem, hp, hpid⟩ := Database.itemByProvider_some hread
    have hkey : i.identity = old.identity := Item.identity_refresh hp x kind version now
    have h := hpre.updateItem hw fun r hr hid => by
      -- the row under the item's id is the item found, since ids are apart
      obtain rfl : r = old := List.inj_on_of_nodup_map hpre.unique.itemIds hr hmem hid
      exact hkey.symm
    have hi : i ∈ db.items := by
      rw [Database.updateItem_ok hw]
      exact mem_replaceById_of_mem hmem rfl
    refine ⟨h, ?_⟩
    rw [← h.unique.itemOf_eq hi, hkey]
    simp [Item.identity, hp, hpid]
  · -- a new item under an identity no item has
    rename_i s amb hpre _ hread hnone i db hw
    subst hnone
    have h := hpre.insertItem hw (Database.itemByProvider_none hread)
    have hi : i ∈ db.items := by
      rw [Database.insertItem_ok hw]
      exact List.mem_append_right _ (List.mem_singleton_self i)
    exact ⟨h, h.unique.itemOf_eq hi⟩

/-- **A save without a provider resolves to the item the store knows by the URL**: the one there
was, as it was, or a new one when there was none. -/
theorem upsertByUrl_finds (x : Incoming) (kind : Option ContentKind) (version : Int)
    (now : Instant) :
    ⦃fun s _ => ⌜D.Resolves s.db⌝⦄ upsertByUrl x kind version now
    ⦃⇓? i s _ => ⌜D.Resolves s.db ∧ s.db.itemOf (.url x.canonicalUrl) = some i⌝⦄ := by
  mvcgen [upsertByUrl, Txn.read, Txn.write, Txn.freshId, freshId, Txn.ambient]
  · -- the item found, unchanged
    rename_i s amb hpre _ hread old hold
    subst hold
    obtain ⟨hmem, hkey⟩ := Database.itemByUrl_some hread
    refine ⟨hpre, ?_⟩
    rw [← hkey]
    exact hpre.unique.itemOf_eq hmem
  · -- a new item under a URL no item without a provider has
    rename_i s amb hpre _ hread hnone i db hw
    subst hnone
    have hkey : i.identity = .url x.canonicalUrl := newItem_identity_url _ x kind version now
    have h := hpre.insertItem hw (hkey ▸ Database.itemByUrl_none hread)
    have hi : i ∈ db.items := by
      rw [Database.insertItem_ok hw]
      exact List.mem_append_right _ (List.mem_singleton_self i)
    exact ⟨h, hkey ▸ h.unique.itemOf_eq hi⟩

/-- **An item resolves to the entry the store holds for it**: the one there was, or a new one in
the inbox when there was none. -/
theorem ensureEntry_finds (itemId : String) (version : Int) (now : Instant) :
    ⦃fun s _ => ⌜D.Resolves s.db⌝⦄ ensureEntry itemId version now
    ⦃⇓? e s _ => ⌜D.Resolves s.db ∧ s.db.entryOf itemId = some e⌝⦄ := by
  mvcgen [ensureEntry, Txn.read, Txn.write, Txn.freshId, freshId, Txn.ambient]
  · -- the entry found
    rename_i s amb hpre _ hread e he
    subst he
    exact ⟨hpre, (Database.entryByItem_ok hread).symm⟩
  · -- a new entry; the store checks that the item has none
    rename_i s amb hpre _ hread hnone e db hw
    have h := hpre.insertEntry hw
    have he : e ∈ db.entries := by
      rw [Database.insertEntry_ok hw]
      exact List.mem_append_right _ (List.mem_singleton_self e)
    exact ⟨h, h.unique.entryOf_eq he⟩

attribute [local irreducible] Incoming.normalize in
theorem takeItems_resolves (src : Source) (now : Instant) (items : List Incoming) :
    ∀ (i : Nat) (t : Tally), ⦃fun s _ => ⌜D.Resolves s.db⌝⦄ takeItems src now i items t
    ⦃⇓? _ s _ => ⌜D.Resolves s.db⌝⦄ := by
  induction items with
  | nil =>
    intro i t
    mvcgen [takeItems]
  | cons raw rest ih =>
    intro i t
    have hnext := Txn.nextVersion_resolves D
    have hup := upsertByProvider_finds D
    have hensure := ensureEntry_finds D
    mvcgen [takeItems, Txn.read, Txn.write, ih, hnext, hup, hensure]
    · -- the delivery's mark, after its item
      rename_i h _ hw
      exact h.1.markSeen hw
    · -- the batch goes on from the store with the item's entry
      rename_i h
      exact h.1

attribute [local irreducible] Content.cleanUrl Content.cleanText Incoming.parseKind Text.trim
  Text.toUpper Provider.parse? in
theorem save_resolves (req : SaveRequest) :
    ⦃fun s _ => ⌜D.Resolves s.db⌝⦄ save req ⦃⇓? _ s _ => ⌜D.Resolves s.db⌝⦄ := by
  have hnext := Txn.nextVersion_resolves D
  have hurl := upsertByUrl_finds D
  have hup := upsertByProvider_finds D
  have hensure := ensureEntry_finds D
  mvcgen [save, Txn.fail, Txn.now, Txn.ambient, readClock, hnext, hurl, hup, hensure]
  -- the entry is looked up in the store the item's lookup left, and the save ends where the
  -- entry's lookup left it: with a URL, then with a provider's id
  · rename_i h
    exact h.1
  · exact fun h _ => h
  · rename_i h
    exact h.1
  · exact fun h _ => h

end Ingest

theorem Ingest.ingest_resolves (maxBatch : Nat) (sourceId : String) (items : List Incoming) :
    ⦃fun s _ => ⌜D.Resolves s.db⌝⦄ Ingest.ingest maxBatch sourceId items
    ⦃⇓? _ s _ => ⌜D.Resolves s.db⌝⦄ := by
  have htake := Ingest.takeItems_resolves D
  have hcommit := Txn.commitVersion_resolves D
  mvcgen [Ingest.ingest, Txn.withTicket, Txn.read, Txn.fail, Txn.now, Txn.ambient, readClock,
    htake, hcommit]

attribute [local irreducible] Content.cleanUrl Content.cleanText Incoming.parseKind Text.trim
  Text.toUpper Provider.parse? Json.textField TriageState.name in
theorem Sync.MutationKind.effect_resolves (k : Sync.MutationKind) (a : Json) :
    ⦃fun s _ => ⌜D.Resolves s.db⌝⦄ k.effect a ⦃⇓? _ s _ => ⌜D.Resolves s.db⌝⦄ := by
  have htransition := Triage.transition_resolves D
  have hsave := Ingest.save_resolves D
  have hunsubscribe := Subscription.unsubscribe_resolves D
  mvcgen [Sync.MutationKind.effect, htransition, hsave, hunsubscribe]

attribute [local irreducible] Sync.Mutation.parse in
theorem Sync.Mutation.run_resolves (m : Sync.Mutation) :
    ⦃fun s _ => ⌜D.Resolves s.db⌝⦄ m.run ⦃⇓? _ s _ => ⌜D.Resolves s.db⌝⦄ := by
  have heffect := Sync.MutationKind.effect_resolves D
  mvcgen [Sync.Mutation.run, Txn.fail, heffect]

end Bodies

/-! ## Pushes -/

namespace Sync

variable {req : PushRequest} {D : Database}

/-- Loading the push's client leaves every other row. -/
theorem ClientLoaded.resolves {d dE : Database} {cl : Client} (hload : ClientLoaded req d cl dE)
    (h : D.Resolves d) : D.Resolves dE := by
  cases hload with
  | found => exact h
  | created => exact h.of_rows rfl rfl rfl rfl

/-- A commit of a mutation keeps what the store resolved: its effect, then the client's
progress. -/
theorem Commits.resolves {m : Mutation} {d d' : Database} {p : Option Problem}
    (hc : Commits req m d p d') (h : D.Resolves d) : D.Resolves d' := by
  cases hc with
  | applied t hload hV hrun =>
    have hs := Txn.of_triple (P := fun s _ => D.Resolves s.db) (Mutation.run_resolves D m)
      (hload.resolves h) hrun
    exact hs.of_rows rfl rfl rfl rfl
  | rejected t hrej hload hV => exact (hload.resolves h).of_rows rfl rfl rfl rfl

/-- A pass over a push's mutations keeps what the store resolved. -/
theorem Replays.resolves {d d' : Database} {ms cs : List Mutation} (hr : Replays req d ms d' cs)
    (h : D.Resolves d) : D.Resolves d' := by
  induction hr with
  | nil => exact h
  | halt => exact h
  | duplicate t _ _ _ _ ih => exact ih (h.of_rows rfl rfl rfl rfl)
  | commit _ hc _ ih => exact ih (hc.resolves h)

theorem push_resolves (n : Nat) (req : PushRequest) {d : Database} (amb : Ambient)
    (h : D.Resolves d) : D.Resolves ((push n req).leaves d amb).1 := by
  rcases hx : (push n req).exec d amb with ⟨⟨r, d'⟩, amb'⟩
  obtain ⟨cs, hr⟩ := push_replays hx
  simp only [Work.leaves, hx]
  exact hr.resolves h

end Sync

/-! ## Every operation -/

/-- **Every operation keeps what a store resolved**, committed or not: the items and entries of
`D` stay under their ids and keys, and each key is held once. -/
theorem Operation.exec_resolves {D d : Database} (op : Operation) (amb : Ambient)
    (h : D.Resolves d) : D.Resolves (op.exec d amb).1 :=
  op.exec_keeps Sync.push_resolves (Txn.commitVersion_resolves D) (Ingest.ingest_resolves D)
    (Subscription.subscribe_resolves D) (Subscription.unsubscribe_resolves D)
    (Triage.transition_resolves D) (IdentityEvent.apply_resolves D) amb h

/-- Every store the service reaches holds each key once. -/
theorem Store.Reachable.deduplicated {d : Database} (h : Reachable d) : d.Deduplicated := by
  induction h with
  | schema user amb => exact newStore_deduplicated user amb
  | step op amb _ ih => exact (op.exec_resolves amb (.refl ih)).unique



/-- **Each key names one row in every store the service reaches, and the lookups find it again.**
Every store the service reaches holds at most one item per provider's id under a provider and per
URL among items without a provider, one entry per item, one source per provider's id and one
delivery mark per source and provider's id. Every operation, committed or not, keeps the items
and entries of a store under their ids and keys. From any store that keeps the rows of `D`, a
delivery of a provider, a save without a provider and the entry of an item resolve to the row the
store then knows by the key, with the id of the row `D` knew by it if it knew one: two ingests or
saves of one identity give one item and one entry. -/
theorem content_identity_unique :
    (∀ d, Store.Reachable d → d.Deduplicated) ∧
    (∀ (D d : Database) (op : Operation) (amb : Ambient), D.Resolves d →
      D.Resolves (op.exec d amb).1) ∧
    (∀ (D : Database) (provider : String) (x : Incoming) kind version now,
      ⦃fun s _ => ⌜D.Resolves s.db⌝⦄ Ingest.upsertByProvider provider x kind version now
      ⦃⇓? i s _ => ⌜s.db.itemOf (.provider provider (some x.providerItemId)) = some i ∧
        ∀ j, D.itemOf (.provider provider (some x.providerItemId)) = some j → j.id = i.id⌝⦄) ∧
    (∀ (D : Database) (x : Incoming) kind version now,
      ⦃fun s _ => ⌜D.Resolves s.db⌝⦄ Ingest.upsertByUrl x kind version now
      ⦃⇓? i s _ => ⌜s.db.itemOf (.url x.canonicalUrl) = some i ∧
        ∀ j, D.itemOf (.url x.canonicalUrl) = some j → j.id = i.id⌝⦄) ∧
    (∀ (D : Database) (itemId : String) version now,
      ⦃fun s _ => ⌜D.Resolves s.db⌝⦄ Ingest.ensureEntry itemId version now
      ⦃⇓? e s _ => ⌜s.db.entryOf itemId = some e ∧
        ∀ f, D.entryOf itemId = some f → f.id = e.id⌝⦄) := by
  refine ⟨fun d hd => hd.deduplicated, fun D d op amb h => op.exec_resolves amb h,
    fun D provider x kind version now => ?_, fun D x kind version now => ?_,
    fun D itemId version now => ?_⟩
  -- what `D` knew by the key, the store that keeps its rows knows under the same id
  · have hfinds := Ingest.upsertByProvider_finds D provider x kind version now
    mvcgen [hfinds]
    exact fun h hi => ⟨hi, fun j hj => h.itemOf_id hi hj⟩
  · have hfinds := Ingest.upsertByUrl_finds D x kind version now
    mvcgen [hfinds]
    exact fun h hi => ⟨hi, fun j hj => h.itemOf_id hi hj⟩
  · have hfinds := Ingest.ensureEntry_finds D itemId version now
    mvcgen [hfinds]
    exact fun h he => ⟨he, fun f hf => h.entryOf_id he hf⟩

end ReadLater
