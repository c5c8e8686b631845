import Mathlib
import ReadLater.Proofs.Content.Stored
import ReadLater.Proofs.Ingest.Accounting

/-!
# Deliveries never erase an item

An item is written over only by a delivery of its provider, which refreshes the fields the
delivery carries and keeps the others; a save by URL returns the item found as it is. So what an
item holds is never lost: its id, provider, provider's id and creation time stay, and each
descriptive field keeps its value or takes a value that is not empty.

* `KeptOrFilled`: a field's later value, kept or not empty; a filled field stays filled;
* `Item.Succeeds`: an item as a later store may hold it, and `Item.refresh_succeeds`;
* `Database.ItemsSucceed D d`: `d` holds every item of `D` under its id, each succeeding it;
* one triple per transaction body (`Ingest.ingest_itemsSucceed`, `Ingest.save_itemsSucceed`, …),
  and a push mutation by mutation (`Sync.push_itemsSucceed`);
* `Operation.run_itemsSucceed`: every run of operations;
* `Ingest.newItem_kind_article`: an item is created as an article when its delivery names no kind;
* **`items_never_erased`**: from every reachable store, whatever runs.
-/

namespace ReadLater

open Clock Store Std.Do

set_option mvcgen.warning false

/-! ## Fields and items -/

/-- A later value of a field: the earlier one, or one that is not `empty`. -/
def KeptOrFilled {α : Type} (empty old new : α) : Prop := new = old ∨ new ≠ empty

namespace KeptOrFilled

variable {α : Type} {empty a b c : α}

theorem refl (empty a : α) : KeptOrFilled empty a a := .inl rfl

theorem trans (h₁ : KeptOrFilled empty a b) (h₂ : KeptOrFilled empty b c) :
    KeptOrFilled empty a c := by
  rcases h₂ with rfl | h₂
  · exact h₁
  · exact .inr h₂

/-- A field that is filled stays filled. -/
theorem ne (h : KeptOrFilled empty a b) (ha : a ≠ empty) : b ≠ empty := by
  rcases h with rfl | h
  · exact ha
  · exact h

/-- A text written only when it is not empty. -/
theorem of_isEmpty (old new : String) :
    KeptOrFilled "" old (if new.isEmpty then old else new) := by
  split
  · exact .inl rfl
  · rename_i h
    exact .inr fun he => h (by simp [he])

/-- A value written only when there is one. -/
theorem of_isSome {β : Type} (old new : Option β) :
    KeptOrFilled none old (if new.isSome then new else old) := by
  split
  · rename_i h
    exact .inr fun he => by simp [he] at h
  · exact .inl rfl

end KeptOrFilled

namespace Item

/-- An item as a later store may hold it: the same id, provider, provider's id and creation time,
and each descriptive field kept or filled. -/
structure Succeeds (new old : Item) : Prop where
  id : new.id = old.id
  provider : new.provider = old.provider
  providerId : new.providerId = old.providerId
  createdAt : new.createdAt = old.createdAt
  canonicalUrl : KeptOrFilled "" old.canonicalUrl new.canonicalUrl
  title : KeptOrFilled "" old.title new.title
  summary : KeptOrFilled "" old.summary new.summary
  author : KeptOrFilled "" old.author new.author
  publisher : KeptOrFilled "" old.publisher new.publisher
  thumbnailUrl : KeptOrFilled "" old.thumbnailUrl new.thumbnailUrl
  publishedAt : KeptOrFilled none old.publishedAt new.publishedAt
  durationSeconds : KeptOrFilled none old.durationSeconds new.durationSeconds

namespace Succeeds

theorem refl (i : Item) : i.Succeeds i :=
  ⟨rfl, rfl, rfl, rfl, .refl _ _, .refl _ _, .refl _ _, .refl _ _, .refl _ _, .refl _ _,
    .refl _ _, .refl _ _⟩

theorem trans {i₁ i₂ i₃ : Item} (h₂ : i₂.Succeeds i₁) (h₃ : i₃.Succeeds i₂) : i₃.Succeeds i₁ where
  id := h₃.id.trans h₂.id
  provider := h₃.provider.trans h₂.provider
  providerId := h₃.providerId.trans h₂.providerId
  createdAt := h₃.createdAt.trans h₂.createdAt
  canonicalUrl := h₂.canonicalUrl.trans h₃.canonicalUrl
  title := h₂.title.trans h₃.title
  summary := h₂.summary.trans h₃.summary
  author := h₂.author.trans h₃.author
  publisher := h₂.publisher.trans h₃.publisher
  thumbnailUrl := h₂.thumbnailUrl.trans h₃.thumbnailUrl
  publishedAt := h₂.publishedAt.trans h₃.publishedAt
  durationSeconds := h₂.durationSeconds.trans h₃.durationSeconds

end Succeeds

/-- A delivery written over an item, with new stamps, succeeds it. -/
theorem refresh_succeeds (i : Item) (x : Incoming) (kind : Option ContentKind) (v : Int)
    (t : Instant) : Succeeds { i.refresh x kind with version := v, updatedAt := t } i :=
  ⟨rfl, rfl, rfl, rfl, .of_isEmpty _ _, .of_isEmpty _ _, .of_isEmpty _ _, .of_isEmpty _ _,
    .of_isEmpty _ _, .of_isEmpty _ _, .of_isSome _ _, .of_isSome _ _⟩

end Item

/-! ## Stores -/

namespace Store.Database

/-- The store `d` holds every item of `D` under its id, and every item it holds under such an id
succeeds the item of `D`. -/
structure ItemsSucceed (D d : Database) : Prop where
  kept : ∀ i ∈ D.items, ∃ i' ∈ d.items, i'.id = i.id
  succeed : ∀ i ∈ D.items, ∀ i' ∈ d.items, i'.id = i.id → i'.Succeeds i

namespace ItemsSucceed

variable {D d d' : Database}

/-- A store whose items have distinct ids holds its own items. -/
theorem refl (h : (d.items.map (·.id)).Nodup) : d.ItemsSucceed d where
  kept i hi := ⟨i, hi, rfl⟩
  succeed i hi i' hi' hid := by
    obtain rfl : i' = i := List.inj_on_of_nodup_map h hi' hi hid
    exact .refl _

/-- A write that leaves the items keeps them. -/
theorem of_items (h : D.ItemsSucceed d) (hi : d'.items = d.items) : D.ItemsSucceed d' where
  kept i hi' := by
    obtain ⟨i', hmem, hid⟩ := h.kept i hi'
    exact ⟨i', hi ▸ hmem, hid⟩
  succeed i hi' i' hmem hid := h.succeed i hi' i' (hi ▸ hmem) hid

/-- A new item takes an id that no item has, so it succeeds none. -/
theorem insertItem {r : Item} (h : D.ItemsSucceed d) (hw : d.insertItem r = .ok d') :
    D.ItemsSucceed d' := by
  have hnew := Database.insertItem_new hw
  rw [Database.insertItem_ok hw]
  refine ⟨fun i hi => ?_, fun i hi i' hi' hid => ?_⟩
  · obtain ⟨i', hmem, hid⟩ := h.kept i hi
    exact ⟨i', List.mem_append_left _ hmem, hid⟩
  rcases List.mem_append.1 hi' with hi' | hi'
  · exact h.succeed i hi i' hi' hid
  · -- the new item's id is not that of an item of the store, which holds every item of `D`
    obtain rfl := List.mem_singleton.1 hi'
    obtain ⟨j, hj, hjid⟩ := h.kept i hi
    exact absurd (hjid.trans hid.symm) (hnew j hj)

/-- An item written over one of the store's, which it succeeds. -/
theorem updateItem {old r : Item} (h : D.ItemsSucceed d) (hold : old ∈ d.items)
    (hr : r.Succeeds old) (hw : d.updateItem r = .ok d') : D.ItemsSucceed d' := by
  rw [Database.updateItem_ok hw]
  refine ⟨fun i hi => ?_, fun i hi i' hi' hid => ?_⟩
  · obtain ⟨i', hmem, hid⟩ := h.kept i hi
    obtain ⟨y, hy, hyid⟩ : ∃ y ∈ replaceById (·.id) r d.items, y.id = i'.id :=
      exists_id_replaceById hmem
    exact ⟨y, hy, hyid.trans hid⟩
  rcases mem_replaceById hi' with rfl | ⟨hi', -⟩
  · -- the row written succeeds the row it replaced, which succeeded the item of `D`
    exact (h.succeed i hi old hold (hr.id.symm.trans hid)).trans hr
  · exact h.succeed i hi i' hi' hid

theorem advanceCounter {expected next : Int} {hit : Bool} (h : D.ItemsSucceed d)
    (hw : d.advanceCounter expected next = .ok (d', hit)) : D.ItemsSucceed d' := by
  obtain ⟨rfl, -⟩ := Prod.mk.inj (advanceCounter_ok hw)
  split
  · exact h.of_items rfl
  · exact h

end ItemsSucceed

end Store.Database

/-! ## Every transaction body -/

section Bodies

variable (D : Database)

theorem Store.Txn.nextVersion_itemsSucceed :
    ⦃fun s _ => ⌜D.ItemsSucceed s.db⌝⦄ Txn.nextVersion ⦃⇓? _ s _ => ⌜D.ItemsSucceed s.db⌝⦄ := by
  mvcgen [Txn.nextVersion, Txn.loadTicket, Txn.currentVersion, Txn.read, Txn.failWith]

theorem Store.Txn.commitVersion_itemsSucceed :
    ⦃fun s _ => ⌜D.ItemsSucceed s.db⌝⦄ Txn.commitVersion ⦃⇓? _ s _ => ⌜D.ItemsSucceed s.db⌝⦄ := by
  mvcgen [Txn.commitVersion, Txn.advanceVersion, Txn.loadTicket, Txn.currentVersion, Txn.read,
    Txn.failWith, Txn.writeCounting]
  all_goals exact Database.ItemsSucceed.advanceCounter ‹_› ‹_›

theorem Triage.transition_itemsSucceed (entryId target : String) :
    ⦃fun s _ => ⌜D.ItemsSucceed s.db⌝⦄ Triage.transition entryId target
    ⦃⇓? _ s _ => ⌜D.ItemsSucceed s.db⌝⦄ := by
  have := Txn.nextVersion_itemsSucceed D
  mvcgen [Triage.transition, Txn.read, Txn.writeCounting, Txn.now, Txn.ambient, readClock,
    Txn.fail, this]
  rename_i h _ _ hw _ _
  obtain ⟨rfl, -⟩ := Prod.mk.inj (Database.updateEntry_ok hw)
  exact h.of_items rfl

theorem Subscription.unsubscribe_itemsSucceed (sourceId : String) :
    ⦃fun s _ => ⌜D.ItemsSucceed s.db⌝⦄ Subscription.unsubscribe sourceId
    ⦃⇓? _ s _ => ⌜D.ItemsSucceed s.db⌝⦄ := by
  have := Txn.nextVersion_itemsSucceed D
  mvcgen [Subscription.unsubscribe, Txn.read, Txn.write, Txn.now, Txn.ambient, readClock,
    Txn.fail, this]
  rename_i h _ hdel _ hput
  rw [Database.putTombstone_ok hput, Database.deleteSource_ok hdel]
  exact h.of_items rfl

theorem IdentityEvent.apply_itemsSucceed (user : String) (ev : IdentityEvent) :
    ⦃fun s _ => ⌜D.ItemsSucceed s.db⌝⦄ ev.apply user ⦃⇓? _ s _ => ⌜D.ItemsSucceed s.db⌝⦄ := by
  have := Txn.nextVersion_itemsSucceed D
  mvcgen [IdentityEvent.apply, Txn.read, Txn.write, Txn.now, Txn.ambient, readClock,
    Txn.fail, logAt, this]
  all_goals
    rename_i h _ hw
    rcases Database.upsertProfile_ok hw with ⟨-, rfl⟩ | ⟨_, -, rfl⟩ <;> exact h.of_items rfl

attribute [local irreducible] Text.trim Text.toUpper Provider.parse? Json.valid in
theorem Subscription.subscribe_itemsSucceed (req : SubscribeRequest) :
    ⦃fun s _ => ⌜D.ItemsSucceed s.db⌝⦄ Subscription.subscribe req
    ⦃⇓? _ s _ => ⌜D.ItemsSucceed s.db⌝⦄ := by
  have := Txn.nextVersion_itemsSucceed D
  mvcgen [Subscription.subscribe, Txn.read, Txn.write, Txn.now, Txn.ambient, readClock,
    Txn.fail, Txn.freshId, freshId, this]
  rename_i h _ _ hw
  rw [Database.insertSource_ok hw]
  exact h.of_items rfl

namespace Ingest

/-- A delivery of a provider refreshes the item found, which the refreshed item succeeds, or
creates one under a new id. -/
theorem upsertByProvider_itemsSucceed (provider : String) (x : Incoming)
    (kind : Option ContentKind) (version : Int) (now : Instant) :
    ⦃fun s _ => ⌜D.ItemsSucceed s.db⌝⦄ upsertByProvider provider x kind version now
    ⦃⇓? _ s _ => ⌜D.ItemsSucceed s.db⌝⦄ := by
  mvcgen [upsertByProvider, Txn.read, Txn.write, Txn.freshId, freshId, Txn.ambient]
  · rename_i s amb hpre _ hread old hold i db hw
    subst hold
    obtain ⟨hmem, -, -⟩ := Database.itemByProvider_some hread
    exact hpre.updateItem hmem (Item.refresh_succeeds old x kind version now) hw
  · rename_i s amb hpre _ hread hnone i db hw
    exact hpre.insertItem hw

/-- A save by URL returns the item found as it is, or creates one under a new id. -/
theorem upsertByUrl_itemsSucceed (x : Incoming) (kind : Option ContentKind) (version : Int)
    (now : Instant) :
    ⦃fun s _ => ⌜D.ItemsSucceed s.db⌝⦄ upsertByUrl x kind version now
    ⦃⇓? _ s _ => ⌜D.ItemsSucceed s.db⌝⦄ := by
  mvcgen [upsertByUrl, Txn.read, Txn.write, Txn.freshId, freshId, Txn.ambient]
  rename_i s amb hpre _ hread hnone i db hw
  exact hpre.insertItem hw

theorem ensureEntry_itemsSucceed (itemId : String) (version : Int) (now : Instant) :
    ⦃fun s _ => ⌜D.ItemsSucceed s.db⌝⦄ ensureEntry itemId version now
    ⦃⇓? _ s _ => ⌜D.ItemsSucceed s.db⌝⦄ := by
  mvcgen [ensureEntry, Txn.read, Txn.write, Txn.freshId, freshId, Txn.ambient]
  rename_i h _ _ _ _ _ hw
  rw [Database.insertEntry_ok hw]
  exact h.of_items rfl

attribute [local irreducible] Incoming.normalize in
theorem takeItems_itemsSucceed (src : Source) (now : Instant) (items : List Incoming) :
    ∀ (i : Nat) (t : Tally), ⦃fun s _ => ⌜D.ItemsSucceed s.db⌝⦄ takeItems src now i items t
    ⦃⇓? _ s _ => ⌜D.ItemsSucceed s.db⌝⦄ := by
  induction items with
  | nil =>
    intro i t
    mvcgen [takeItems]
  | cons raw rest ih =>
    intro i t
    have hnext := Txn.nextVersion_itemsSucceed D
    have hup := upsertByProvider_itemsSucceed D
    have hensure := ensureEntry_itemsSucceed D
    mvcgen [takeItems, Txn.read, Txn.write, ih, hnext, hup, hensure]
    rename_i h _ hw
    rcases Database.markSeen_ok hw with rfl | rfl <;> exact h.of_items rfl

attribute [local irreducible] Content.cleanUrl Content.cleanText Incoming.parseKind Text.trim
  Text.toUpper Provider.parse? in
theorem save_itemsSucceed (req : SaveRequest) :
    ⦃fun s _ => ⌜D.ItemsSucceed s.db⌝⦄ save req ⦃⇓? _ s _ => ⌜D.ItemsSucceed s.db⌝⦄ := by
  have hnext := Txn.nextVersion_itemsSucceed D
  have hurl := upsertByUrl_itemsSucceed D
  have hup := upsertByProvider_itemsSucceed D
  have hensure := ensureEntry_itemsSucceed D
  mvcgen [save, Txn.fail, Txn.now, Txn.ambient, readClock, hnext, hurl, hup, hensure]

end Ingest

theorem Ingest.ingest_itemsSucceed (maxBatch : Nat) (sourceId : String) (items : List Incoming) :
    ⦃fun s _ => ⌜D.ItemsSucceed s.db⌝⦄ Ingest.ingest maxBatch sourceId items
    ⦃⇓? _ s _ => ⌜D.ItemsSucceed s.db⌝⦄ := by
  have htake := Ingest.takeItems_itemsSucceed D
  have hcommit := Txn.commitVersion_itemsSucceed D
  mvcgen [Ingest.ingest, Txn.withTicket, Txn.read, Txn.fail, Txn.now, Txn.ambient, readClock,
    htake, hcommit]

attribute [local irreducible] Content.cleanUrl Content.cleanText Incoming.parseKind Text.trim
  Text.toUpper Provider.parse? Json.textField TriageState.name in
theorem Sync.MutationKind.effect_itemsSucceed (k : Sync.MutationKind) (a : Json) :
    ⦃fun s _ => ⌜D.ItemsSucceed s.db⌝⦄ k.effect a ⦃⇓? _ s _ => ⌜D.ItemsSucceed s.db⌝⦄ := by
  have htransition := Triage.transition_itemsSucceed D
  have hsave := Ingest.save_itemsSucceed D
  have hunsubscribe := Subscription.unsubscribe_itemsSucceed D
  mvcgen [Sync.MutationKind.effect, htransition, hsave, hunsubscribe]

attribute [local irreducible] Sync.Mutation.parse in
theorem Sync.Mutation.run_itemsSucceed (m : Sync.Mutation) :
    ⦃fun s _ => ⌜D.ItemsSucceed s.db⌝⦄ m.run ⦃⇓? _ s _ => ⌜D.ItemsSucceed s.db⌝⦄ := by
  have heffect := Sync.MutationKind.effect_itemsSucceed D
  mvcgen [Sync.Mutation.run, Txn.fail, heffect]

end Bodies

/-! ## Pushes -/

namespace Sync

variable {req : PushRequest} {D : Database}

/-- A commit of a mutation keeps what the store held of `D`: its effect, then the client's
progress, which leaves the items. -/
theorem Commits.itemsSucceed {m : Mutation} {d d' : Database} {p : Option Problem}
    (hc : Commits req m d p d') (h : D.ItemsSucceed d) : D.ItemsSucceed d' := by
  have hload : ∀ {cl dE}, ClientLoaded req d cl dE → D.ItemsSucceed dE := fun hl => by
    cases hl with
    | found => exact h
    | created => exact h.of_items rfl
  cases hc with
  | applied t hl hV hrun =>
    exact (Txn.of_triple (P := fun s _ => D.ItemsSucceed s.db) (Mutation.run_itemsSucceed D m)
      (hload hl) hrun).of_items rfl
  | rejected t hrej hl hV => exact (hload hl).of_items rfl

theorem Replays.itemsSucceed {d d' : Database} {ms cs : List Mutation}
    (hr : Replays req d ms d' cs) (h : D.ItemsSucceed d) : D.ItemsSucceed d' := by
  induction hr with
  | nil => exact h
  | halt => exact h
  | duplicate t _ _ _ _ ih => exact ih (h.of_items rfl)
  | commit _ hc _ ih => exact ih (hc.itemsSucceed h)

theorem push_itemsSucceed (n : Nat) (req : PushRequest) {d : Database} (amb : Ambient)
    (h : D.ItemsSucceed d) : D.ItemsSucceed ((push n req).leaves d amb).1 := by
  rcases hx : (push n req).exec d amb with ⟨⟨r, d'⟩, amb'⟩
  obtain ⟨cs, hr⟩ := push_replays hx
  simp only [Work.leaves, hx]
  exact hr.itemsSucceed h

end Sync

/-! ## Every run of operations -/

/-- Every operation keeps what a store holds of `D`, committed or not. -/
theorem Operation.exec_itemsSucceed {D d : Database} (op : Operation) (amb : Ambient)
    (h : D.ItemsSucceed d) : D.ItemsSucceed (op.exec d amb).1 :=
  op.exec_keeps Sync.push_itemsSucceed (Txn.commitVersion_itemsSucceed D)
    (Ingest.ingest_itemsSucceed D) (Subscription.subscribe_itemsSucceed D)
    (Subscription.unsubscribe_itemsSucceed D) (Triage.transition_itemsSucceed D)
    (IdentityEvent.apply_itemsSucceed D) amb h

/-- Every run of operations keeps what a store holds of `D`. -/
theorem Operation.run_itemsSucceed {D : Database} :
    ∀ (ops : List Operation) (d : Database) (amb : Ambient), D.ItemsSucceed d →
      D.ItemsSucceed (Operation.run ops d amb).1
  | [], _, _, h => h
  | op :: ops, _, amb, h => run_itemsSucceed ops _ _ (op.exec_itemsSucceed amb h)

/-- Every store a run of operations reaches from a reachable store is reachable. -/
theorem Store.Reachable.run {d : Database} (hd : Reachable d) (ops : List Operation)
    (amb : Ambient) : Reachable (Operation.run ops d amb).1 := by
  induction ops generalizing d amb with
  | nil => exact hd
  | cons op ops ih => exact ih (.step op amb hd) _

/-! ## The kind of an item -/

theorem ContentKind.name_ne_empty (k : ContentKind) : k.name ≠ "" := by
  cases k <;> decide

theorem ContentKind.name_eq_article (k : ContentKind) : k.name = "article" ↔ k = .article := by
  cases k <;> decide

theorem Ingest.newItem_kind (id : String) (provider : Option String) (x : Incoming)
    (kind : Option ContentKind) (version : Int) (now : Instant) :
    (Ingest.newItem id provider x kind version now).kind = kind.getD .article := rfl

/-- An item is created as an article exactly when its delivery names no kind, or names the
article kind, in any case and with blanks around it. -/
theorem Ingest.newItem_kind_article {s : String} {kind : Option ContentKind}
    (hk : Incoming.parseKind s = .ok kind) (id : String) (provider : Option String) (x : Incoming)
    (version : Int) (now : Instant) :
    (Ingest.newItem id provider x kind version now).kind = .article ↔
      (Text.toLower (Text.trim s)).isEmpty ∨ Text.toLower (Text.trim s) = "article" := by
  rw [Ingest.newItem_kind]
  unfold Incoming.parseKind at hk
  dsimp only at hk
  generalize Text.toLower (Text.trim s) = t at hk ⊢
  split at hk
  · -- no kind named: the article default
    rename_i he
    cases hk
    simp [he]
  · rename_i hne
    split at hk
    · -- the kind whose name was given
      rename_i k hp
      cases hk
      simp only [ContentKind.parse?, hne] at hp
      have hname := List.find?_some hp
      simp only [beq_iff_eq] at hname
      subst hname
      simp only [Option.getD_some, Bool.not_eq_true] at hne ⊢
      simp [hne, ContentKind.name_eq_article]
    · cases hk

end ReadLater
