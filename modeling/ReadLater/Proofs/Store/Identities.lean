import Mathlib
import ReadLater.Proofs.Store.Keys
import ReadLater.Ingest

/-!
# One row per key

An item is known by the provider that delivered it with its id there, or by its URL when it was
saved without a provider (`Item.identity`); an entry by the item it holds; a source by its
provider's id; a delivery mark by its source and the provider's id. `Database.Deduplicated` says
that no two rows share such a key, nor an id. The store checks most of these keys itself: an
entry per item, a source per provider's id, a mark per delivery. An item's identity only the code
that looks it up before it creates one keeps apart.

`Database.Keeps d d'` says that `d'` still has every item of `d` under its id and identity, and
every entry under its id and item; `Database.Resolves D d` says that `d` keeps the rows of `D` and
holds each key once.

* one lemma per write: `Resolves.insertItem` (for an identity not there), `Resolves.updateItem`
  (keeping the identity), `Resolves.insertEntry`, `Resolves.updateEntry` (keeping the item),
  `Resolves.insertSource`, `Resolves.deleteSource`, `Resolves.markSeen`;
* what the lookups find: `itemByProvider_none`, `itemByUrl_none` (no item has the identity) and
  `itemByProvider_some`, `itemByUrl_some`;
* `Resolves.itemOf`, `Resolves.entryOf`: a store that resolves `D` finds each item of `D` by its
  identity, and each entry by its item, under the same id.
-/

namespace ReadLater

open Clock

/-- What an item is known by: the provider that delivered it with the item's id there, or its
URL when no provider delivered it. -/
inductive Identity where
  | provider (name : String) (id : Option String)
  | url (address : String)
  deriving DecidableEq, Repr

/-- The identity of an item. -/
def Item.identity (i : Item) : Identity :=
  match i.provider with
  | some p => .provider p i.providerId
  | none => .url i.canonicalUrl

namespace Ingest

variable (id : String) (x : Incoming) (kind : Option ContentKind) (version : Int) (now : Instant)

/-- A new item of a provider is known by the provider and the delivery's id. -/
theorem newItem_identity_provider (provider : String) :
    (newItem id (some provider) x kind version now).identity =
      .provider provider (some x.providerItemId) := rfl

/-- A new item without a provider is known by the delivery's URL. -/
theorem newItem_identity_url : (newItem id none x kind version now).identity = .url x.canonicalUrl := by
  simp only [newItem, Item.refresh, Item.identity]
  split
  · rename_i h
    exact congrArg Identity.url (String.isEmpty_iff.1 h).symm
  · rfl

end Ingest

/-- A delivery refreshes an item of a provider under its identity. -/
theorem Item.identity_refresh {i : Item} {p : String} (hp : i.provider = some p) (x : Incoming)
    (kind : Option ContentKind) (version : Int) (now : Instant) :
    ({ i.refresh x kind with version := version, updatedAt := now } : Item).identity = i.identity := by
  simp [Item.identity, Item.refresh, hp]

namespace Store

/-- Replacing a row by id keeps a key that the new row shares with the rows it replaces. -/
theorem map_replaceById_of_key {α β : Type} {id : α → String} {key : α → β} {row : α}
    {rows : List α} (h : ∀ r ∈ rows, id r = id row → key r = key row) :
    (replaceById id row rows).map key = rows.map key := by
  simp only [replaceById, List.map_map]
  apply List.map_congr_left
  intro r hr
  simp only [Function.comp_apply]
  split
  · rename_i hid
    exact (h r hr (beq_iff_eq.1 hid)).symm
  · rfl

/-- In rows that hold each key once, a search that only rows with the key of `r` pass finds `r`,
when `r` passes it. -/
theorem find?_of_nodup {α β : Type} {key : α → β} {rows : List α} (h : (rows.map key).Nodup)
    {r : α} (hr : r ∈ rows) {p : α → Bool} (hp : p r = true)
    (hkey : ∀ x ∈ rows, p x = true → key x = key r) : rows.find? p = some r := by
  obtain ⟨r', hr'⟩ : ∃ r', rows.find? p = some r' := by
    cases hf : rows.find? p with
    | none => exact absurd hp (by simpa using List.find?_eq_none.1 hf r hr)
    | some r' => exact ⟨r', rfl⟩
  have hm := List.mem_of_find?_eq_some hr'
  rw [hr', List.inj_on_of_nodup_map h hm hr (hkey r' hm (List.find?_some hr'))]

/-- In rows that hold each key once, a row is the one its key finds. -/
theorem find?_key_of_nodup {α β : Type} [BEq β] [LawfulBEq β] {key : α → β} {rows : List α}
    (h : (rows.map key).Nodup) {r : α} (hr : r ∈ rows) : rows.find? (key · == key r) = some r :=
  find?_of_nodup h hr (beq_self_eq_true _) fun _ _ hx => beq_iff_eq.1 hx

/-- Only no rows have no oldest. -/
theorem oldest_eq_none {α : Type} {created : α → Instant} {id : α → String} {rows : List α}
    (h : oldest created id rows = none) : rows = [] := by
  cases rows with
  | nil => rfl
  | cons r rest =>
    simp only [oldest] at h
    split at h
    · cases h
    · split at h <;> cases h

namespace Database

variable {db db' D : Database}

/-! ## Keys the writes check -/

theorem insertEntry_newItem {e : Entry} (h : db.insertEntry e = .ok db') :
    ∀ x ∈ db.entries, x.itemId ≠ e.itemId := by
  simp only [insertEntry, Sql.bind_eq_ok, Sql.pure_eq_ok, ite_eq_iff, Sql.throw_eq_ok] at h
  grind

theorem insertSource_newKey {src : Source} (h : db.insertSource src = .ok db') :
    ∀ x ∈ db.sources, (x.provider, x.providerId) ≠ (src.provider, src.providerId) := by
  simp only [insertSource, Sql.bind_eq_ok, Sql.pure_eq_ok, ite_eq_iff, Sql.throw_eq_ok] at h
  grind

/-- A mark is added only when no mark has its source and provider's id. -/
theorem markSeen_new {m : SeenMark} (h : db.markSeen m = .ok db') :
    db' = db ∨ db' = { db with seen := db.seen ++ [m] } ∧
      ∀ x ∈ db.seen, (x.sourceId, x.providerItemId) ≠ (m.sourceId, m.providerItemId) := by
  simp only [markSeen, Sql.bind_eq_ok, Sql.pure_eq_ok, ite_eq_iff, Sql.throw_eq_ok] at h
  grind

/-! ## What the lookups find -/

theorem itemByUrl_ok {url : String} {r : Option Item} (h : db.itemByUrl url = .ok r) :
    r = oldest (·.createdAt) (·.id)
      (db.items.filter fun i => i.provider.isNone && i.canonicalUrl == url) := by
  simp only [itemByUrl, Sql.bind_eq_ok, Sql.pure_eq_ok] at h
  grind

/-- A lookup by provider that finds nothing: no item has the identity. -/
theorem itemByProvider_none {provider providerId : String}
    (h : db.itemByProvider provider providerId = .ok none) :
    ∀ j ∈ db.items, j.identity ≠ .provider provider (some providerId) := by
  have hnil := List.filter_eq_nil_iff.1 (oldest_eq_none (itemByProvider_ok h).symm)
  intro j hj hid
  apply hnil j hj
  simp only [Item.identity] at hid
  split at hid
  · rename_i p hp
    simp only [Identity.provider.injEq] at hid
    simp [hp, hid.1, hid.2]
  · cases hid

/-- A lookup by provider finds an item of the provider with the id. -/
theorem itemByProvider_some {provider providerId : String} {old : Item}
    (h : db.itemByProvider provider providerId = .ok (some old)) :
    old ∈ db.items ∧ old.provider = some provider ∧ old.providerId = some providerId := by
  have hmem := List.mem_filter.1 (mem_of_oldest (itemByProvider_ok h).symm)
  simp only [Bool.and_eq_true, beq_iff_eq] at hmem
  exact ⟨hmem.1, hmem.2.1, hmem.2.2⟩

/-- A lookup by URL that finds nothing: no item has the URL as its identity. -/
theorem itemByUrl_none {url : String} (h : db.itemByUrl url = .ok none) :
    ∀ j ∈ db.items, j.identity ≠ .url url := by
  have hnil := List.filter_eq_nil_iff.1 (oldest_eq_none (itemByUrl_ok h).symm)
  intro j hj hid
  apply hnil j hj
  simp only [Item.identity] at hid
  split at hid
  · cases hid
  · rename_i hp
    simp only [Identity.url.injEq] at hid
    simp [hp, hid]

/-- A lookup by URL finds an item without a provider at the URL. -/
theorem itemByUrl_some {url : String} {old : Item} (h : db.itemByUrl url = .ok (some old)) :
    old ∈ db.items ∧ old.identity = .url url := by
  have hmem := List.mem_filter.1 (mem_of_oldest (itemByUrl_ok h).symm)
  simp only [Bool.and_eq_true, Option.isNone_iff_eq_none, beq_iff_eq] at hmem
  refine ⟨hmem.1, ?_⟩
  simp [Item.identity, hmem.2.1, hmem.2.2]

/-! ## One row per key -/

/-- No two rows of the store share a key or an id: at most one item per provider's id under a
provider and per URL among items without a provider, one entry per item, one source per
provider's id, one delivery mark per source and provider's id. -/
structure Deduplicated (d : Database) : Prop where
  itemIds : (d.items.map (·.id)).Nodup
  identities : (d.items.map (·.identity)).Nodup
  entryIds : (d.entries.map (·.id)).Nodup
  entryItems : (d.entries.map (·.itemId)).Nodup
  sources : (d.sources.map fun s => (s.provider, s.providerId)).Nodup
  seen : (d.seen.map fun m => (m.sourceId, m.providerItemId)).Nodup

/-- The store `d'` keeps every item of `d` under its id and identity, and every entry under its
id and item. -/
structure Keeps (d d' : Database) : Prop where
  items : ∀ i ∈ d.items, ∃ i' ∈ d'.items, i'.id = i.id ∧ i'.identity = i.identity
  entries : ∀ e ∈ d.entries, ∃ e' ∈ d'.entries, e'.id = e.id ∧ e'.itemId = e.itemId

theorem Keeps.refl (d : Database) : d.Keeps d :=
  ⟨fun i hi => ⟨i, hi, rfl, rfl⟩, fun e he => ⟨e, he, rfl, rfl⟩⟩

theorem Keeps.trans {d₁ d₂ d₃ : Database} (h₁ : d₁.Keeps d₂) (h₂ : d₂.Keeps d₃) : d₁.Keeps d₃ where
  items i hi := by
    obtain ⟨i₂, hi₂, hid₂, hk₂⟩ := h₁.items i hi
    obtain ⟨i₃, hi₃, hid₃, hk₃⟩ := h₂.items i₂ hi₂
    exact ⟨i₃, hi₃, hid₃.trans hid₂, hk₃.trans hk₂⟩
  entries e he := by
    obtain ⟨e₂, he₂, hid₂, hk₂⟩ := h₁.entries e he
    obtain ⟨e₃, he₃, hid₃, hk₃⟩ := h₂.entries e₂ he₂
    exact ⟨e₃, he₃, hid₃.trans hid₂, hk₃.trans hk₂⟩

/-- A store with the same items and entries keeps what the first kept. -/
theorem Keeps.of_rows {d d₁ d₂ : Database} (h : d.Keeps d₁) (hi : d₂.items = d₁.items)
    (he : d₂.entries = d₁.entries) : d.Keeps d₂ :=
  ⟨hi ▸ h.items, he ▸ h.entries⟩

/-- The store `d` keeps the items and entries of `D` and holds each key once. -/
structure Resolves (D d : Database) : Prop where
  keeps : D.Keeps d
  unique : d.Deduplicated

theorem Resolves.refl (h : D.Deduplicated) : D.Resolves D := ⟨Keeps.refl D, h⟩

/-- A store with the same items, entries, sources and marks holds each key once. -/
theorem Deduplicated.of_rows (h : db.Deduplicated) (hi : db'.items = db.items)
    (he : db'.entries = db.entries) (hs : db'.sources = db.sources) (hm : db'.seen = db.seen) :
    db'.Deduplicated :=
  ⟨hi ▸ h.itemIds, hi ▸ h.identities, he ▸ h.entryIds, he ▸ h.entryItems, hs ▸ h.sources,
    hm ▸ h.seen⟩

/-- A write that leaves the items, entries, sources and marks keeps what the store resolved. -/
theorem Resolves.of_rows (h : D.Resolves db) (hi : db'.items = db.items)
    (he : db'.entries = db.entries) (hs : db'.sources = db.sources) (hm : db'.seen = db.seen) :
    D.Resolves db' :=
  ⟨h.keeps.of_rows hi he, h.unique.of_rows hi he hs hm⟩

/-! ## Each write -/

namespace Resolves

/-- A new item under a new identity. -/
theorem insertItem {i : Item} (h : D.Resolves db) (hw : db.insertItem i = .ok db')
    (hnew : ∀ j ∈ db.items, j.identity ≠ i.identity) : D.Resolves db' := by
  have hid := insertItem_new hw
  obtain rfl := insertItem_ok hw
  refine ⟨h.keeps.trans ⟨fun j hj => ⟨j, List.mem_append_left _ hj, rfl, rfl⟩,
    fun e he => ⟨e, he, rfl, rfl⟩⟩, { h.unique with
      itemIds := nodup_map_append h.unique.itemIds hid
      identities := nodup_map_append h.unique.identities hnew }⟩

/-- An item written over the row with its id, under that row's identity. -/
theorem updateItem {i : Item} (h : D.Resolves db) (hw : db.updateItem i = .ok db')
    (hsame : ∀ r ∈ db.items, r.id = i.id → r.identity = i.identity) : D.Resolves db' := by
  obtain rfl := updateItem_ok hw
  refine ⟨h.keeps.trans ⟨fun j hj => ?_, fun e he => ⟨e, he, rfl, rfl⟩⟩, { h.unique with
      itemIds := (map_replaceById (·.id) i db.items).symm ▸ h.unique.itemIds
      identities := (map_replaceById_of_key hsame).symm ▸ h.unique.identities }⟩
  obtain ⟨j', hj', hid, rfl | rfl⟩ := @exists_replaceById_of_mem _ Item.id i j _ hj
  · exact ⟨j', hj', rfl, rfl⟩
  · exact ⟨j', hj', hid, (hsame j hj hid.symm).symm⟩

/-- A new entry: the store checks its id and its item. -/
theorem insertEntry {e : Entry} (h : D.Resolves db) (hw : db.insertEntry e = .ok db') :
    D.Resolves db' := by
  have hid := insertEntry_new hw
  have hitem := insertEntry_newItem hw
  obtain rfl := insertEntry_ok hw
  refine ⟨h.keeps.trans ⟨fun j hj => ⟨j, hj, rfl, rfl⟩,
    fun f hf => ⟨f, List.mem_append_left _ hf, rfl, rfl⟩⟩, { h.unique with
      entryIds := nodup_map_append h.unique.entryIds hid
      entryItems := nodup_map_append h.unique.entryItems hitem }⟩

/-- An entry written over the row with its id, for that row's item. -/
theorem updateEntry {e : Entry} {hit : Bool} (h : D.Resolves db)
    (hw : db.updateEntry e = .ok (db', hit))
    (hsame : ∀ r ∈ db.entries, r.id = e.id → r.itemId = e.itemId) : D.Resolves db' := by
  obtain ⟨rfl, -⟩ := Prod.mk.inj (updateEntry_ok hw)
  refine ⟨h.keeps.trans ⟨fun j hj => ⟨j, hj, rfl, rfl⟩, fun f hf => ?_⟩, { h.unique with
      entryIds := (map_replaceById (·.id) e db.entries).symm ▸ h.unique.entryIds
      entryItems := (map_replaceById_of_key hsame).symm ▸ h.unique.entryItems }⟩
  obtain ⟨f', hf', hid, rfl | rfl⟩ := @exists_replaceById_of_mem _ Entry.id e f _ hf
  · exact ⟨f', hf', rfl, rfl⟩
  · exact ⟨f', hf', hid, (hsame f hf hid.symm).symm⟩

/-- A new source: the store checks its provider's id. -/
theorem insertSource {src : Source} (h : D.Resolves db) (hw : db.insertSource src = .ok db') :
    D.Resolves db' := by
  have hkey := insertSource_newKey hw
  obtain rfl := insertSource_ok hw
  exact ⟨h.keeps.of_rows rfl rfl, { h.unique with sources := nodup_map_append h.unique.sources hkey }⟩

/-- Deleting a source and its marks keeps the rest apart. -/
theorem deleteSource {id : String} (h : D.Resolves db) (hw : db.deleteSource id = .ok db') :
    D.Resolves db' := by
  obtain rfl := deleteSource_ok hw
  exact ⟨h.keeps.of_rows rfl rfl, { h.unique with
    sources := h.unique.sources.sublist (List.filter_sublist.map _)
    seen := h.unique.seen.sublist (List.filter_sublist.map _) }⟩

/-- Moving the counter keeps every row. -/
theorem advanceCounter {expected next : Int} {hit : Bool} (h : D.Resolves db)
    (hw : db.advanceCounter expected next = .ok (db', hit)) : D.Resolves db' := by
  obtain ⟨rfl, -⟩ := Prod.mk.inj (advanceCounter_ok hw)
  split
  · exact h.of_rows rfl rfl rfl rfl
  · exact h

/-- A mark: the store adds it only for a new delivery. -/
theorem markSeen {m : SeenMark} (h : D.Resolves db) (hw : db.markSeen m = .ok db') :
    D.Resolves db' := by
  rcases markSeen_new hw with rfl | ⟨rfl, hnew⟩
  · exact h
  · exact ⟨h.keeps.of_rows rfl rfl, { h.unique with seen := nodup_map_append h.unique.seen hnew }⟩

end Resolves

/-! ## Finding a row by its key -/

/-- The item a store knows by an identity. -/
def itemOf (d : Database) (k : Identity) : Option Item :=
  d.items.find? (·.identity == k)

/-- The entry a store holds for an item. -/
def entryOf (d : Database) (itemId : String) : Option Entry :=
  d.entries.find? (·.itemId == itemId)

/-- In a store without two items of one identity, an item is the one its identity finds. -/
theorem Deduplicated.itemOf_eq {d : Database} (h : d.Deduplicated) {i : Item} (hi : i ∈ d.items) :
    d.itemOf i.identity = some i :=
  find?_key_of_nodup h.identities hi

/-- In a store without two entries of one item, an entry is the one its item finds. -/
theorem Deduplicated.entryOf_eq {d : Database} (h : d.Deduplicated) {e : Entry}
    (he : e ∈ d.entries) : d.entryOf e.itemId = some e :=
  find?_key_of_nodup h.entryItems he

/-- **What a store resolves stays resolved**: the item an identity found in `D`, under the same
id. -/
theorem Resolves.itemOf {k : Identity} {j : Item} (h : D.Resolves db) (hj : D.itemOf k = some j) :
    ∃ j', db.itemOf k = some j' ∧ j'.id = j.id := by
  have hk : j.identity = k := by simpa using List.find?_some hj
  obtain ⟨j', hj', hid, hkey⟩ := h.keeps.items j (List.mem_of_find?_eq_some hj)
  refine ⟨j', ?_, hid⟩
  rw [← hk, ← hkey]
  exact h.unique.itemOf_eq hj'

/-- The entry an item found in `D`, under the same id. -/
theorem Resolves.entryOf {itemId : String} {e : Entry} (h : D.Resolves db)
    (he : D.entryOf itemId = some e) : ∃ e', db.entryOf itemId = some e' ∧ e'.id = e.id := by
  have hk : e.itemId = itemId := by simpa using List.find?_some he
  obtain ⟨e', he', hid, hkey⟩ := h.keeps.entries e (List.mem_of_find?_eq_some he)
  refine ⟨e', ?_, hid⟩
  rw [← hk, ← hkey]
  exact h.unique.entryOf_eq he'

/-- A store that resolves `D` and knows an item by an identity: `D` knew by it an item with the
same id, or none. -/
theorem Resolves.itemOf_id {k : Identity} {i j : Item} (h : D.Resolves db)
    (hi : db.itemOf k = some i) (hj : D.itemOf k = some j) : j.id = i.id := by
  obtain ⟨j', hj', hid⟩ := h.itemOf hj
  rw [hi, Option.some.injEq] at hj'
  rw [hj']
  exact hid.symm

/-- A store that resolves `D` and holds an entry for an item: `D` held for it an entry with the
same id, or none. -/
theorem Resolves.entryOf_id {itemId : String} {e f : Entry} (h : D.Resolves db)
    (he : db.entryOf itemId = some e) (hf : D.entryOf itemId = some f) : f.id = e.id := by
  obtain ⟨f', hf', hid⟩ := h.entryOf hf
  rw [he, Option.some.injEq] at hf'
  rw [hf']
  exact hid.symm

end Database

end Store

end ReadLater
