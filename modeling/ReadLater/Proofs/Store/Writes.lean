import ReadLater.Store.Repository
import Mathlib.Logic.Basic

/-!
# What a successful statement leaves

Every row operation of `Store/Repository` runs its schema checks and then reads or changes one
table (a source's deletion also drops its marks). This module states, once for each statement,
what it returns or leaves when it succeeds, so that later proofs never unfold a statement again:

* reads: `clientById_ok`, `counterValue_ok`, `entryById_ok`, … return the matching rows;
* writes: `insertItem_ok`, `updateEntry_ok`, `saveClient_ok`, `advanceCounter_ok`, … leave the
  store with one table changed and every other field as it was;
* `Database.version`, `Database.lastId`: the store's version and a client's last applied mutation
  as the ledger records it, and how the writes to the clients table move it
  (`lastId_saveClient`, `lastId_touchClient`, …).
-/

namespace ReadLater.Store

open Clock

theorem Sql.bind_eq_ok {α β : Type} {x : Sql α} {f : α → Sql β} {b : β} :
    x >>= f = .ok b ↔ ∃ a, x = .ok a ∧ f a = .ok b := by
  cases x <;> simp [bind, Except.bind]

theorem Sql.pure_eq_ok {α : Type} {a b : α} : (pure a : Sql α) = .ok b ↔ a = b := by
  simp [pure, Except.pure]

@[simp] theorem Sql.throw_eq_ok {α : Type} {e : Fault} {b : α} : (throw e : Sql α) = .ok b ↔ False := by
  simp [throw, throwThe, MonadExceptOf.throw]

theorem find?_replaceById_self {α : Type} {id : α → String} {row : α} {rows : List α}
    (h : rows.any (id · == id row)) : (replaceById id row rows).find? (id · == id row) = some row := by
  induction rows with
  | nil => simp at h
  | cons r rows ih =>
    by_cases hr : id r = id row
    · simp [replaceById, hr]
    · have h' : rows.any (id · == id row) := by simpa [hr] using h
      simpa [replaceById, hr, -List.find?_map] using ih h'

theorem find?_replaceById_ne {α : Type} {id : α → String} {row : α} {rows : List α} {k : String}
    (hk : id row ≠ k) : (replaceById id row rows).find? (id · == k) = rows.find? (id · == k) := by
  induction rows with
  | nil => rfl
  | cons r rows ih =>
    by_cases hr : id r = id row
    · have hrk : id r ≠ k := hr ▸ hk
      simpa [replaceById, hr, hk, hrk, -List.find?_map] using ih
    · by_cases hrk : id r = k
      · subst hrk
        simp [replaceById, hr, -List.find?_map]
      · simpa [replaceById, hr, hrk, -List.find?_map] using ih

/-- A row after replacing by id is the new row, or an old one under another id. -/
theorem mem_replaceById {α : Type} {id : α → String} {row x : α} {rows : List α}
    (h : x ∈ replaceById id row rows) : x = row ∨ x ∈ rows ∧ id x ≠ id row := by
  simp only [replaceById, List.mem_map] at h
  obtain ⟨r, hr, rfl⟩ := h
  by_cases hid : id r = id row <;> simp [hid, hr]

/-- The new row is there when some row had its id. -/
theorem mem_replaceById_of_mem {α : Type} {id : α → String} {row x : α} {rows : List α}
    (h : x ∈ rows) (hid : id x = id row) : row ∈ replaceById id row rows :=
  List.mem_map.2 ⟨x, h, by simp [hid]⟩

/-- Replacing a row by id keeps a row under every id there was. -/
theorem exists_id_replaceById {α : Type} {id : α → String} {row x : α} {rows : List α}
    (h : x ∈ rows) : ∃ y ∈ replaceById id row rows, id y = id x := by
  by_cases hid : id x = id row
  · exact ⟨row, List.mem_map.2 ⟨x, h, by simp [hid]⟩, hid.symm⟩
  · exact ⟨x, List.mem_map.2 ⟨x, h, by simp [hid]⟩, rfl⟩

/-- A row after replacing by id is the row that was there, or the new row under its id. -/
theorem exists_replaceById_of_mem {α : Type} {id : α → String} {row x : α} {rows : List α}
    (h : x ∈ rows) : ∃ y ∈ replaceById id row rows, id y = id x ∧ (y = x ∨ y = row) := by
  by_cases hid : id x = id row
  · exact ⟨row, List.mem_map.2 ⟨x, h, by simp [hid]⟩, hid.symm, Or.inr rfl⟩
  · exact ⟨x, List.mem_map.2 ⟨x, h, by simp [hid]⟩, rfl, Or.inl rfl⟩

/-- The oldest row is one of the rows. -/
theorem mem_of_oldest {α : Type} {created : α → Instant} {id : α → String} {rows : List α}
    {x : α} (h : oldest created id rows = some x) : x ∈ rows := by
  induction rows with
  | nil => cases h
  | cons r rest ih =>
    simp only [oldest] at h
    split at h
    · cases h
      exact List.mem_cons_self
    · split at h <;> cases h
      · exact List.mem_cons_self
      · exact List.mem_cons_of_mem _ (ih ‹_›)

namespace Database

variable {db db' : Database}

/-! ## Reads -/

theorem clientById_ok {c : String} {r : Option Client} (h : db.clientById c = .ok r) :
    r = db.clients.find? (·.id == c) := by
  simp only [clientById, Sql.bind_eq_ok, Sql.pure_eq_ok] at h
  grind

theorem counterValue_ok {r : Option Int} (h : db.counterValue = .ok r) : r = db.counter := by
  simp only [counterValue, Sql.bind_eq_ok, Sql.pure_eq_ok] at h
  grind

theorem entryById_ok {id : String} {r : Option Entry} (h : db.entryById id = .ok r) :
    r = db.entries.find? (·.id == id) := by
  simp only [entryById, Sql.bind_eq_ok, Sql.pure_eq_ok] at h
  grind

theorem entryByItem_ok {itemId : String} {r : Option Entry} (h : db.entryByItem itemId = .ok r) :
    r = db.entries.find? (·.itemId == itemId) := by
  simp only [entryByItem, Sql.bind_eq_ok, Sql.pure_eq_ok] at h
  grind

theorem sourceById_ok {id : String} {r : Option Source} (h : db.sourceById id = .ok r) :
    r = db.sources.find? (·.id == id) := by
  simp only [sourceById, Sql.bind_eq_ok, Sql.pure_eq_ok] at h
  grind

theorem itemByProvider_ok {provider providerId : String} {r : Option Item}
    (h : db.itemByProvider provider providerId = .ok r) :
    r = oldest (·.createdAt) (·.id)
      (db.items.filter fun i => i.provider == some provider && i.providerId == some providerId) := by
  simp only [itemByProvider, Sql.bind_eq_ok, Sql.pure_eq_ok] at h
  grind

theorem profileOf_ok {user : String} {r : Option Profile} (h : db.profileOf user = .ok r) :
    r = db.profiles.find? (·.id == user) := by
  simp only [profileOf, Sql.bind_eq_ok, Sql.pure_eq_ok] at h
  grind

/-! ## Writes -/

theorem insertItem_ok {i : Item} (h : db.insertItem i = .ok db') :
    db' = { db with items := db.items ++ [i] } := by
  simp only [insertItem, Sql.bind_eq_ok, Sql.pure_eq_ok, ite_eq_iff, Sql.throw_eq_ok] at h
  grind

theorem updateItem_ok {i : Item} (h : db.updateItem i = .ok db') :
    db' = { db with items := replaceById (·.id) i db.items } := by
  simp only [updateItem, Sql.bind_eq_ok, Sql.pure_eq_ok] at h
  grind

theorem insertEntry_ok {e : Entry} (h : db.insertEntry e = .ok db') :
    db' = { db with entries := db.entries ++ [e] } := by
  simp only [insertEntry, Sql.bind_eq_ok, Sql.pure_eq_ok, ite_eq_iff, Sql.throw_eq_ok] at h
  grind

theorem updateEntry_ok {e : Entry} {r : Database × Bool} (h : db.updateEntry e = .ok r) :
    r = ({ db with entries := replaceById (·.id) e db.entries }, db.entries.any (·.id == e.id)) := by
  simp only [updateEntry, Sql.bind_eq_ok, Sql.pure_eq_ok] at h
  grind

theorem insertSource_ok {src : Source} (h : db.insertSource src = .ok db') :
    db' = { db with sources := db.sources ++ [src] } := by
  simp only [insertSource, Sql.bind_eq_ok, Sql.pure_eq_ok, ite_eq_iff, Sql.throw_eq_ok] at h
  grind

theorem deleteSource_ok {id : String} (h : db.deleteSource id = .ok db') :
    db' = { db with sources := db.sources.filter (·.id != id),
                    seen := db.seen.filter (·.sourceId != id) } := by
  simp only [deleteSource, Sql.bind_eq_ok, Sql.pure_eq_ok, ite_eq_iff] at h
  grind

theorem markSeen_ok {m : SeenMark} (h : db.markSeen m = .ok db') :
    db' = db ∨ db' = { db with seen := db.seen ++ [m] } := by
  simp only [markSeen, Sql.bind_eq_ok, Sql.pure_eq_ok, ite_eq_iff, Sql.throw_eq_ok] at h
  grind

theorem insertClient_ok {c : Client} (h : db.insertClient c = .ok db') :
    db' = { db with clients := db.clients ++ [c] } := by
  simp only [insertClient, Sql.bind_eq_ok, Sql.pure_eq_ok, ite_eq_iff, Sql.throw_eq_ok] at h
  grind

theorem saveClient_ok {c : Client} (h : db.saveClient c = .ok db') :
    db' = { db with clients := replaceById (·.id) c db.clients } := by
  simp only [saveClient, Sql.bind_eq_ok, Sql.pure_eq_ok] at h
  grind

theorem touchClient_ok {id : String} {t : Instant} (h : db.touchClient id t = .ok db') :
    db' = { db with clients := db.clients.map fun c =>
      if c.id == id then { c with lastModified := t } else c } := by
  simp only [touchClient, Sql.bind_eq_ok, Sql.pure_eq_ok] at h
  grind

theorem upsertProfile_ok {p : Profile} (h : db.upsertProfile p = .ok db') :
    (db.profiles.find? (·.id == p.id) = none ∧ db' = { db with profiles := db.profiles ++ [p] }) ∨
      ∃ old, db.profiles.find? (·.id == p.id) = some old ∧
        db' = { db with profiles := replaceById (·.id) { p with createdAt := old.createdAt } db.profiles } := by
  simp only [upsertProfile, Sql.bind_eq_ok] at h
  obtain ⟨_, _, _, _, h⟩ := h
  split at h <;> simp only [Sql.bind_eq_ok, Sql.pure_eq_ok] at h <;> grind

theorem advanceCounter_ok {expected next : Int} {r : Database × Bool}
    (h : db.advanceCounter expected next = .ok r) :
    r = (if db.counter = some expected then { db with counter := some next } else db,
      db.counter == some expected) := by
  simp only [advanceCounter, Sql.bind_eq_ok, Sql.pure_eq_ok] at h
  grind

theorem putTombstone_ok {t : Tombstone} (h : db.putTombstone t = .ok db') :
    db' = { db with tombstones :=
      if db.tombstones.any (fun r => r.entity == t.entity && r.entityId == t.entityId) then
        db.tombstones.map fun r => if r.entity == t.entity && r.entityId == t.entityId then t else r
      else db.tombstones ++ [t] } := by
  simp only [putTombstone, Sql.bind_eq_ok, Sql.pure_eq_ok, ite_eq_iff] at h
  grind

/-- After a tombstone is put, the tombstones are it and the earlier ones under other keys. -/
theorem mem_putTombstone {t x : Tombstone} (h : db.putTombstone t = .ok db') :
    x ∈ db'.tombstones ↔
      x = t ∨ x ∈ db.tombstones ∧ ¬(x.entity = t.entity ∧ x.entityId = t.entityId) := by
  obtain rfl := putTombstone_ok h
  split
  · simp only [List.mem_map]
    grind
  · simp only [List.mem_append, List.mem_singleton]
    grind

/-! ## Keys that a successful insert did not find -/

theorem insertItem_new {i : Item} (h : db.insertItem i = .ok db') : ∀ x ∈ db.items, x.id ≠ i.id := by
  simp only [insertItem, Sql.bind_eq_ok, Sql.pure_eq_ok, ite_eq_iff, Sql.throw_eq_ok] at h
  grind

theorem insertEntry_new {e : Entry} (h : db.insertEntry e = .ok db') :
    ∀ x ∈ db.entries, x.id ≠ e.id := by
  simp only [insertEntry, Sql.bind_eq_ok, Sql.pure_eq_ok, ite_eq_iff, Sql.throw_eq_ok] at h
  grind

theorem insertSource_new {src : Source} (h : db.insertSource src = .ok db') :
    ∀ x ∈ db.sources, x.id ≠ src.id := by
  simp only [insertSource, Sql.bind_eq_ok, Sql.pure_eq_ok, ite_eq_iff, Sql.throw_eq_ok] at h
  grind

theorem insertClient_new {c : Client} (h : db.insertClient c = .ok db') :
    ∀ x ∈ db.clients, x.id ≠ c.id := by
  simp only [insertClient, Sql.bind_eq_ok, Sql.pure_eq_ok, ite_eq_iff, Sql.throw_eq_ok] at h
  grind

/-! ## The store version and the last applied mutation of a client -/

/-- The store's version: the counter, `0` before it is set up. -/
def version (db : Database) : Int := db.counter.getD 0

/-- The id of the last mutation that the ledger records as applied for a client; `0` for a client
it does not know. -/
def lastId (db : Database) (c : String) : Int :=
  ((db.clients.find? (·.id == c)).map (·.lastMutationId)).getD 0

/-- The last applied ids are read off the clients alone. -/
theorem lastId_eq_of_clients (h : db'.clients = db.clients) (x : String) :
    db'.lastId x = db.lastId x := by
  simp [lastId, h]

theorem lastId_of_find {c : String} {cl : Client} (h : db.clients.find? (·.id == c) = some cl) :
    db.lastId c = cl.lastMutationId := by
  simp [lastId, h]

theorem lastId_of_find_none {c : String} (h : db.clients.find? (·.id == c) = none) :
    db.lastId c = 0 := by
  simp [lastId, h]

theorem lastId_insertClient {cl : Client} (h : db.clients.find? (·.id == cl.id) = none)
    (x : String) :
    ({ db with clients := db.clients ++ [cl] } : Database).lastId x =
      if x = cl.id then cl.lastMutationId else db.lastId x := by
  by_cases hx : x = cl.id
  · subst hx
    simp [lastId, List.find?_append, h]
  · have : (cl.id == x) = false := by simpa using Ne.symm hx
    simp [lastId, List.find?_append, hx, this]

theorem lastId_saveClient {cl : Client} (h : db.clients.any (·.id == cl.id)) (x : String) :
    ({ db with clients := replaceById (·.id) cl db.clients } : Database).lastId x =
      if x = cl.id then cl.lastMutationId else db.lastId x := by
  by_cases hx : x = cl.id
  · subst hx
    simp [lastId, find?_replaceById_self h]
  · simp [lastId, find?_replaceById_ne (Ne.symm hx), hx]

theorem lastId_touchClient {c : String} {t : Instant} (x : String) :
    ({ db with clients := db.clients.map fun r =>
      if r.id == c then { r with lastModified := t } else r } : Database).lastId x = db.lastId x := by
  have hp : ((fun r : Client => r.id == x) ∘ fun r => if r.id == c then { r with lastModified := t } else r)
      = fun r => r.id == x := by
    funext r
    by_cases hr : r.id = c <;> simp [hr]
  simp only [lastId, List.find?_map, hp, Option.map_map]
  congr 2
  funext r
  by_cases hr : r.id = c <;> simp [hr]

end Database

end ReadLater.Store
