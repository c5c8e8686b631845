import ReadLater.Proofs.Store.Writes
import ReadLater.Store.Txn

/-!
# Version stamps

A transaction gives every row it writes to a table that clients replicate the version its ticket
hands out: the counter it read, plus one. `Confined s₀ s` says what the body of an operation may
have done to its transaction's state `s` since the state `s₀`:

* the clients and the counter are as they were;
* the ticket was read from the counter at most once, and only ever gets used;
* every synced row that is new carries the ticket's stamp, and any change of the synced rows used
  the ticket;
* every entry, item, profile and source of `s₀` is still there by id, except a deleted source,
  which leaves a stamped tombstone; a tombstone is only ever replaced by a stamped one.

`Confined.refl`, the two ticket steps and one lemma per statement that writes synced rows
(`Confined.insertItem`, `Confined.updateEntry`, `Confined.unsubscribe`, …) carry it through the
body of every operation.
-/

namespace ReadLater.Store

/-- A row of a table that clients replicate, or the record of a deleted one. -/
inductive SyncedRow where
  | entry (e : Entry)
  | item (i : Item)
  | source (s : Source)
  | profile (p : Profile)
  | tombstone (t : Tombstone)
  deriving DecidableEq

/-- The row's version. -/
def SyncedRow.version : SyncedRow → Int
  | .entry e => e.version
  | .item i => i.version
  | .source s => s.version
  | .profile p => p.version
  | .tombstone t => t.version

/-- The rows of the store that clients replicate, with the tombstones. -/
def Database.syncedRows (db : Database) : List SyncedRow :=
  db.entries.map .entry ++ db.items.map .item ++ db.sources.map .source ++
    db.profiles.map .profile ++ db.tombstones.map .tombstone

@[simp] theorem Database.mem_syncedRows {db : Database} {r : SyncedRow} :
    r ∈ db.syncedRows ↔ (∃ e ∈ db.entries, r = .entry e) ∨ (∃ i ∈ db.items, r = .item i) ∨
      (∃ s ∈ db.sources, r = .source s) ∨ (∃ p ∈ db.profiles, r = .profile p) ∨
      ∃ t ∈ db.tombstones, r = .tombstone t := by
  simp only [syncedRows, List.mem_append, List.mem_map]
  grind

/-- The ticket hands out `v`: a write asked for the next version, and `v` is the counter it read
plus one. -/
def VersionTicket.Stamps (tk : VersionTicket) (v : Int) : Prop :=
  tk.used = true ∧ ∃ c, tk.current = some c ∧ v = c + 1

/-- A row of an earlier state is still accounted for in `s`: by its id, or, for a source, by a
stamped tombstone; a tombstone by itself or by a stamped one with the same key. -/
def SyncedRow.KeptIn (r : SyncedRow) (s : TxnState) : Prop :=
  match r with
  | .entry e => ∃ e' ∈ s.db.entries, e'.id = e.id
  | .item i => ∃ i' ∈ s.db.items, i'.id = i.id
  | .profile p => ∃ p' ∈ s.db.profiles, p'.id = p.id
  | .source src => (∃ src' ∈ s.db.sources, src'.id = src.id) ∨
      ∃ t ∈ s.db.tombstones, t.entity = "source" ∧ t.entityId = src.id ∧ s.ticket.Stamps t.version
  | .tombstone t => ∃ t' ∈ s.db.tombstones, t'.entity = t.entity ∧ t'.entityId = t.entityId ∧
      (t' = t ∨ s.ticket.Stamps t'.version)

/-- What the body of an operation may have done to its transaction's state since `s₀`. -/
structure Confined (s₀ s : TxnState) : Prop where
  counter : s.db.counter = s₀.db.counter
  clients : s.db.clients = s₀.db.clients
  /-- The ticket is as it was, or was read from the counter. -/
  current : s.ticket.current = s₀.ticket.current ∨
    s₀.ticket.current = none ∧ s.ticket.current = s₀.db.counter
  used : s₀.ticket.used = true → s.ticket.used = true
  /-- A synced row that is new carries the ticket's stamp. -/
  fresh : ∀ r ∈ s.db.syncedRows, r ∉ s₀.db.syncedRows → s.ticket.Stamps r.version
  /-- A change of the synced rows used the ticket. -/
  changed : s.db.syncedRows ≠ s₀.db.syncedRows → s.ticket.used = true
  kept : ∀ r ∈ s₀.db.syncedRows, r.KeptIn s

/-- Some synced row of the store carries the ticket's stamp. -/
def TxnState.Stamped (s : TxnState) : Prop :=
  ∃ r ∈ s.db.syncedRows, s.ticket.Stamps r.version

/-- A used ticket shows in the store: some synced row carries its stamp. -/
def TxnState.Justified (s : TxnState) : Prop :=
  s.ticket.used = true → s.Stamped

end ReadLater.Store

namespace ReadLater.Store

namespace VersionTicket

theorem Stamps.used {tk : VersionTicket} {v : Int} (h : tk.Stamps v) : tk.used = true := h.1

end VersionTicket

theorem SyncedRow.keptIn_of_mem {r : SyncedRow} {s : TxnState} (h : r ∈ s.db.syncedRows) :
    r.KeptIn s := by
  rcases Database.mem_syncedRows.1 h with ⟨e, he, rfl⟩ | ⟨i, hi, rfl⟩ | ⟨src, hs, rfl⟩ |
    ⟨p, hp, rfl⟩ | ⟨t, ht, rfl⟩
  · exact ⟨e, he, rfl⟩
  · exact ⟨i, hi, rfl⟩
  · exact Or.inl ⟨src, hs, rfl⟩
  · exact ⟨p, hp, rfl⟩
  · exact ⟨t, ht, rfl, rfl, Or.inl rfl⟩

/-- The rows of `s` are kept in `s'` when every entry, item and profile id persists and every
source and tombstone is still there. -/
theorem SyncedRow.keptIn_of_tables {s s' : TxnState}
    (he : ∀ e ∈ s.db.entries, ∃ e' ∈ s'.db.entries, e'.id = e.id)
    (hi : ∀ i ∈ s.db.items, ∃ i' ∈ s'.db.items, i'.id = i.id)
    (hp : ∀ p ∈ s.db.profiles, ∃ p' ∈ s'.db.profiles, p'.id = p.id)
    (hs : s.db.sources ⊆ s'.db.sources) (ht : s.db.tombstones ⊆ s'.db.tombstones) :
    ∀ r ∈ s.db.syncedRows, r.KeptIn s' := by
  intro r hr
  rcases Database.mem_syncedRows.1 hr with ⟨e, he', rfl⟩ | ⟨i, hi', rfl⟩ | ⟨src, hs', rfl⟩ |
    ⟨p, hp', rfl⟩ | ⟨t, ht', rfl⟩
  · exact he e he'
  · exact hi i hi'
  · exact Or.inl ⟨src, hs hs', rfl⟩
  · exact hp p hp'
  · exact ⟨t, ht ht', rfl, rfl, Or.inl rfl⟩

namespace Confined

variable {s₀ s s' s'' : TxnState}

/-- A stamp the ticket hands out stays the same for the rest of the body. -/
theorem stamps (h : Confined s s') {v : Int} (hv : s.ticket.Stamps v) : s'.ticket.Stamps v := by
  obtain ⟨hu, c, hc, rfl⟩ := hv
  refine ⟨h.used hu, c, ?_, rfl⟩
  rcases h.current with h' | ⟨h', _⟩
  · rw [h', hc]
  · rw [hc] at h'
    cases h'

theorem keptIn (h : Confined s s') {r : SyncedRow} (hr : r.KeptIn s) : r.KeptIn s' := by
  cases r with
  | entry e =>
    obtain ⟨e', he', hid⟩ := hr
    simpa only [SyncedRow.KeptIn, hid] using h.kept (.entry e') (by simp [he'])
  | item i =>
    obtain ⟨i', hi', hid⟩ := hr
    simpa only [SyncedRow.KeptIn, hid] using h.kept (.item i') (by simp [hi'])
  | profile p =>
    obtain ⟨p', hp', hid⟩ := hr
    simpa only [SyncedRow.KeptIn, hid] using h.kept (.profile p') (by simp [hp'])
  | source src =>
    rcases hr with ⟨src', hs', hid⟩ | ⟨t, ht, hent, hid, hst⟩
    · simpa only [SyncedRow.KeptIn, hid] using h.kept (.source src') (by simp [hs'])
    · -- the tombstone of a deleted source is kept, by itself or by a stamped one
      obtain ⟨t', ht', hent', hid', hsame⟩ := h.kept (.tombstone t) (by simp [ht])
      refine Or.inr ⟨t', ht', hent'.trans hent, hid'.trans hid, ?_⟩
      rcases hsame with rfl | hst'
      · exact h.stamps hst
      · exact hst'
  | tombstone t =>
    obtain ⟨t', ht', hent, hid, hsame⟩ := hr
    obtain ⟨t'', ht'', hent', hid', hsame'⟩ := h.kept (.tombstone t') (by simp [ht'])
    refine ⟨t'', ht'', hent'.trans hent, hid'.trans hid, ?_⟩
    rcases hsame' with rfl | hst'
    · exact hsame.imp_right h.stamps
    · exact Or.inr hst'

theorem refl (s : TxnState) : Confined s s where
  counter := rfl
  clients := rfl
  current := Or.inl rfl
  used := id
  fresh _ h h' := absurd h h'
  changed h := absurd rfl h
  kept _ := SyncedRow.keptIn_of_mem

theorem trans (h₁ : Confined s₀ s) (h₂ : Confined s s') : Confined s₀ s' where
  counter := h₂.counter.trans h₁.counter
  clients := h₂.clients.trans h₁.clients
  current := by
    rcases h₁.current with h | ⟨h0, h⟩ <;> rcases h₂.current with h' | ⟨h0', h'⟩
    · exact Or.inl (h'.trans h)
    · exact Or.inr ⟨h ▸ h0', h'.trans (h₁.counter)⟩
    · exact Or.inr ⟨h0, h'.trans h⟩
    · rw [h0'] at h
      exact Or.inr ⟨h0, h'.trans h₁.counter⟩
  used h := h₂.used (h₁.used h)
  fresh r hr hr₀ := by
    by_cases hs : r ∈ s.db.syncedRows
    · exact h₂.stamps (h₁.fresh r hs hr₀)
    · exact h₂.fresh r hr hs
  changed h := by
    by_cases hs : s'.db.syncedRows = s.db.syncedRows
    · exact h₂.used (h₁.changed (hs ▸ h))
    · exact h₂.changed hs
  kept r hr := h₂.keptIn (h₁.kept r hr)

/-- From a fresh ticket, a ticket that holds a value read it from the counter. -/
theorem current_of_fresh {d : Database} (h : Confined ⟨d, {}⟩ s) {c : Int}
    (hc : s.ticket.current = some c) : d.counter = some c := by
  rcases h.current with h' | ⟨-, h'⟩
  · rw [hc] at h'
    cases h'
  · exact h' ▸ hc

/-- From a fresh ticket on a store at version `V`, every stamp is `V + 1`. -/
theorem stamps_of_fresh {d : Database} {V w : Int} (h : Confined ⟨d, {}⟩ s)
    (hV : d.counter = some V) (hs : s.ticket.Stamps w) : w = V + 1 := by
  obtain ⟨-, c, hc, rfl⟩ := hs
  rw [h.current_of_fresh hc, Option.some.injEq] at hV
  rw [hV]

/-! ## The ticket's two steps -/

/-- Reading the counter into an empty ticket. -/
theorem load {c : Int} (hc : s.ticket.current = none) (hcnt : s.db.counter = some c) :
    Confined s ⟨s.db, ⟨some c, s.ticket.used⟩⟩ where
  counter := rfl
  clients := rfl
  current := Or.inr ⟨hc, hcnt.symm⟩
  used := id
  fresh _ h h' := absurd h h'
  changed h := absurd rfl h
  kept _ hr := SyncedRow.keptIn_of_mem (s := ⟨s.db, ⟨some c, s.ticket.used⟩⟩) hr

/-- Asking the ticket for the next version. -/
theorem use (s : TxnState) : Confined s ⟨s.db, ⟨s.ticket.current, true⟩⟩ where
  counter := rfl
  clients := rfl
  current := Or.inl rfl
  used _ := rfl
  fresh _ h h' := absurd h h'
  changed _ := rfl
  kept _ hr := SyncedRow.keptIn_of_mem (s := ⟨s.db, ⟨s.ticket.current, true⟩⟩) hr

/-! ## Writes -/

/-- A write that keeps the counter, the clients and every synced row, and adds no synced row
but one that the ticket stamps. -/
theorem of_write {db : Database} (r₀ : SyncedRow) (hs : s.ticket.Stamps r₀.version)
    (hcnt : db.counter = s.db.counter) (hcl : db.clients = s.db.clients)
    (hnew : ∀ r ∈ db.syncedRows, r ∈ s.db.syncedRows ∨ r = r₀)
    (hkept : ∀ r ∈ s.db.syncedRows, r.KeptIn { s with db := db }) :
    Confined s { s with db := db } where
  counter := hcnt
  clients := hcl
  current := Or.inl rfl
  used := id
  fresh r hr hr₀ := by
    rcases hnew r hr with h | rfl
    · exact absurd h hr₀
    · exact hs
  changed _ := hs.used
  kept := hkept

/-- A write that leaves the synced rows, the counter and the clients as they were. -/
theorem of_sameRows {db : Database} (hrows : db.syncedRows = s.db.syncedRows)
    (hcnt : db.counter = s.db.counter) (hcl : db.clients = s.db.clients) :
    Confined s { s with db := db } where
  counter := hcnt
  clients := hcl
  current := Or.inl rfl
  used := id
  fresh _ hr hr₀ := absurd (hrows ▸ hr) hr₀
  changed h := absurd hrows h
  kept _ hr := SyncedRow.keptIn_of_mem (s := { s with db := db }) (hrows ▸ hr)

section Writes

variable {db : Database}

theorem insertItem {i : Item} (h : Confined s₀ s) (hw : s.db.insertItem i = .ok db)
    (hs : s.ticket.Stamps i.version) : Confined s₀ { s with db := db } := by
  obtain rfl := Database.insertItem_ok hw
  refine h.trans (of_write (.item i) hs rfl rfl (fun r hr => ?_) ?_)
  · simp only [Database.mem_syncedRows, List.mem_append, List.mem_singleton] at hr ⊢
    grind
  · exact SyncedRow.keptIn_of_tables (fun e he => ⟨e, he, rfl⟩)
      (fun x hx => ⟨x, List.mem_append_left _ hx, rfl⟩) (fun p hp => ⟨p, hp, rfl⟩)
      (fun _ => id) (fun _ => id)

theorem updateItem {i : Item} (h : Confined s₀ s) (hw : s.db.updateItem i = .ok db)
    (hs : s.ticket.Stamps i.version) : Confined s₀ { s with db := db } := by
  obtain rfl := Database.updateItem_ok hw
  refine h.trans (of_write (.item i) hs rfl rfl (fun r hr => ?_) ?_)
  · simp only [Database.mem_syncedRows] at hr ⊢
    grind [mem_replaceById]
  · exact SyncedRow.keptIn_of_tables (fun e he => ⟨e, he, rfl⟩)
      (fun _ hx => exists_id_replaceById hx) (fun p hp => ⟨p, hp, rfl⟩) (fun _ => id) (fun _ => id)

theorem insertEntry {e : Entry} (h : Confined s₀ s) (hw : s.db.insertEntry e = .ok db)
    (hs : s.ticket.Stamps e.version) : Confined s₀ { s with db := db } := by
  obtain rfl := Database.insertEntry_ok hw
  refine h.trans (of_write (.entry e) hs rfl rfl (fun r hr => ?_) ?_)
  · simp only [Database.mem_syncedRows, List.mem_append, List.mem_singleton] at hr ⊢
    grind
  · exact SyncedRow.keptIn_of_tables (fun x hx => ⟨x, List.mem_append_left _ hx, rfl⟩)
      (fun i hi => ⟨i, hi, rfl⟩) (fun p hp => ⟨p, hp, rfl⟩) (fun _ => id) (fun _ => id)

theorem updateEntry {e : Entry} {hit : Bool} (h : Confined s₀ s)
    (hw : s.db.updateEntry e = .ok (db, hit)) (hs : s.ticket.Stamps e.version) :
    Confined s₀ { s with db := db } := by
  obtain ⟨rfl, -⟩ := Prod.mk.inj (Database.updateEntry_ok hw)
  refine h.trans (of_write (.entry e) hs rfl rfl (fun r hr => ?_) ?_)
  · simp only [Database.mem_syncedRows] at hr ⊢
    grind [mem_replaceById]
  · exact SyncedRow.keptIn_of_tables (fun _ hx => exists_id_replaceById hx)
      (fun i hi => ⟨i, hi, rfl⟩) (fun p hp => ⟨p, hp, rfl⟩) (fun _ => id) (fun _ => id)

theorem insertSource {src : Source} (h : Confined s₀ s) (hw : s.db.insertSource src = .ok db)
    (hs : s.ticket.Stamps src.version) : Confined s₀ { s with db := db } := by
  obtain rfl := Database.insertSource_ok hw
  refine h.trans (of_write (.source src) hs rfl rfl (fun r hr => ?_) ?_)
  · simp only [Database.mem_syncedRows, List.mem_append, List.mem_singleton] at hr ⊢
    grind
  · exact SyncedRow.keptIn_of_tables (fun e he => ⟨e, he, rfl⟩) (fun i hi => ⟨i, hi, rfl⟩)
      (fun p hp => ⟨p, hp, rfl⟩) (List.subset_append_left _ _) (fun _ => id)

theorem upsertProfile {p : Profile} (h : Confined s₀ s) (hw : s.db.upsertProfile p = .ok db)
    (hs : s.ticket.Stamps p.version) : Confined s₀ { s with db := db } := by
  rcases Database.upsertProfile_ok hw with ⟨-, rfl⟩ | ⟨old, -, rfl⟩
  · refine h.trans (of_write (.profile p) hs rfl rfl (fun r hr => ?_) ?_)
    · simp only [Database.mem_syncedRows, List.mem_append, List.mem_singleton] at hr ⊢
      grind
    · exact SyncedRow.keptIn_of_tables (fun e he => ⟨e, he, rfl⟩) (fun i hi => ⟨i, hi, rfl⟩)
        (fun x hx => ⟨x, List.mem_append_left _ hx, rfl⟩) (fun _ => id) (fun _ => id)
  · -- the stored profile keeps its creation time and takes everything else from `p`
    refine h.trans (of_write (.profile { p with createdAt := old.createdAt }) hs rfl rfl
      (fun r hr => ?_) ?_)
    · simp only [Database.mem_syncedRows] at hr ⊢
      grind [mem_replaceById]
    · exact SyncedRow.keptIn_of_tables (fun e he => ⟨e, he, rfl⟩) (fun i hi => ⟨i, hi, rfl⟩)
        (fun _ hx => exists_id_replaceById hx) (fun _ => id) (fun _ => id)

/-- Deleting a source and putting its tombstone, stamped by the ticket. -/
theorem deleteSource {id : String} {t : Tombstone} {db' : Database} (h : Confined s₀ s)
    (hdel : s.db.deleteSource id = .ok db) (hput : db.putTombstone t = .ok db')
    (hent : t.entity = "source") (hid : t.entityId = id) (hs : s.ticket.Stamps t.version) :
    Confined s₀ { s with db := db' } := by
  obtain rfl := Database.deleteSource_ok hdel
  have hts := fun x => Database.mem_putTombstone (x := x) hput
  obtain rfl := Database.putTombstone_ok hput
  refine h.trans (of_write (.tombstone t) hs rfl rfl (fun r hr => ?_) (fun r hr => ?_))
  · simp only [Database.mem_syncedRows, hts, List.mem_filter] at hr ⊢
    grind
  · rcases Database.mem_syncedRows.1 hr with ⟨e, he, rfl⟩ | ⟨i, hi, rfl⟩ | ⟨src, hsrc, rfl⟩ |
      ⟨p, hp, rfl⟩ | ⟨x, hx, rfl⟩
    · exact ⟨e, he, rfl⟩
    · exact ⟨i, hi, rfl⟩
    · -- the deleted source is accounted for by the new tombstone
      by_cases hsid : src.id = id
      · exact Or.inr ⟨t, (hts t).2 (Or.inl rfl), hent, hid.trans hsid.symm, hs⟩
      · exact Or.inl ⟨src, List.mem_filter.2 ⟨hsrc, by simpa using hsid⟩, rfl⟩
    · exact ⟨p, hp, rfl⟩
    · by_cases hk : x.entity = t.entity ∧ x.entityId = t.entityId
      · exact ⟨t, (hts t).2 (Or.inl rfl), hk.1.symm, hk.2.symm, Or.inr hs⟩
      · exact ⟨x, (hts x).2 (Or.inr ⟨hx, hk⟩), rfl, rfl, Or.inl rfl⟩

theorem markSeen {m : SeenMark} (h : Confined s₀ s) (hw : s.db.markSeen m = .ok db) :
    Confined s₀ { s with db := db } := by
  rcases Database.markSeen_ok hw with rfl | rfl
  · exact h
  · exact h.trans (of_sameRows rfl rfl rfl)

end Writes

end Confined

/-! ## Stamped rows

A write of a row stamped by the ticket leaves a stamped row; the writes that only add rows keep
one. -/

namespace TxnState

variable {s : TxnState} {db : Database}

theorem Stamped.of_subset (h : s.Stamped) (hsub : s.db.syncedRows ⊆ db.syncedRows) :
    ({ s with db := db } : TxnState).Stamped := by
  obtain ⟨r, hr, hs⟩ := h
  exact ⟨r, hsub hr, hs⟩

theorem Stamped.insertEntry {e : Entry} (h : s.Stamped) (hw : s.db.insertEntry e = .ok db) :
    ({ s with db := db } : TxnState).Stamped := by
  obtain rfl := Database.insertEntry_ok hw
  exact h.of_subset fun r hr => by simp only [Database.mem_syncedRows] at hr ⊢; grind

theorem Stamped.markSeen {m : SeenMark} (h : s.Stamped) (hw : s.db.markSeen m = .ok db) :
    ({ s with db := db } : TxnState).Stamped := by
  rcases Database.markSeen_ok hw with rfl | rfl
  · exact h
  · exact h.of_subset fun r hr => by simpa only [Database.syncedRows] using hr

theorem stamped_insertItem {i : Item} (hw : s.db.insertItem i = .ok db)
    (hs : s.ticket.Stamps i.version) : ({ s with db := db } : TxnState).Stamped := by
  obtain rfl := Database.insertItem_ok hw
  exact ⟨.item i, by simp, hs⟩

/-- Updating an item that is there by id leaves it, stamped. -/
theorem stamped_updateItem {i x : Item} (hw : s.db.updateItem i = .ok db)
    (hx : x ∈ s.db.items) (hid : x.id = i.id) (hs : s.ticket.Stamps i.version) :
    ({ s with db := db } : TxnState).Stamped := by
  obtain rfl := Database.updateItem_ok hw
  exact ⟨.item i, by simpa using mem_replaceById_of_mem hx hid, hs⟩

/-- Updating an entry that was there leaves it, stamped. -/
theorem stamped_updateEntry {e : Entry} (hw : s.db.updateEntry e = .ok (db, true))
    (hs : s.ticket.Stamps e.version) : ({ s with db := db } : TxnState).Stamped := by
  obtain ⟨rfl, hhit⟩ := Prod.mk.inj (Database.updateEntry_ok hw)
  obtain ⟨x, hx, hid⟩ := List.any_eq_true.1 hhit.symm
  exact ⟨.entry e, by simpa using mem_replaceById_of_mem hx (by simpa using hid), hs⟩

theorem stamped_insertEntry {e : Entry} (hw : s.db.insertEntry e = .ok db)
    (hs : s.ticket.Stamps e.version) : ({ s with db := db } : TxnState).Stamped := by
  obtain rfl := Database.insertEntry_ok hw
  exact ⟨.entry e, by simp, hs⟩

theorem stamped_insertSource {src : Source} (hw : s.db.insertSource src = .ok db)
    (hs : s.ticket.Stamps src.version) : ({ s with db := db } : TxnState).Stamped := by
  obtain rfl := Database.insertSource_ok hw
  exact ⟨.source src, by simp, hs⟩

/-- A new or updated profile is stored with the version it was written with. -/
theorem stamped_upsertProfile {p : Profile} (hw : s.db.upsertProfile p = .ok db)
    (hs : s.ticket.Stamps p.version) : ({ s with db := db } : TxnState).Stamped := by
  rcases Database.upsertProfile_ok hw with ⟨-, rfl⟩ | ⟨old, hold, rfl⟩
  · exact ⟨.profile p, by simp, hs⟩
  · have hmem := List.mem_of_find?_eq_some hold
    have hid : old.id = p.id := by simpa using List.find?_some hold
    exact ⟨.profile { p with createdAt := old.createdAt },
      by simpa using @mem_replaceById_of_mem _ _ { p with createdAt := old.createdAt } _ _ hmem hid,
      hs⟩

theorem stamped_putTombstone {t : Tombstone} {db₁ : Database} (hw : db₁.putTombstone t = .ok db)
    (hs : s.ticket.Stamps t.version) : ({ s with db := db } : TxnState).Stamped :=
  ⟨.tombstone t, by simpa using (Database.mem_putTombstone hw).2 (Or.inl rfl), hs⟩

end TxnState

end ReadLater.Store
