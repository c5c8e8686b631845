import ReadLater.Proofs.Store.Writes
import Mathlib.Data.List.Nodup

/-!
# Sound keys

A pull names every row by a key built from its id, so a store that clients replicate must hold
each id once per table. `Database.Sound` collects what makes the keys sound, together with the
schema a pull reads:

* every table holds each id once, a tombstone each key once, and a client each id once;
* no live source shares its id with a source's tombstone;
* every client belongs to a group;
* the synced tables are in place with their version column, and the counter holds a version
  (`Database.Ready`).

Every write keeps the store sound (`Sound.insertItem`, `Sound.putTombstone`, …); adding a source
needs its id to name no tombstone, which is where fresh ids come in (`Sound.insertSource`).
-/

namespace ReadLater.Store

open Clock

/-- Replacing a row by id leaves the ids as they were. -/
theorem map_replaceById {α : Type} (id : α → String) (row : α) (rows : List α) :
    (replaceById id row rows).map id = rows.map id := by
  simp only [replaceById, List.map_map]
  apply List.map_congr_left
  intro r _
  simp only [Function.comp_apply]
  split
  · rename_i h
    exact (beq_iff_eq.1 h).symm
  · rfl

namespace Database

/-- The tables a pull reads are in place, the synced ones with their version column, and the
counter holds a version. -/
def Ready (d : Database) : Prop :=
  d.has .counter = true ∧ d.counter.isSome = true ∧ d.has .tombstones = true ∧
    ∀ t ∈ [Table.entries, .items, .sources, .profile, .clients],
      d.has t = true ∧ d.versioned.contains t = true

/-- The keys of the store are sound and the schema a pull reads is in place. -/
structure Sound (d : Database) : Prop where
  ready : d.Ready
  entries : (d.entries.map (·.id)).Nodup
  items : (d.items.map (·.id)).Nodup
  sources : (d.sources.map (·.id)).Nodup
  profiles : (d.profiles.map (·.id)).Nodup
  tombstones : (d.tombstones.map fun t => (t.entity, t.entityId)).Nodup
  clients : (d.clients.map (·.id)).Nodup
  /-- No live source shares its id with a source's tombstone. -/
  apart : ∀ src ∈ d.sources, ∀ t ∈ d.tombstones, t.entity = "source" → t.entityId ≠ src.id
  groups : ∀ cl ∈ d.clients, cl.groupId ≠ ""

/-- Adding a row under a new id keeps the ids apart. -/
theorem nodup_map_append {α β : Type} {id : α → β} {rows : List α} {row : α}
    (h : (rows.map id).Nodup) (hnew : ∀ x ∈ rows, id x ≠ id row) :
    ((rows ++ [row]).map id).Nodup := by
  rw [List.map_append, List.nodup_append]
  refine ⟨h, List.nodup_singleton _, ?_⟩
  intro a ha b hb
  obtain ⟨x, hx, rfl⟩ := List.mem_map.1 ha
  rw [List.map_singleton, List.mem_singleton] at hb
  exact hb ▸ hnew x hx

namespace Sound

variable {d d' : Database}

theorem insertItem {i : Item} (h : d.Sound) (hw : d.insertItem i = .ok d') : d'.Sound := by
  have hnew := insertItem_new hw
  obtain rfl := insertItem_ok hw
  exact { h with items := nodup_map_append h.items hnew }

theorem updateItem {i : Item} (h : d.Sound) (hw : d.updateItem i = .ok d') : d'.Sound := by
  obtain rfl := updateItem_ok hw
  exact { h with items := (map_replaceById (·.id) i d.items).symm ▸ h.items }

theorem insertEntry {e : Entry} (h : d.Sound) (hw : d.insertEntry e = .ok d') : d'.Sound := by
  have hnew := insertEntry_new hw
  obtain rfl := insertEntry_ok hw
  exact { h with entries := nodup_map_append h.entries hnew }

theorem updateEntry {e : Entry} {hit : Bool} (h : d.Sound) (hw : d.updateEntry e = .ok (d', hit)) :
    d'.Sound := by
  obtain ⟨rfl, -⟩ := Prod.mk.inj (updateEntry_ok hw)
  exact { h with entries := (map_replaceById (·.id) e d.entries).symm ▸ h.entries }

/-- A new source keeps the keys sound when its id names no source's tombstone. -/
theorem insertSource {src : Source} (h : d.Sound) (hw : d.insertSource src = .ok d')
    (hfresh : ∀ t ∈ d.tombstones, t.entity = "source" → t.entityId ≠ src.id) : d'.Sound := by
  have hnew := insertSource_new hw
  obtain rfl := insertSource_ok hw
  refine { h with sources := nodup_map_append h.sources hnew, apart := ?_ }
  intro x hx t ht hent
  rcases List.mem_append.1 hx with hx | hx
  · exact h.apart x hx t ht hent
  · rw [List.mem_singleton] at hx
    exact hx ▸ hfresh t ht hent

theorem deleteSource {id : String} (h : d.Sound) (hw : d.deleteSource id = .ok d') : d'.Sound := by
  obtain rfl := deleteSource_ok hw
  refine { h with sources := ?_, apart := fun x hx => h.apart x (List.mem_filter.1 hx).1 }
  exact h.sources.sublist (List.filter_sublist.map _)

/-- After a source's deletion no live source has its id. -/
theorem deleteSource_gone {id : String} (hw : d.deleteSource id = .ok d') :
    ∀ x ∈ d'.sources, x.id ≠ id := by
  obtain rfl := deleteSource_ok hw
  intro x hx
  simpa using (List.mem_filter.1 hx).2

/-- A tombstone keeps the keys sound when no live source has the id it names. -/
theorem putTombstone {t : Tombstone} (h : d.Sound) (hw : d.putTombstone t = .ok d')
    (hgone : t.entity = "source" → ∀ x ∈ d.sources, x.id ≠ t.entityId) : d'.Sound := by
  have hmem := fun x => mem_putTombstone (x := x) hw
  have hd := putTombstone_ok hw
  subst hd
  refine { h with tombstones := ?_, apart := ?_ }
  · dsimp only
    split
    · -- the tombstone under the same key is replaced, and the keys stay
      rw [List.map_map]
      convert h.tombstones using 1
      apply List.map_congr_left
      intro x _
      simp only [Function.comp_apply]
      split
      · rename_i hx
        simp only [Bool.and_eq_true, beq_iff_eq] at hx
        rw [hx.1, hx.2]
      · rfl
    · rename_i hnone
      refine nodup_map_append h.tombstones fun x hx hk => hnone ?_
      exact List.any_eq_true.2 ⟨x, hx, by simp only [Prod.mk.injEq] at hk; simp [hk]⟩
  · intro x hx t' ht' hent
    rcases (hmem t').1 ht' with rfl | ⟨ht', -⟩
    · exact (hgone hent x hx).symm
    · exact h.apart x hx t' ht' hent

theorem upsertProfile {p : Profile} (h : d.Sound) (hw : d.upsertProfile p = .ok d') : d'.Sound := by
  rcases upsertProfile_ok hw with ⟨hnone, rfl⟩ | ⟨old, -, rfl⟩
  · refine { h with profiles := nodup_map_append h.profiles fun x hx hid => ?_ }
    have := List.find?_eq_none.1 hnone x hx
    simp [hid] at this
  · exact { h with
      profiles := (map_replaceById (·.id) { p with createdAt := old.createdAt } d.profiles).symm ▸
        h.profiles }

theorem markSeen {m : SeenMark} (h : d.Sound) (hw : d.markSeen m = .ok d') : d'.Sound := by
  rcases markSeen_ok hw with rfl | rfl
  · exact h
  · exact { h with }

/-- A new client keeps the keys sound when it belongs to a group. -/
theorem insertClient {c : Client} (h : d.Sound) (hw : d.insertClient c = .ok d')
    (hg : c.groupId ≠ "") : d'.Sound := by
  have hnew := insertClient_new hw
  obtain rfl := insertClient_ok hw
  refine { h with clients := nodup_map_append h.clients hnew, groups := fun x hx => ?_ }
  rcases List.mem_append.1 hx with hx | hx
  · exact h.groups x hx
  · rw [List.mem_singleton] at hx
    exact hx ▸ hg

/-- Replacing a client by one that belongs to a group keeps the keys sound. -/
theorem replaceClient (h : d.Sound) {c : Client} (hg : c.groupId ≠ "") :
    ({ d with clients := replaceById (·.id) c d.clients } : Database).Sound := by
  have hids := (map_replaceById (fun x : Client => x.id) c d.clients).symm ▸ h.clients
  refine { h with clients := hids, groups := fun x hx => ?_ }
  rcases mem_replaceById hx with rfl | ⟨hx, -⟩
  · exact hg
  · exact h.groups x hx

/-- Changing clients without changing their ids or groups keeps the keys sound. -/
theorem mapClients (h : d.Sound) {f : Client → Client} (hid : ∀ c, (f c).id = c.id)
    (hg : ∀ c, (f c).groupId = c.groupId) :
    ({ d with clients := d.clients.map f } : Database).Sound := by
  have hids : ((d.clients.map f).map (·.id)).Nodup := by
    rw [List.map_map]
    convert h.clients using 1
    exact List.map_congr_left fun c _ => hid c
  refine { h with clients := hids, groups := fun x hx => ?_ }
  obtain ⟨y, hy, rfl⟩ := List.mem_map.1 hx
  rw [hg y]
  exact h.groups y hy

/-- Saving a client that belongs to a group keeps the keys sound. -/
theorem saveClient {c : Client} (h : d.Sound) (hw : d.saveClient c = .ok d') (hg : c.groupId ≠ "") :
    d'.Sound := by
  obtain rfl := saveClient_ok hw
  exact h.replaceClient hg

theorem touchClient {id : String} {t : Instant} (h : d.Sound) (hw : d.touchClient id t = .ok d') :
    d'.Sound := by
  obtain rfl := touchClient_ok hw
  -- stamping the contact keeps every id and group
  refine h.mapClients (fun c => ?_) (fun c => ?_) <;> split <;> rfl

/-- Moving the counter keeps the keys sound. -/
theorem advanceCounter {expected next : Int} {hit : Bool} (h : d.Sound)
    (hw : d.advanceCounter expected next = .ok (d', hit)) : d'.Sound := by
  obtain ⟨rfl, -⟩ := Prod.mk.inj (advanceCounter_ok hw)
  split
  · exact { h with ready := ⟨h.ready.1, rfl, h.ready.2.2⟩ }
  · exact h

end Sound

end Database

end ReadLater.Store
