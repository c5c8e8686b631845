import Mathlib
import ReadLater.Proofs.Sync.View
import ReadLater.Proofs.Store.Succession

/-!
# What a pull answers

A pull on a store that is ready for it always answers, and changes nothing. Its answer is
described here without the queries that compute it:

* `Database.changes d user since`: a put for every row a client replicates that changed after
  `since`, and, after a first version, a del for every source deleted after `since`;
* `Database.groupChanges d group since`: the clients of the group changed after `since`, with
  their last applied mutation;
* `Database.Answers`: patches sorted by key that are the changes in some order, and a progress
  list that is the group's changes in some order;
* **`Sync.pull_answers`**: the answer to a pull from a cursor at or below the store's version is
  the changes since the cursor; from a cursor above it, a `clear` followed by the changes since
  `0`, with the reset flag set.
-/

set_option linter.unusedSimpArgs false

namespace ReadLater

open Store Sync

namespace Store.Database

variable {d : Database}

/-! ## The reads of a pull -/

/-- In a store ready for a pull, a read of a synced table finds its version column. -/
theorem Ready.needVersion_bind {α : Type} (h : d.Ready) {t : Table}
    (ht : t ∈ [Table.entries, .items, .sources, .profile, .clients]) (x : α) :
    (d.needVersion t >>= fun _ => pure x) = .ok x := by
  obtain ⟨hh, hv⟩ := h.2.2.2 t ht
  rw [List.contains_iff_mem] at hv
  simp [Database.needVersion, Database.need, hh, hv]

theorem Ready.need_tombstones_bind {α : Type} (h : d.Ready) (x : α) :
    (d.need .tombstones >>= fun _ => pure x) = .ok x := by
  simp [Database.need, h.2.2.1]

/-- In a store ready for a pull, the version read is the counter's. -/
theorem Ready.currentVersion_exec {s : TxnState} (hr : s.db.Ready) (amb : Ambient) :
    Txn.currentVersion.exec s amb = (.ok (s.db.version, s), amb) := by
  obtain ⟨hc, hsome, -⟩ := hr
  obtain ⟨v, hv⟩ := Option.isSome_iff_exists.1 hsome
  simp [Txn.currentVersion, Txn.exec_bind, Txn.exec_read, Database.counterValue, Database.need, hc,
    hv, Database.version]

/-! ## The changes since a version -/

/-- The patches that bring a copy up to date with `d` from `since`: a put for every row a client
replicates that changed after `since`, and, after a first version, a del for every source
deleted after `since`. -/
def changes (d : Database) (user : String) (since : Int) : List Patch :=
  ((d.replicated user).filter (since < ·.version)).map (fun x => .put x.key x.value) ++
    if 0 < since then
      (d.tombstones.filter fun t => t.entity == "source" && since < t.version).map
        fun t => .del ("source/" ++ t.entityId)
    else []

/-- The clients of a group changed after `since`, with their last applied mutation. -/
def groupChanges (d : Database) (group : String) (since : Int) : List (String × Int) :=
  (d.clients.filter fun cl => cl.groupId == group && since < cl.version).map
    fun cl => (cl.id, cl.lastMutationId)

/-- Patches sorted by key that are `d`'s changes since `since` in some order, and a progress
list that is the changes of `group`'s clients in some order. -/
structure Answers (d : Database) (user group : String) (since : Int) (ps : List Patch)
    (progress : List (String × Int)) : Prop where
  sorted : ps.Pairwise fun p q => p.key ≤ q.key
  patches : ps.Perm (d.changes user since)
  progress : progress.Perm (d.groupChanges group since)

theorem mem_changes {user : String} {since : Int} {p : Patch} :
    p ∈ d.changes user since ↔
      (∃ x ∈ d.replicated user, since < x.version ∧ p = .put x.key x.value) ∨
      (0 < since ∧ ∃ t ∈ d.tombstones, t.entity = "source" ∧ since < t.version ∧
        p = .del ("source/" ++ t.entityId)) := by
  simp only [changes, List.mem_append, List.mem_map, List.mem_filter, decide_eq_true_eq]
  split
  · rename_i hpos
    simp only [List.mem_map, List.mem_filter, Bool.and_eq_true, beq_iff_eq, decide_eq_true_eq]
    constructor
    · rintro (⟨x, ⟨hx, hv⟩, rfl⟩ | ⟨t, ⟨ht, hent, hv⟩, rfl⟩)
      · exact Or.inl ⟨x, hx, hv, rfl⟩
      · exact Or.inr ⟨hpos, t, ht, hent, hv, rfl⟩
    · rintro (⟨x, hx, hv, rfl⟩ | ⟨-, t, ht, hent, hv, rfl⟩)
      · exact Or.inl ⟨x, ⟨hx, hv⟩, rfl⟩
      · exact Or.inr ⟨t, ⟨ht, hent, hv⟩, rfl⟩
  · -- before a first version no source was deleted since
    rename_i hpos
    simp only [List.not_mem_nil, or_false]
    constructor
    · rintro ⟨x, ⟨hx, hv⟩, rfl⟩
      exact Or.inl ⟨x, hx, hv, rfl⟩
    · rintro (⟨x, hx, hv, rfl⟩ | ⟨h, -⟩)
      · exact ⟨x, ⟨hx, hv⟩, rfl⟩
      · exact absurd h hpos

theorem mem_groupChanges {group : String} {since : Int} {w : String × Int} :
    w ∈ d.groupChanges group since ↔
      ∃ cl ∈ d.clients, cl.groupId = group ∧ since < cl.version ∧
        w = (cl.id, cl.lastMutationId) := by
  simp only [groupChanges, List.mem_map, List.mem_filter, Bool.and_eq_true, beq_iff_eq,
    decide_eq_true_eq]
  constructor
  · rintro ⟨cl, ⟨hcl, hg, hv⟩, rfl⟩
    exact ⟨cl, hcl, hg, hv, rfl⟩
  · rintro ⟨cl, hcl, hg, hv, rfl⟩
    exact ⟨cl, ⟨hcl, hg, hv⟩, rfl⟩

/-- Every row a client replicates carries a version between `1` and the store's. -/
theorem VersionsBounded.replicated (hb : d.VersionsBounded) {user : String} {x : Replica}
    (hx : x ∈ d.replicated user) : 1 ≤ x.version ∧ x.version ≤ d.version := by
  rw [mem_replicated] at hx
  rcases hx with ⟨e, he, rfl⟩ | ⟨i, hi, rfl⟩ | ⟨src, hsrc, rfl⟩ | ⟨p, hp, rfl⟩
  · exact hb.rows (.entry e) (by simp [he])
  · exact hb.rows (.item i) (by simp [hi])
  · exact hb.rows (.source src) (by simp [hsrc])
  · exact hb.rows (.profile p) (by simp [List.mem_of_find?_eq_some hp])

/-- Nothing changed after the store's own version. -/
theorem VersionsBounded.changes_version (hb : d.VersionsBounded) (user : String) :
    d.changes user d.version = [] := by
  simp only [changes, List.append_eq_nil_iff, List.map_eq_nil_iff, List.filter_eq_nil_iff,
    decide_eq_true_eq, not_lt]
  refine ⟨fun x hx => (hb.replicated hx).2, ?_⟩
  split
  · simp only [List.map_eq_nil_iff, List.filter_eq_nil_iff, Bool.and_eq_true, decide_eq_true_eq,
      not_and, not_lt]
    intro t ht _
    exact (hb.rows (.tombstone t) (by simp [ht])).2
  · rfl

theorem VersionsBounded.groupChanges_version (hb : d.VersionsBounded) (group : String) :
    d.groupChanges group d.version = [] := by
  simp only [groupChanges, List.map_eq_nil_iff, List.filter_eq_nil_iff, Bool.and_eq_true,
    decide_eq_true_eq, not_and, not_lt]
  intro cl hcl _
  exact (hb.clients cl hcl).2

/-- No client is outside a group. -/
theorem Sound.groupChanges_empty (hs : d.Sound) (since : Int) : d.groupChanges "" since = [] := by
  simp only [groupChanges, List.map_eq_nil_iff, List.filter_eq_nil_iff, Bool.and_eq_true,
    beq_iff_eq, not_and]
  intro cl hcl hg
  exact absurd hg (hs.groups cl hcl)

/-! ## The queries of a pull -/

/-- Patches sorted by key are in key order. -/
theorem pairwise_mergeSort_key (L : List Patch) :
    (L.mergeSort fun a b => decide (a.key ≤ b.key)).Pairwise fun p q => p.key ≤ q.key := by
  have h := @List.pairwise_mergeSort Patch (fun a b => decide (a.key ≤ b.key))
    (fun a b c hab hbc => by
      simp only [decide_eq_true_eq] at hab hbc ⊢
      exact le_trans hab hbc)
    (fun a b => by simpa using le_total a.key b.key) L
  simpa using h

/-- **The changes a pull reads**: on a store ready for a pull, the query answers the changes
since the cursor, sorted by key, and changes nothing. -/
theorem Ready.changesSince_exec {s : TxnState} (hr : s.db.Ready) (user : String) (since : Int)
    (amb : Ambient) :
    ∃ ps, (changesSince user since).exec s amb = (.ok (ps, s), amb) ∧
      ps.Pairwise (fun p q => p.key ≤ q.key) ∧ ps.Perm (s.db.changes user since) := by
  -- every branch answers the sorted patches of a list that is the changes in some order
  have hsorted : ∀ L : List Patch, L.Perm (s.db.changes user since) →
      ∃ ps, ((.ok (L.mergeSort fun a b => decide (a.key ≤ b.key), s), amb) :
        Except Failure (List Patch × TxnState) × Ambient) = (.ok (ps, s), amb) ∧
      ps.Pairwise (fun p q => p.key ≤ q.key) ∧ ps.Perm (s.db.changes user since) :=
    fun L hL => ⟨_, rfl, pairwise_mergeSort_key L, (List.mergeSort_perm _ _).trans hL⟩
  -- the rows of each table come sorted by id, the deleted sources by key
  have hE := (List.mergeSort_perm (s.db.entries.filter (since < ·.version))
    fun a b => decide (a.id ≤ b.id)).map fun e => Patch.put ("userItem/" ++ e.id) e.toJson
  have hI := (List.mergeSort_perm (s.db.items.filter (since < ·.version))
    fun a b => decide (a.id ≤ b.id)).map fun i => Patch.put ("item/" ++ i.id) i.toJson
  have hS := (List.mergeSort_perm (s.db.sources.filter (since < ·.version))
    fun a b => decide (a.id ≤ b.id)).map fun src => Patch.put ("source/" ++ src.id) src.toJson
  have hD := (((List.mergeSort_perm (s.db.tombstones.filter (since < ·.version)) fun a b =>
    decide (a.entity < b.entity) ||
      (a.entity == b.entity && decide (a.entityId ≤ b.entityId))).filter
        (·.entity == "source")).map fun t => Patch.del ("source/" ++ t.entityId))
  rw [List.filter_filter] at hD
  simp only [changesSince, Txn.exec_bind, Txn.exec_read, Database.entriesSince,
    Database.itemsSince, Database.sourcesSince, Database.profileOf, Database.tombstonesSince,
    hr.needVersion_bind (by decide : Table.entries ∈ _),
    hr.needVersion_bind (by decide : Table.items ∈ _),
    hr.needVersion_bind (by decide : Table.sources ∈ _),
    hr.needVersion_bind (by decide : Table.profile ∈ _)]
  split
  · rename_i p hfind
    split_ifs with hv h0 h0 <;>
      simp only [Txn.exec_bind, Txn.exec_read, hr.need_tombstones_bind, Txn.exec_pure] <;>
      apply hsorted <;>
      simp only [changes, replicated, List.filter_append, List.map_append, List.filter_map,
        List.map_map, Function.comp_def, List.append_assoc, hfind, sortByKey, Option.map_some,
        Option.toList_some, List.filter_cons, List.filter_nil, gt_iff_lt, hv, decide_true,
        decide_false, h0, if_true, if_false, List.map_cons, List.map_nil, List.append_nil,
        List.nil_append, List.singleton_append, Bool.false_eq_true] <;>
      refine hE.append (hI.append ?_)
    · exact hS.append (hD.cons _)
    · exact hS.append (.refl _)
    · exact hS.append hD
    · exact hS
  · rename_i hnone
    have hfind : s.db.profiles.find? (·.id == user) = none :=
      Option.eq_none_iff_forall_ne_some.2 hnone
    split_ifs with h0 <;>
      simp only [Txn.exec_bind, Txn.exec_read, hr.need_tombstones_bind, Txn.exec_pure] <;>
      apply hsorted <;>
      simp only [changes, replicated, List.filter_append, List.map_append, List.filter_map,
        List.map_map, Function.comp_def, List.append_assoc, sortByKey, h0, if_true, if_false,
        List.append_nil, hfind, Option.map_none, Option.toList_none, List.filter_nil,
        List.map_nil, List.nil_append] <;>
      refine hE.append (hI.append ?_)
    · exact hS.append hD
    · exact hS

end Store.Database

/-! ## The answer -/

/-- **A pull on a sound store answers, and changes nothing.** From a cursor at or below the
store's version the answer is the changes since the cursor; from a cursor above it, a `clear`
followed by the changes since `0`, with the reset flag set. -/
theorem Sync.pull_answers {S : Database} (hs : S.Sound) (hb : S.VersionsBounded) (user : String)
    {req : PullRequest} (hreq : 0 ≤ req.sinceVersion) (amb : Ambient) :
    ∃ r amb', (pull user req).exec S amb = ((.ok r, S), amb') ∧ r.version = S.version ∧
      r.reset = decide (S.version < req.sinceVersion) ∧
      ∃ ps, r.patches = (if S.version < req.sinceVersion then [.clear] else []) ++ ps ∧
        S.Answers user req.groupId (if S.version < req.sinceVersion then 0 else req.sinceVersion)
          ps r.clientProgress := by
  simp only [pull, Work.exec_bind, not_lt.2 hreq, if_false, Work.exec_pure, Work.exec_atomically,
    Txn.exec_bind, hs.ready.currentVersion_exec (s := ⟨S, {}⟩)]
  -- the cursor the answer starts from, and whether the client starts over
  rcases hsr :
    (if req.sinceVersion > S.version then ((0 : Int), true) else (req.sinceVersion, false)) with
    ⟨since, reset⟩
  have hsince : since = if S.version < req.sinceVersion then 0 else req.sinceVersion := by
    split at hsr <;> simp_all
  have hreset : reset = decide (S.version < req.sinceVersion) := by
    split at hsr <;> simp_all
  rw [← hsince]
  simp only [hreset, decide_eq_true_eq]
  by_cases heq : since = S.version
  · -- nothing changed after the cursor
    simp only [heq, beq_self_eq_true, if_true, Txn.exec_pure, Work.exec_ambient]
    refine ⟨_, _, rfl, rfl, rfl, [], by simp, .nil, ?_, ?_⟩
    · rw [hb.changes_version]
    · rw [hb.groupChanges_version]
  · obtain ⟨ps, hps, hsorted, hperm⟩ := hs.ready.changesSince_exec (s := ⟨S, {}⟩) user since amb
    simp only [beq_iff_eq, heq, if_false, Txn.exec_bind, hps]
    by_cases hg : req.groupId.isEmpty
    · -- a pull outside a client group reports no progress, and no client is outside a group
      have hg' : req.groupId = "" := String.isEmpty_iff.1 hg
      simp only [hg, if_true, Txn.exec_pure, Work.exec_ambient]
      refine ⟨_, _, rfl, rfl, rfl, ps, rfl, hsorted, hperm, ?_⟩
      rw [hg', hs.groupChanges_empty]
    · simp only [hg, Bool.false_eq_true, if_false, Txn.exec_bind, Txn.exec_read,
        Database.clientsSince, hs.ready.needVersion_bind (by decide : Table.clients ∈ _),
        Txn.exec_pure, Work.exec_ambient]
      refine ⟨_, _, rfl, rfl, rfl, ps, rfl, hsorted, hperm, ?_⟩
      exact (List.mergeSort_perm _ _).map _

end ReadLater
