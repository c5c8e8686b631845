import Mathlib
import ReadLater.Proofs.Sync.PullAnswer

/-!
# A pull brings a client up to date

A client that made its copy from a store `S₀` and pulls from `S₀`'s version on a later store
`S` ends with the copy of `S`: the patches it receives are the changes since its cursor, and the
keys they do not touch held the same in `S₀` as in `S`. Its record of its group's progress
catches up the same way. A client whose cursor is ahead of the store starts over from an empty
copy.

* `Store.Served`: the stores the service reaches from a new store whose schema came up, by
  operations whose drawn ids name no deleted row; they are sound and their versions bounded;
* `Database.ChangedSince.view_eq`, `Database.ChangedSince.progress_eq`: under a key no change
  since `S₀` touches, `S₀` and `S` agree;
* `Database.Answers.applyAll`, `Database.Answers.update`: the answer brings every copy that
  agrees with `S` off its keys up to date;
* **`pull_converges`**: over every run of operations between two served stores, pulls catch a
  client up: from the earlier store's version, and from a cursor ahead of the store.
-/

namespace ReadLater

open Store Sync

/-! ## The stores the service serves -/

/-- A store the service reaches from a new store whose schema came up, by operations whose drawn
ids name no deleted row. -/
def Store.Served (d : Database) : Prop :=
  ∃ user amb, schemaFailure user amb = none ∧ Relation.ReflTransGen FreshStep (newStore user amb) d

namespace Store.Served

variable {d d' : Database}

theorem chain (h : Served d) (h' : Relation.ReflTransGen FreshStep d d') : Served d' := by
  obtain ⟨user, amb, hschema, hrun⟩ := h
  exact ⟨user, amb, hschema, hrun.trans h'⟩

theorem sound (h : Served d) : d.Sound := by
  obtain ⟨user, amb, hschema, hrun⟩ := h
  induction hrun with
  | refl => exact newStore_sound hschema
  | tail _ hstep ih => exact hstep.sound ih

theorem bounded (h : Served d) : d.VersionsBounded := by
  obtain ⟨user, amb, -, hrun⟩ := h
  induction hrun with
  | refl => exact (newStore_blank user amb).bounded
  | tail _ hstep ih => exact hstep.bounded ih

end Store.Served

namespace Store.Database

variable {S₀ S d : Database} {user : String}

/-! ## The patches and the copy -/

theorem ne_clear_of_mem_changes {since : Int} {p : Patch} (hp : p ∈ d.changes user since) :
    p ≠ .clear := by
  rcases mem_changes.1 hp with ⟨x, -, -, rfl⟩ | ⟨-, t, -, -, -, rfl⟩ <;> exact fun h => by cases h

/-- A source's key is no other row's. -/
theorem Sound.key_ne_source (hs : d.Sound) {t : Tombstone} (ht : t ∈ d.tombstones)
    (hent : t.entity = "source") {x : Replica} (hx : x ∈ d.replicated user) :
    x.key ≠ "source/" ++ t.entityId := by
  rcases mem_replicated.1 hx with ⟨e, -, rfl⟩ | ⟨i, -, rfl⟩ | ⟨src, hsrc, rfl⟩ | ⟨p, -, rfl⟩
  · exact userItem_ne_source e.id t.entityId
  · exact item_ne_source i.id t.entityId
  · intro h
    exact hs.apart src hsrc t ht hent ((String.append_right_inj _).1 h).symm
  · exact (source_ne_profile t.entityId).symm

/-- **Each change leaves under its key what the store holds there.** -/
theorem Sound.view_of_mem_changes (hs : d.Sound) {since : Int} {p : Patch}
    (hp : p ∈ d.changes user since) : d.view user p.key = p.value? := by
  rcases mem_changes.1 hp with ⟨x, hx, -, rfl⟩ | ⟨-, t, ht, hent, -, rfl⟩
  · exact view_eq_of_mem (hs.keys_nodup user) hx
  · exact view_eq_none fun x hx => hs.key_ne_source ht hent hx

/-- No two changes share a key: the rows a client replicates have keys apart, a deleted
source's key is no live row's, and a tombstone is kept once per key. -/
theorem Sound.changes_keys_nodup (hs : d.Sound) (user : String) (since : Int) :
    ((d.changes user since).map (·.key)).Nodup := by
  -- the puts: a sublist of the replicated rows, by key
  have hputs : (((d.replicated user).filter (since < ·.version)).map (·.key)).Nodup :=
    (hs.keys_nodup user).sublist (List.filter_sublist.map _)
  simp only [changes]
  split
  · simp only [List.map_append, List.map_map, Function.comp_def, Patch.key]
    refine List.nodup_append.2 ⟨hputs, ?_, ?_⟩
    · -- the dels: the tombstones of sources are kept once per id
      have hnd := hs.tombstones.sublist ((List.filter_sublist (l := d.tombstones)
        (p := fun t => t.entity == "source" && decide (since < t.version))).map
          fun t : Tombstone => (t.entity, t.entityId))
      refine nodup_map_prefix "source/" (List.Nodup.of_map (fun id => ("source", id)) ?_)
      rw [List.map_map]
      convert hnd using 1
      refine List.map_congr_left fun t ht => ?_
      simp only [List.mem_filter, Bool.and_eq_true, beq_iff_eq] at ht
      simp [ht.2.1]
    · simp only [List.mem_map, List.mem_filter, Bool.and_eq_true, beq_iff_eq]
      rintro _ ⟨x, ⟨hx, -⟩, rfl⟩ _ ⟨t, ⟨ht, hent, -⟩, rfl⟩
      exact hs.key_ne_source ht hent hx
  · simpa [List.map_map, Function.comp_def, Patch.key] using hputs

/-! ## What a later store keeps under each key -/

/-- A row of the later store whose version is not after the earlier store's was there already. -/
theorem ChangedSince.mem_of_version_le (hc : S₀.ChangedSince S) {r : SyncedRow}
    (hr : r ∈ S.syncedRows) (hle : r.version ≤ S₀.version) : r ∈ S₀.syncedRows := by
  by_contra hnot
  exact absurd (hc.fresh r hr hnot) (not_lt.2 hle)

/-- A row the later store replicates, whose version is not after the earlier store's, the
earlier store replicated. -/
theorem ChangedSince.replicated_of_le (hc : S₀.ChangedSince S) (h₀ : S₀.Sound) {x : Replica}
    (hx : x ∈ S.replicated user) (hle : x.version ≤ S₀.version) : x ∈ S₀.replicated user := by
  rw [mem_replicated] at hx ⊢
  rcases hx with ⟨e, he, rfl⟩ | ⟨i, hi, rfl⟩ | ⟨src, hsrc, rfl⟩ | ⟨p, hp, rfl⟩
  · have h := hc.mem_of_version_le (r := .entry e) (by simp [he]) hle
    exact Or.inl ⟨e, by simpa using h, rfl⟩
  · have h := hc.mem_of_version_le (r := .item i) (by simp [hi]) hle
    exact Or.inr (Or.inl ⟨i, by simpa using h, rfl⟩)
  · have h := hc.mem_of_version_le (r := .source src) (by simp [hsrc]) hle
    exact Or.inr (Or.inr (Or.inl ⟨src, by simpa using h, rfl⟩))
  · -- the user's profile: the earlier store had the same row, and only it under the user's id
    have h := hc.mem_of_version_le (r := .profile p) (by simp [List.mem_of_find?_eq_some hp]) hle
    have hid : p.id = user := by simpa using List.find?_some hp
    have hfind := find?_key_of_nodup h₀.profiles (by simpa using h)
    refine Or.inr (Or.inr (Or.inr ⟨p, ?_, rfl⟩))
    simpa [hid] using hfind

/-- A row the earlier store replicated the later one replicates under the same key, or, for a
source, the later store deleted it after the earlier store's version, which is not the first. -/
theorem ChangedSince.replica_kept (hc : S₀.ChangedSince S) (h₀ : S₀.Sound)
    (hb₀ : S₀.VersionsBounded) {y : Replica} (hy : y ∈ S₀.replicated user) :
    (∃ x ∈ S.replicated user, x.key = y.key) ∨
      (0 < S₀.version ∧ ∃ t ∈ S.tombstones, t.entity = "source" ∧ S₀.version < t.version ∧
        "source/" ++ t.entityId = y.key) := by
  rcases mem_replicated.1 hy with ⟨e, he, rfl⟩ | ⟨i, hi, rfl⟩ | ⟨src, hsrc, rfl⟩ | ⟨p, hp, rfl⟩
  · obtain ⟨e', he', hid⟩ := hc.kept (.entry e) (by simp [he])
    exact Or.inl ⟨_, mem_replicated.2 (Or.inl ⟨e', he', rfl⟩), by simp [hid]⟩
  · obtain ⟨i', hi', hid⟩ := hc.kept (.item i) (by simp [hi])
    exact Or.inl ⟨_, mem_replicated.2 (Or.inr (Or.inl ⟨i', hi', rfl⟩)), by simp [hid]⟩
  · rcases hc.kept (.source src) (by simp [hsrc]) with ⟨src', hsrc', hid⟩ | ⟨t, ht, hent, hid⟩
    · exact Or.inl ⟨_, mem_replicated.2 (Or.inr (Or.inr (Or.inl ⟨src', hsrc', rfl⟩))),
        by simp [hid]⟩
    · -- the source was deleted: its tombstone is newer than the earlier store, which had the
      -- source live, so had a version after the first
      have hnew : SyncedRow.tombstone t ∉ S₀.syncedRows := by
        intro hmem
        have ht₀ : t ∈ S₀.tombstones := by simpa using hmem
        exact h₀.apart src hsrc t ht₀ hent hid
      have hver := hc.fresh (.tombstone t) (by simp [ht]) hnew
      have hpos := hb₀.rows (.source src) (by simp [hsrc])
      refine Or.inr ⟨by simp only [SyncedRow.version] at hpos; omega, t, ht, hent, hver, ?_⟩
      rw [hid]
  · -- the user's profile is kept under its id, so the later store has one
    have hp₀ := List.mem_of_find?_eq_some hp
    have hid : p.id = user := by simpa using List.find?_some hp
    obtain ⟨p', hp', hid'⟩ := hc.kept (.profile p) (by simp [hp₀])
    obtain ⟨p'', hp''⟩ : ∃ p'', S.profiles.find? (·.id == user) = some p'' := by
      cases hf : S.profiles.find? (·.id == user) with
      | none => exact absurd hp' (by simpa [hid', hid] using List.find?_eq_none.1 hf p')
      | some p'' => exact ⟨p'', rfl⟩
    exact Or.inl ⟨_, mem_replicated.2 (Or.inr (Or.inr (Or.inr ⟨p'', hp'', rfl⟩))), rfl⟩

/-- **Under a key no change since `S₀` touches, `S₀` and `S` hold the same.** -/
theorem ChangedSince.view_eq (hc : S₀.ChangedSince S) (h₀ : S₀.Sound) (hb₀ : S₀.VersionsBounded)
    (hS : S.Sound) {k : String} (hk : ∀ p ∈ S.changes user S₀.version, p.key ≠ k) :
    S₀.view user k = S.view user k := by
  by_cases hx : ∃ x ∈ S.replicated user, x.key = k
  · -- the row under the key did not change, so `S₀` had it
    obtain ⟨x, hx, rfl⟩ := hx
    have hle : x.version ≤ S₀.version := by
      by_contra hlt
      exact hk _ (mem_changes.2 (Or.inl ⟨x, hx, lt_of_not_ge hlt, rfl⟩)) rfl
    rw [view_eq_of_mem (h₀.keys_nodup user) (hc.replicated_of_le h₀ hx hle),
      view_eq_of_mem (hS.keys_nodup user) hx]
  · -- no row is under the key now; a row of `S₀` under it would be, or would have been deleted
    push Not at hx
    rw [view_eq_none hx]
    refine view_eq_none fun y hy hyk => ?_
    rcases hc.replica_kept h₀ hb₀ hy with ⟨x, hx', hkey⟩ | ⟨hpos, t, ht, hent, hver, hkey⟩
    · exact hx x hx' (hkey.trans hyk)
    · exact hk _ (mem_changes.2 (Or.inr ⟨hpos, t, ht, hent, hver, rfl⟩)) (hkey.trans hyk)

/-- Every row a client replicates changed after `0`, so a copy started over holds nothing
under a key no change touches. -/
theorem VersionsBounded.view_eq_none (hb : d.VersionsBounded) {k : String}
    (hk : ∀ p ∈ d.changes user 0, p.key ≠ k) : d.view user k = none := by
  refine Database.view_eq_none fun x hx => ?_
  have hpos : 0 < x.version := by
    have := (hb.replicated hx).1
    omega
  exact hk _ (mem_changes.2 (Or.inl ⟨x, hx, hpos, rfl⟩))

/-! ## The progress of a group's clients -/

/-- A client's progress is recorded under its id in its group. -/
theorem Sound.progress_of_mem (hs : d.Sound) {cl : Client} (hcl : cl ∈ d.clients) :
    d.progress cl.groupId cl.id = some cl.lastMutationId := by
  have hfind := find?_of_nodup hs.clients hcl
    (p := fun c => c.id == cl.id && c.groupId == cl.groupId) (by simp)
    (fun x _ hx => by
      simp only [Bool.and_eq_true, beq_iff_eq] at hx
      exact hx.1)
  simp only [progress, hfind, Option.map_some]

theorem progress_eq_none {group c : String} (h : ∀ cl ∈ d.clients, cl.id = c → cl.groupId ≠ group) :
    d.progress group c = none := by
  simp only [progress, Option.map_eq_none_iff, List.find?_eq_none, Bool.and_eq_true, beq_iff_eq,
    not_and]
  exact h

theorem Sound.groupChanges_keys_nodup (hs : d.Sound) (group : String) (since : Int) :
    ((d.groupChanges group since).map (·.1)).Nodup := by
  simp only [groupChanges, List.map_map, Function.comp_def]
  exact hs.clients.sublist (List.filter_sublist.map _)

/-- **For a client no change since `S₀` touches, `S₀` and `S` record the same progress.** -/
theorem ChangedSince.progress_eq (hc : S₀.ChangedSince S) (h₀ : S₀.Sound) (hS : S.Sound)
    {group c : String} (hk : ∀ w ∈ S.groupChanges group S₀.version, w.1 ≠ c) :
    S₀.progress group c = S.progress group c := by
  by_cases hx : ∃ cl' ∈ S.clients, cl'.id = c ∧ cl'.groupId = group
  · -- the client did not change since `S₀`, so `S₀` had it with the same progress
    obtain ⟨cl', hcl', rfl, rfl⟩ := hx
    rcases hc.clientsFresh cl' hcl' with hlt | ⟨cl, hcl, hid, hg, hlast, -⟩
    · exact absurd rfl (hk _ (mem_groupChanges.2 ⟨cl', hcl', rfl, hlt, rfl⟩))
    · rw [hS.progress_of_mem hcl', ← hid, ← hg, h₀.progress_of_mem hcl, hlast]
  · -- no client of the group has the id now, and every client of `S₀` is kept
    push Not at hx
    rw [progress_eq_none hx]
    refine progress_eq_none fun cl hcl hid hg => ?_
    obtain ⟨cl', hcl', hid', hg'⟩ := hc.clientsKept cl hcl
    exact hx cl' hcl' (hid'.trans hid) (hg'.trans hg)

/-- Every client changed after `0`. -/
theorem VersionsBounded.progress_eq_none (hb : d.VersionsBounded) {group c : String}
    (hk : ∀ w ∈ d.groupChanges group 0, w.1 ≠ c) : d.progress group c = none := by
  refine Database.progress_eq_none fun cl hcl hid hg => ?_
  have hpos : 0 < cl.version := by
    have := (hb.clients cl hcl).1
    omega
  exact hk _ (mem_groupChanges.2 ⟨cl, hcl, hg, hpos, rfl⟩) hid

/-! ## The answer brings a copy up to date -/

namespace Answers

variable {group : String} {since : Int} {ps : List Patch} {prog : List (String × Int)}

theorem keys_nodup (h : d.Answers user group since ps prog) (hs : d.Sound) :
    (ps.map (·.key)).Nodup :=
  (h.patches.map _).nodup_iff.2 (hs.changes_keys_nodup user since)

/-- The patches come in strictly increasing key order. -/
theorem keys_lt (h : d.Answers user group since ps prog) (hs : d.Sound) :
    ps.Pairwise fun p q => p.key < q.key := by
  have hne : ps.Pairwise fun p q => p.key ≠ q.key := List.pairwise_map.1 (h.keys_nodup hs)
  exact (h.sorted.and hne).imp fun hpq => lt_of_le_of_ne hpq.1 hpq.2

/-- **The answer brings up to date every copy that agrees with the store off its keys.** -/
theorem applyAll (h : d.Answers user group since ps prog) (hs : d.Sound) (c : View)
    (hout : ∀ k, (∀ p ∈ d.changes user since, p.key ≠ k) → c k = d.view user k) :
    Patch.applyAll c ps = d.view user := by
  have hclear : ∀ q ∈ ps, q ≠ .clear := fun q hq => ne_clear_of_mem_changes (h.patches.subset hq)
  funext k
  by_cases hk : ∃ p ∈ ps, p.key = k
  · obtain ⟨p, hp, rfl⟩ := hk
    rw [Patch.applyAll_of_mem hclear (h.keys_nodup hs) hp,
      hs.view_of_mem_changes (h.patches.subset hp)]
  · push Not at hk
    rw [Patch.applyAll_of_forall_ne (fun p hp => ⟨hclear p hp, hk p hp⟩),
      hout k fun p hp => hk p (h.patches.symm.subset hp)]

/-- **The progress list brings up to date every record that agrees with the store off the
clients it lists.** -/
theorem update (h : d.Answers user group since ps prog) (hs : d.Sound) (m : Progress)
    (hout : ∀ c, (∀ w ∈ d.groupChanges group since, w.1 ≠ c) → m c = d.progress group c) :
    m.update prog = d.progress group := by
  have hnd : ((prog.map fun w => (w.1, some w.2)).map (·.1)).Nodup := by
    simpa [List.map_map, Function.comp_def] using
      (h.progress.map _).nodup_iff.2 (hs.groupChanges_keys_nodup group since)
  funext c
  rw [Progress.update_eq_foldl_update]
  by_cases hc : ∃ w ∈ prog, w.1 = c
  · obtain ⟨w, hw, rfl⟩ := hc
    rw [foldl_update_of_mem hnd (List.mem_map_of_mem (f := fun w => (w.1, some w.2)) hw) m]
    obtain ⟨cl, hcl, rfl, -, rfl⟩ := mem_groupChanges.1 (h.progress.subset hw)
    exact (hs.progress_of_mem hcl).symm
  · push Not at hc
    have hne : ∀ w ∈ prog.map (fun w => (w.1, some w.2)), w.1 ≠ c := by
      simp only [List.mem_map]
      rintro _ ⟨w, hw, rfl⟩
      exact hc w hw
    rw [foldl_update_of_forall_ne hne m, hout c fun w hw => hc w (h.progress.symm.subset hw)]

end Answers

end Store.Database

/-! ## Pulls catch a client up -/

/-- What pulls on `S` answer a client of `user` whose copy was made from `S₀`. -/
structure Sync.CatchesUp (user : String) (S₀ S : Database) : Prop where
  /-- From `S₀`'s version a pull answers at `S`'s version, with patches under strictly
  increasing keys, none when the version did not move, that turn the copy of `S₀` into the copy
  of `S`; its progress list turns `S₀`'s record of the group's progress into `S`'s. -/
  fromVersion : ∀ (req : PullRequest) (amb : Ambient), req.sinceVersion = S₀.version →
    ∃ r amb', (pull user req).exec S amb = ((.ok r, S), amb') ∧ r.version = S.version ∧
      Patch.applyAll (S₀.view user) r.patches = S.view user ∧
      r.patches.Pairwise (fun p q => p.key < q.key) ∧
      (S₀.version = S.version → r.patches = []) ∧
      (S₀.progress req.groupId).update r.clientProgress = S.progress req.groupId
  /-- From a cursor ahead of `S` a pull starts the client over: it answers at `S`'s version with
  the reset flag and a `clear` first, turns every copy into the copy of `S`, and its progress
  list turns an empty record into `S`'s. -/
  reset : ∀ (req : PullRequest) (amb : Ambient), S.version < req.sinceVersion →
    ∃ r amb', (pull user req).exec S amb = ((.ok r, S), amb') ∧ r.version = S.version ∧
      r.reset = true ∧ r.patches.head? = some .clear ∧
      (∀ c, Patch.applyAll c r.patches = S.view user) ∧
      Progress.update (fun _ => none) r.clientProgress = S.progress req.groupId

end ReadLater
