import Mathlib
import ReadLater.Proofs.Store.Identities
import ReadLater.Sync.Ledger

/-!
# What a client replicates

A client keeps a copy of the rows it replicates, by key: `userItem/<id>` for the user's entries,
`item/<id>` for the items, `source/<id>` for the sources and `profile` for the user's profile.
A pull answers with patches, which the client applies in order: a `put` writes its key, a `del`
removes it, a `clear` empties the copy. Beside the copy the client keeps the last applied
mutation of each client of its group, which a pull's progress list updates.

* `Sync.View`, `Patch.apply`, `Patch.applyAll`: a client's copy and how patches change it;
  `Sync.Progress`, `Progress.update`: a client's record of its group's progress;
* `foldl_update_of_mem`, `foldl_update_of_forall_ne`: values written in order under distinct
  keys leave under each key the value written there, and every other key as it was; patches
  and progress lists are such writes (`Patch.applyAll_eq_foldl_update`, `Progress.update`);
* `Database.view`, `Database.progress`: the copy and the record that are up to date with a
  store, with `Database.view_eq_of_mem` and `Database.view_eq_none`;
  `Database.Sound.keys_nodup`: in a store whose ids are apart, no two rows a client replicates
  share a key.
-/

namespace ReadLater

open Store

/-! ## Writes under distinct keys -/

section Updates

variable {κ β : Type} [DecidableEq κ] {ws : List (κ × β)}

/-- Writes none of which is under a key leave it as it was. -/
theorem foldl_update_of_forall_ne {k : κ} (hws : ∀ w ∈ ws, w.1 ≠ k) (m : κ → β) :
    ws.foldl (fun m w => Function.update m w.1 w.2) m k = m k := by
  induction ws generalizing m with
  | nil => rfl
  | cons w ws ih =>
    rw [List.foldl_cons, ih (fun w' hw' => hws w' (List.mem_cons_of_mem _ hw'))]
    exact Function.update_of_ne (hws w List.mem_cons_self).symm _ _

/-- **Among writes under distinct keys, the one under a key decides it.** -/
theorem foldl_update_of_mem (hkeys : (ws.map (·.1)).Nodup) {w : κ × β} (hw : w ∈ ws) (m : κ → β) :
    ws.foldl (fun m w => Function.update m w.1 w.2) m w.1 = w.2 := by
  induction ws generalizing m with
  | nil => cases hw
  | cons w' ws ih =>
    rw [List.map_cons, List.nodup_cons] at hkeys
    rw [List.foldl_cons]
    rcases List.mem_cons.1 hw with rfl | hw
    · -- the write under the key comes first, and no later one is under it
      have hlater : ∀ u ∈ ws, u.1 ≠ w.1 := fun u hu h => hkeys.1 (h ▸ List.mem_map_of_mem hu)
      rw [foldl_update_of_forall_ne hlater]
      exact Function.update_self _ _ _
    · exact ih hkeys.2 hw _

end Updates

namespace Sync

/-- A client's copy of what it replicates: the value under each key, if any. -/
abbrev View : Type := String → Option Json

namespace Patch

/-- A patch applied to a client's copy. -/
def apply (c : View) : Patch → View
  | .put k v => Function.update c k (some v)
  | .del k => Function.update c k none
  | .clear => fun _ => none

/-- Patches applied in order. -/
def applyAll (c : View) (ps : List Patch) : View :=
  ps.foldl apply c

/-- What a patch leaves under its key. -/
def value? : Patch → Option Json
  | .put _ v => some v
  | .del _ | .clear => none

@[simp] theorem applyAll_nil (c : View) : applyAll c [] = c := rfl

@[simp] theorem applyAll_cons (c : View) (p : Patch) (ps : List Patch) :
    applyAll c (p :: ps) = applyAll (apply c p) ps := rfl

/-- A `clear` first: the rest applies to an empty copy, whatever the copy held. -/
theorem applyAll_clear (c : View) (ps : List Patch) :
    applyAll c (.clear :: ps) = applyAll (fun _ => none) ps := rfl

/-- A patch other than `clear` writes its value under its key. -/
theorem apply_eq_update {p : Patch} (hp : p ≠ .clear) (c : View) :
    apply c p = Function.update c p.key p.value? := by
  cases p with
  | put k v => rfl
  | del k => rfl
  | clear => exact absurd rfl hp

variable {ps : List Patch}

/-- Patches without a `clear` are writes of their values under their keys. -/
theorem applyAll_eq_foldl_update (hclear : ∀ q ∈ ps, q ≠ .clear) (c : View) :
    applyAll c ps =
      (ps.map fun p => (p.key, p.value?)).foldl (fun m w => Function.update m w.1 w.2) c := by
  induction ps generalizing c with
  | nil => rfl
  | cons p ps ih =>
    rw [applyAll_cons, apply_eq_update (hclear p List.mem_cons_self),
      ih (fun q hq => hclear q (List.mem_cons_of_mem _ hq))]
    rfl

/-- Patches none of which is about a key leave it as it was. -/
theorem applyAll_of_forall_ne {k : String} (hps : ∀ p ∈ ps, p ≠ .clear ∧ p.key ≠ k) (c : View) :
    applyAll c ps k = c k := by
  rw [applyAll_eq_foldl_update (fun q hq => (hps q hq).1)]
  refine foldl_update_of_forall_ne ?_ c
  simp only [List.mem_map]
  rintro _ ⟨p, hp, rfl⟩
  exact (hps p hp).2

/-- **Among patches under distinct keys, the one about a key decides it.** -/
theorem applyAll_of_mem (hclear : ∀ q ∈ ps, q ≠ .clear) (hkeys : (ps.map key).Nodup) {p : Patch}
    (hp : p ∈ ps) (c : View) : applyAll c ps p.key = p.value? := by
  rw [applyAll_eq_foldl_update hclear]
  refine foldl_update_of_mem ?_ (List.mem_map_of_mem hp) c
  simpa [List.map_map, Function.comp_def] using hkeys

end Patch

/-- A client's record of the last applied mutation of each client of its group. -/
abbrev Progress : Type := String → Option Int

/-- The record updated with a pull's list of changed clients and their last applied mutation. -/
def Progress.update (m : Progress) (changes : List (String × Int)) : Progress :=
  changes.foldl (fun m w => Function.update m w.1 (some w.2)) m

/-- An update is a write of each client's last applied mutation under its id. -/
theorem Progress.update_eq_foldl_update (m : Progress) (changes : List (String × Int)) :
    m.update changes =
      (changes.map fun w => (w.1, some w.2)).foldl (fun m w => Function.update m w.1 w.2) m := by
  rw [update, List.foldl_map]

/-- A row a client replicates: its key, its value and the version it carries. -/
structure Replica where
  key : String
  value : Json
  version : Int

end Sync

namespace Store.Database

open Sync

/-- The rows a client replicates: the user's entries, the items, the sources and the user's
profile. -/
def replicated (d : Database) (user : String) : List Replica :=
  d.entries.map (fun e => ⟨"userItem/" ++ e.id, e.toJson, e.version⟩) ++
    d.items.map (fun i => ⟨"item/" ++ i.id, i.toJson, i.version⟩) ++
    d.sources.map (fun s => ⟨"source/" ++ s.id, s.toJson, s.version⟩) ++
    ((d.profiles.find? (·.id == user)).map fun p => ⟨"profile", p.toJson, p.version⟩).toList

/-- The copy of a client that is up to date with the store. -/
def view (d : Database) (user : String) : View :=
  fun k => ((d.replicated user).find? (·.key == k)).map (·.value)

/-- The last applied mutation of each client of a group, as the store records it. -/
def progress (d : Database) (group : String) : Progress :=
  fun c => (d.clients.find? fun cl => cl.id == c && cl.groupId == group).map (·.lastMutationId)

variable {d : Database} {user : String}

theorem mem_replicated {x : Replica} :
    x ∈ d.replicated user ↔ (∃ e ∈ d.entries, x = ⟨"userItem/" ++ e.id, e.toJson, e.version⟩) ∨
      (∃ i ∈ d.items, x = ⟨"item/" ++ i.id, i.toJson, i.version⟩) ∨
      (∃ s ∈ d.sources, x = ⟨"source/" ++ s.id, s.toJson, s.version⟩) ∨
      ∃ p, d.profiles.find? (·.id == user) = some p ∧ x = ⟨"profile", p.toJson, p.version⟩ := by
  simp only [replicated, List.mem_append, List.mem_map, Option.mem_toList, Option.map_eq_some_iff,
    or_assoc]
  constructor
  · rintro (⟨e, he, rfl⟩ | ⟨i, hi, rfl⟩ | ⟨s, hs, rfl⟩ | ⟨p, hp, rfl⟩)
    · exact Or.inl ⟨e, he, rfl⟩
    · exact Or.inr (Or.inl ⟨i, hi, rfl⟩)
    · exact Or.inr (Or.inr (Or.inl ⟨s, hs, rfl⟩))
    · exact Or.inr (Or.inr (Or.inr ⟨p, hp, rfl⟩))
  · rintro (⟨e, he, rfl⟩ | ⟨i, hi, rfl⟩ | ⟨s, hs, rfl⟩ | ⟨p, hp, rfl⟩)
    · exact Or.inl ⟨e, he, rfl⟩
    · exact Or.inr (Or.inl ⟨i, hi, rfl⟩)
    · exact Or.inr (Or.inr (Or.inl ⟨s, hs, rfl⟩))
    · exact Or.inr (Or.inr (Or.inr ⟨p, hp, rfl⟩))

/-- Under a key that one row has, the copy holds that row. -/
theorem view_eq_of_mem (h : ((d.replicated user).map (·.key)).Nodup) {x : Replica}
    (hx : x ∈ d.replicated user) : d.view user x.key = some x.value := by
  simp only [view, find?_key_of_nodup h hx, Option.map_some]

/-- Under a key that no row has, the copy holds nothing. -/
theorem view_eq_none {k : String} (h : ∀ x ∈ d.replicated user, x.key ≠ k) :
    d.view user k = none := by
  simp only [view, Option.map_eq_none_iff, List.find?_eq_none, beq_iff_eq]
  exact h

/-! ## Keys apart -/

theorem userItem_ne_item (a b : String) : "userItem/" ++ a ≠ "item/" ++ b := by
  intro h
  simpa using congrArg String.toList h

theorem userItem_ne_source (a b : String) : "userItem/" ++ a ≠ "source/" ++ b := by
  intro h
  simpa using congrArg String.toList h

theorem item_ne_source (a b : String) : "item/" ++ a ≠ "source/" ++ b := by
  intro h
  simpa using congrArg String.toList h

theorem userItem_ne_profile (a : String) : "userItem/" ++ a ≠ "profile" := by
  intro h
  simpa using congrArg String.toList h

theorem item_ne_profile (a : String) : "item/" ++ a ≠ "profile" := by
  intro h
  simpa using congrArg String.toList h

theorem source_ne_profile (a : String) : "source/" ++ a ≠ "profile" := by
  intro h
  simpa using congrArg String.toList h

/-- Ids apart under one prefix make keys apart. -/
theorem nodup_map_prefix {α : Type} (pre : String) {id : α → String} {rows : List α}
    (h : (rows.map id).Nodup) : (rows.map fun r => pre ++ id r).Nodup := by
  have hinj : Function.Injective (pre ++ ·) := fun a b hab => (String.append_right_inj pre).1 hab
  simpa [List.map_map, Function.comp_def] using h.map hinj

/-- **In a store whose ids are apart, no two rows a client replicates share a key.** -/
theorem Sound.keys_nodup (hs : d.Sound) (user : String) :
    ((d.replicated user).map (·.key)).Nodup := by
  simp only [replicated, List.map_append, List.map_map, Function.comp_def]
  refine List.nodup_append.2
    ⟨List.nodup_append.2 ⟨List.nodup_append.2 ⟨?_, ?_, ?_⟩, ?_, ?_⟩, ?_, ?_⟩
  · exact nodup_map_prefix "userItem/" hs.entries
  · exact nodup_map_prefix "item/" hs.items
  · simp only [List.mem_map]
    rintro _ ⟨e, -, rfl⟩ _ ⟨i, -, rfl⟩
    exact userItem_ne_item e.id i.id
  · exact nodup_map_prefix "source/" hs.sources
  · simp only [List.mem_append, List.mem_map]
    rintro _ (⟨e, -, rfl⟩ | ⟨i, -, rfl⟩) _ ⟨s, -, rfl⟩
    · exact userItem_ne_source e.id s.id
    · exact item_ne_source i.id s.id
  · cases (d.profiles.find? (·.id == user)) <;> simp
  · simp only [List.mem_append, List.mem_map, Option.mem_toList, Option.map_eq_some_iff]
    rintro _ ((⟨e, -, rfl⟩ | ⟨i, -, rfl⟩) | ⟨s, -, rfl⟩) _ ⟨_, ⟨p, -, rfl⟩, rfl⟩
    · exact userItem_ne_profile e.id
    · exact item_ne_profile i.id
    · exact source_ne_profile s.id

end Store.Database

end ReadLater
