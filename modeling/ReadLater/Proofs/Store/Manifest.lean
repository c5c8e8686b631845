import Mathlib.Data.List.Basic
import ReadLater.Store.Migration

/-!
# What the loader of migrations accepts

The loader reads the migration files in ascending order of version and checks them against the
manifest of released migrations (`checkLoaded`). Together the two checks accept exactly the lists
numbered `1, 2, …, n` whose manifest is a prefix of them, entry by entry: a released migration is
never dropped, renumbered, renamed or edited, and only new migrations may follow the released
ones.

* `validateOrder_eq_ok_iff`: the order check accepts exactly the versions `1, 2, …, n`;
* `matchEntries_eq_ok_iff`: on a list at least as long, the entry check accepts exactly a
  manifest that is a prefix of the migrations' entries;
* `verifyManifest_eq_ok_iff`: the manifest check accepts exactly such a prefix;
* **`checkLoaded_eq_ok_iff`**: the loader accepts exactly the numbered lists and a manifest that
  is no longer than the list and has, at each place, the version, name and checksum of the
  migration there.
-/

namespace ReadLater.Store

/-- The manifest entry a migration is released with. -/
def Migration.manifestEntry (m : Migration) : ManifestEntry :=
  ⟨m.version, m.name, m.checksum⟩

theorem ManifestEntry.eq_manifestEntry_iff (e : ManifestEntry) (m : Migration) :
    e = m.manifestEntry ↔ e.version = m.version ∧ e.name = m.name ∧ e.sha256 = m.checksum := by
  obtain ⟨version, name, sha⟩ := e
  simp [Migration.manifestEntry]

/-! ## The order -/

theorem validateOrder_go_eq_ok_iff (k : Nat) (ms : List Migration) :
    validateOrder.go k ms = .ok () ↔ ms.map (·.version) = List.range' k ms.length := by
  induction ms generalizing k with
  | nil => simp [validateOrder.go]
  | cons m ms ih =>
    by_cases hm : m.version = k
    · simp [validateOrder.go, hm, ih, List.range'_succ]
    · simp [validateOrder.go, hm, List.range'_succ]

theorem validateOrder_eq_ok_iff (ms : List Migration) :
    validateOrder ms = .ok () ↔ ms.map (·.version) = List.range' 1 ms.length :=
  validateOrder_go_eq_ok_iff 1 ms

-- a gap is reported at the first place it opens
example : validateOrder [⟨1, "a", "", []⟩, ⟨3, "c", "", []⟩] =
    .error "migration versions must be contiguous from 1: expected 2, got 3 (c)" := by decide

/-! ## The manifest -/

/-- One entry passes exactly when it is the migration's own entry. -/
theorem matchEntries_cons_eq_ok_iff (e : ManifestEntry) (es : List ManifestEntry) (m : Migration)
    (ms : List Migration) :
    matchEntries (e :: es) (m :: ms) = .ok () ↔
      e = m.manifestEntry ∧ matchEntries es ms = .ok () := by
  rw [ManifestEntry.eq_manifestEntry_iff]
  -- the check compares version and name first, and the checksum only after them
  by_cases hv : e.version = m.version ∧ e.name = m.name
  · obtain ⟨hver, hname⟩ := hv
    by_cases hs : e.sha256 = m.checksum <;> simp [matchEntries, hver, hname, hs]
  · have hne : (e.version != (m.version : Int) || e.name != m.name) = true := by
      rw [Bool.or_eq_true, bne_iff_ne, bne_iff_ne]
      tauto
    simp only [matchEntries, hne, ↓reduceIte, reduceCtorEq, false_iff, not_and]
    exact fun hfields _ => absurd ⟨hfields.1, hfields.2.1⟩ hv

theorem matchEntries_eq_ok_iff (mf : List ManifestEntry) (ms : List Migration)
    (h : mf.length ≤ ms.length) :
    matchEntries mf ms = .ok () ↔ mf <+: ms.map Migration.manifestEntry := by
  induction mf generalizing ms with
  | nil => simp [matchEntries]
  | cons e es ih =>
    cases ms with
    | nil => simp at h
    | cons m ms =>
      rw [matchEntries_cons_eq_ok_iff, ih ms (by simpa using h)]
      simp

theorem verifyManifest_eq_ok_iff (ms : List Migration) (mf : List ManifestEntry) :
    verifyManifest ms mf = .ok () ↔ mf <+: ms.map Migration.manifestEntry := by
  by_cases hlen : ms.length < mf.length
  · have : ¬ mf <+: ms.map Migration.manifestEntry := fun hp => by
      have := hp.length_le
      simp at this
      omega
    simp [verifyManifest, hlen, this]
  · simp only [verifyManifest, hlen, ↓reduceDIte]
    exact matchEntries_eq_ok_iff mf ms (by omega)

/-! ## Both checks -/

theorem checkLoaded_eq_ok_iff_both (ms : List Migration) (mf : List ManifestEntry) :
    checkLoaded ms mf = .ok () ↔ validateOrder ms = .ok () ∧ verifyManifest ms mf = .ok () := by
  simp only [checkLoaded]
  cases validateOrder ms <;> simp [bind, Except.bind]

/-- **The loader accepts exactly a list numbered `1, 2, …, n` with a manifest of at most `n`
entries, each of which has the version, name and checksum of the migration at its place.** -/
theorem checkLoaded_eq_ok_iff (ms : List Migration) (mf : List ManifestEntry) :
    checkLoaded ms mf = .ok () ↔
      ms.map (·.version) = List.range' 1 ms.length ∧ mf.length ≤ ms.length ∧
        ∀ i (hi : i < mf.length) (hm : i < ms.length),
          mf[i].version = ms[i].version ∧ mf[i].name = ms[i].name ∧ mf[i].sha256 = ms[i].checksum := by
  rw [checkLoaded_eq_ok_iff_both, validateOrder_eq_ok_iff, verifyManifest_eq_ok_iff,
    List.prefix_iff_getElem]
  simp only [List.length_map, List.getElem_map, ManifestEntry.eq_manifestEntry_iff]
  constructor
  · rintro ⟨hv, hle, hall⟩
    exact ⟨hv, hle, fun i hi _ => hall i hi⟩
  · rintro ⟨hv, hle, hall⟩
    exact ⟨hv, hle, fun i hi => hall i hi (by omega)⟩

end ReadLater.Store
