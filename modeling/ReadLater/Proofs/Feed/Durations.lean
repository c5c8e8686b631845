import Mathlib
import ReadLater.Feed.Convert

/-!
# iTunes durations

A post's iTunes duration is read as colon-separated whole numbers, each worth sixty times the
next (`90`, `01:30`, `1:00:00`), and the total is kept in 64 signed bits as it is summed. This
module says what that total is.

* `Feed.sexagesimal`: the value of the parts, the last counting once;
* `Feed.foldlM_parts_eq_some`: summing the parts succeeds exactly when each is a number that is
  not negative, and gives their value from the starting total, wrapped into 64 bits;
* **`Feed.itunes_duration_wraps`**: a duration is read exactly when the trimmed text is not empty
  and every part is a number that is not negative, and it is then the value of the parts wrapped
  into 64 bits, which is the value itself exactly when that is below `2 ^ 63`; every duration of
  a converted post is such a wrapped value.

So a duration is negative only when its value reaches `2 ^ 63`
(`Feed.long_duration_wraps_negative`).
-/

namespace ReadLater.Feed

/-- The value of sexagesimal parts: the last part counts once, and each part sixty times the
part after it. -/
def sexagesimal : List Int → Int
  | [] => 0
  | n :: ns => n * 60 ^ ns.length + sexagesimal ns

/-- The colon-separated parts of a trimmed duration text. -/
def itunesParts (raw : String) : List String :=
  ((Text.trim raw).toList.splitOn ':').map String.ofList

theorem sexagesimal_nonneg {ns : List Int} (h : ∀ n ∈ ns, 0 ≤ n) : 0 ≤ sexagesimal ns := by
  induction ns with
  | nil => exact le_rfl
  | cons n ns ih =>
    rw [List.forall_mem_cons] at h
    have hn := h.1
    have hs := ih h.2
    simp only [sexagesimal]
    positivity

/-! ## Sums kept in 64 bits -/

theorem wrap64_add_mul (z k : Int) : wrap64 (z + 18446744073709551616 * k) = wrap64 z := by
  unfold wrap64
  rw [show z + 18446744073709551616 * k + 9223372036854775808 =
    z + 9223372036854775808 + 18446744073709551616 * k by ring, Int.add_mul_emod_self_left]

/-- Wrapping a total before it is scaled and added to changes nothing once the result wraps. -/
theorem wrap64_mul_add (x m y : Int) : wrap64 (wrap64 x * m + y) = wrap64 (x * m + y) := by
  -- the wrapped total differs from the total by a multiple of `2 ^ 64`
  obtain ⟨q, hq⟩ : ∃ q, wrap64 x = x + 18446744073709551616 * q :=
    ⟨-((x + 9223372036854775808) / 18446744073709551616), by unfold wrap64; omega⟩
  rw [hq, show (x + 18446744073709551616 * q) * m + y =
    x * m + y + 18446744073709551616 * (q * m) by ring, wrap64_add_mul]

theorem wrap64_wrap64 (x : Int) : wrap64 (wrap64 x) = wrap64 x := by
  unfold wrap64
  omega

theorem wrap64_eq_self_iff {x : Int} (h : 0 ≤ x) : wrap64 x = x ↔ x < 2 ^ 63 := by
  unfold wrap64
  constructor <;> intro h' <;> norm_num at * <;> omega

/-! ## Reading a duration -/

/-- The fold of the parts, from a total kept in 64 bits. -/
theorem foldlM_parts_eq_some {parts : List String} {t d : Int} (ht : wrap64 t = t) :
    parts.foldlM (fun total part => (Environment.decimal? part).bind fun n =>
      if n < 0 then none else some (wrap64 (total * 60 + n))) t = some d ↔
      ∃ ns : List Int,
        List.Forall₂ (fun part n => Environment.decimal? part = some n) parts ns ∧
          (∀ n ∈ ns, 0 ≤ n) ∧ d = wrap64 (t * 60 ^ ns.length + sexagesimal ns) := by
  induction parts generalizing t with
  | nil =>
    simp only [List.foldlM_nil, Option.pure_def, Option.some.injEq, List.forall₂_nil_left_iff,
      exists_eq_left]
    simp [sexagesimal, ht, eq_comm]
  | cons part rest ih =>
    simp only [List.foldlM_cons, Option.bind_eq_bind, List.forall₂_cons_left_iff]
    rcases hp : Environment.decimal? part with _ | n
    · -- a part that is no number stops the fold
      simp
    by_cases hn : n < 0
    · -- a negative part stops the fold
      simp only [Option.bind_some, hn, ↓reduceIte, Option.bind_none, reduceCtorEq, false_iff,
        not_exists, not_and]
      rintro _ ⟨m, ns, hm, -, rfl⟩ hnn -
      cases hm
      have := hnn n (by simp)
      omega
    · -- a part that is a number goes on from the new total, kept in 64 bits
      simp only [Option.bind_some, hn, ↓reduceIte]
      rw [ih (wrap64_wrap64 _)]
      constructor
      · rintro ⟨ns, hns, hnn, rfl⟩
        refine ⟨n :: ns, ⟨n, ns, rfl, hns, rfl⟩, ?_, ?_⟩
        · simpa [List.forall_mem_cons] using ⟨by omega, hnn⟩
        · rw [wrap64_mul_add]
          simp only [sexagesimal, List.length_cons, pow_succ]
          ring_nf
      · rintro ⟨_, ⟨m, ns, hm, hns, rfl⟩, hnn, rfl⟩
        cases hm
        refine ⟨ns, hns, fun k hk => hnn k (by simp [hk]), ?_⟩
        rw [wrap64_mul_add]
        simp only [sexagesimal, List.length_cons, pow_succ]
        ring_nf

theorem parseItunesDuration_eq (raw : String) : parseItunesDuration raw =
    if Text.trim raw = "" then none
    else (itunesParts raw).foldlM (fun total part => (Environment.decimal? part).bind fun n =>
      if n < 0 then none else some (wrap64 (total * 60 + n))) 0 := by
  simp [parseItunesDuration, itunesParts, Option.bind_eq_bind]

theorem parseItunesDuration_eq_some_iff (raw : String) (d : Int) :
    parseItunesDuration raw = some d ↔ Text.trim raw ≠ "" ∧ ∃ ns : List Int,
      List.Forall₂ (fun part n => Environment.decimal? part = some n) (itunesParts raw) ns ∧
        (∀ n ∈ ns, 0 ≤ n) ∧ d = wrap64 (sexagesimal ns) := by
  rw [parseItunesDuration_eq]
  split_ifs with h
  · simp [h]
  · rw [foldlM_parts_eq_some (by decide)]
    simp [h]

/-! ## Converted posts -/

theorem convertPost_durationSeconds {ch : Channel} {p : Post} {item : Incoming}
    (h : convertPost ch p = some item) :
    item.durationSeconds = p.podcast.bind fun pod => parseItunesDuration pod.duration := by
  unfold convertPost at h
  dsimp only at h
  -- the id falls back from the guid to the link; a post with neither gives no item
  split at h
  · split at h
    · cases h
    · obtain rfl := Option.some.inj h
      rfl
  · obtain rfl := Option.some.inj h
    rfl

theorem convertPosts_duration {ch : Channel} {item : Incoming} (h : item ∈ convertPosts ch)
    {d : Int} (hd : item.durationSeconds = some d) :
    ∃ ns : List Int, (∀ n ∈ ns, 0 ≤ n) ∧ d = wrap64 (sexagesimal ns) := by
  obtain ⟨p, -, hp⟩ := List.mem_filterMap.1 h
  rw [convertPost_durationSeconds hp, Option.bind_eq_some_iff] at hd
  obtain ⟨pod, -, hpod⟩ := hd
  obtain ⟨-, ns, -, hnn, rfl⟩ := (parseItunesDuration_eq_some_iff _ _).1 hpod
  exact ⟨ns, hnn, rfl⟩

/-- **iTunes durations wrap in 64 bits.** A duration is read exactly when the trimmed text is not
empty and each of its parts is a number, within 64 signed bits, that is not negative; it is the
value of the parts wrapped into 64 bits, which is the value itself exactly when that is below
`2 ^ 63`; and every duration of a converted post is such a wrapped value. -/
theorem itunes_duration_wraps (raw : String) (d : Int) :
    (parseItunesDuration raw = some d ↔ Text.trim raw ≠ "" ∧ ∃ ns : List Int,
      List.Forall₂ (fun part n => Environment.decimal? part = some n) (itunesParts raw) ns ∧
        (∀ n ∈ ns, 0 ≤ n) ∧ d = wrap64 (sexagesimal ns)) ∧
      (∀ ns : List Int, (∀ n ∈ ns, 0 ≤ n) →
        (wrap64 (sexagesimal ns) = sexagesimal ns ↔ sexagesimal ns < 2 ^ 63)) ∧
      ∀ (ch : Channel), ∀ item ∈ convertPosts ch, ∀ d', item.durationSeconds = some d' →
        ∃ ns : List Int, (∀ n ∈ ns, 0 ≤ n) ∧ d' = wrap64 (sexagesimal ns) :=
  ⟨parseItunesDuration_eq_some_iff raw d, fun _ h => wrap64_eq_self_iff (sexagesimal_nonneg h),
    fun _ _ h _ hd => convertPosts_duration h hd⟩

/-- Two parts worth `2 ^ 63 + 52` seconds are read as a negative duration. -/
theorem long_duration_wraps_negative :
    List.Forall₂ (fun part n => Environment.decimal? part = some n)
      (itunesParts "153722867280912931:0") [153722867280912931, 0] ∧
      sexagesimal [153722867280912931, 0] = 9223372036854775860 ∧
      parseItunesDuration "153722867280912931:0" = some (-9223372036854775756) := by
  have hparts : itunesParts "153722867280912931:0" = ["153722867280912931", "0"] := by
    decide +kernel
  rw [hparts]
  exact ⟨.cons (by decide +kernel) (.cons (by decide +kernel) .nil), by decide +kernel,
    by decide +kernel⟩

end ReadLater.Feed
