import Mathlib.Data.Prod.Lex
import Mathlib.Data.List.Induction
import Mathlib.Order.Basic
import ReadLater.Feed.Discovery

/-!
# Which announced feed is followed

A page may announce several feeds. The choice scores each one, 100 for being on the page's host
and 10 for being Atom, and keeps the first feed of the highest score. The score encodes the
preference order of the announced rule: the host first, then the kind, then the place.

* `FeedLink.rank`: the preference, a pair compared lexicographically;
* `FeedLink.score_lt_score_iff`: the additive score orders feeds as the preference does, since a
  host match outweighs any kind;
* `foldl_keepBest_first_best`: after a nonempty list, the choice holds the first feed that no feed
  outscores;
* **`selectBest_first_preferred`**: the choice is empty exactly for an empty list, and otherwise
  it is the earliest of the feeds that no feed is preferred to.
-/

namespace ReadLater.Feed

/-- How the choice prefers a feed, for a page on `host`: being on that host, then being Atom. -/
def FeedLink.rank (host : String) (c : FeedLink) : Bool ×ₗ Bool :=
  toLex (hostOf c.url == host, c.kind == .atom)

/-- The score the choice gives a feed, for a page on `host`. -/
def FeedLink.score (host : String) (c : FeedLink) : Nat :=
  (if hostOf c.url == host then 100 else 0) + (if c.kind == .atom then 10 else 0)

/-- One step of the choice: the first feed, then a later one only if it scores strictly higher. -/
def keepBest (host : String) (best : Option FeedLink) (c : FeedLink) : Option FeedLink :=
  match best with
  | some b => if c.score host > b.score host then some c else best
  | none => some c

theorem selectBest_eq_foldl (cs : List FeedLink) (p : String) :
    selectBest cs p = cs.foldl (keepBest (hostOf p)) none := rfl

/-! ## The score and the preference -/

/-- A host match outweighs any kind, so the score compares feeds as the preference does. -/
theorem FeedLink.score_lt_score_iff (host : String) (a b : FeedLink) :
    a.score host < b.score host ↔ a.rank host < b.rank host := by
  simp only [FeedLink.score, FeedLink.rank, Prod.Lex.toLex_lt_toLex]
  cases hostOf a.url == host <;> cases hostOf b.url == host <;>
    cases a.kind <;> cases b.kind <;> decide

theorem FeedLink.score_le_score_iff (host : String) (a b : FeedLink) :
    a.score host ≤ b.score host ↔ a.rank host ≤ b.rank host := by
  rw [← not_lt, ← not_lt, FeedLink.score_lt_score_iff]

/-! ## The fold -/

/-- Place `i` of a list holds a feed that no feed outranks, and that outranks every earlier one. -/
def FirstBest {β : Type} [LinearOrder β] (r : FeedLink → β) (cs : List FeedLink) (i : Nat)
    (hi : i < cs.length) : Prop :=
  (∀ j (hj : j < cs.length), r cs[j] ≤ r cs[i]) ∧ ∀ j (hj : j < i), r cs[j] < r cs[i]

theorem FirstBest.unique {β : Type} [LinearOrder β] {r : FeedLink → β} {cs : List FeedLink}
    {i i' : Nat} {hi : i < cs.length} {hi' : i' < cs.length} (h : FirstBest r cs i hi)
    (h' : FirstBest r cs i' hi') : i = i' := by
  obtain ⟨hmax, hfirst⟩ := h
  obtain ⟨hmax', hfirst'⟩ := h'
  by_contra hne
  rcases Nat.lt_or_gt_of_ne hne with hlt | hlt
  · exact absurd (hmax i' hi') (not_le.2 (hfirst' i hlt))
  · exact absurd (hmax' i hi) (not_le.2 (hfirst i' hlt))

/-- The score and the preference single out the same place. -/
theorem FirstBest.score_iff_rank {host : String} {cs : List FeedLink} {i : Nat}
    {hi : i < cs.length} :
    FirstBest (FeedLink.score host) cs i hi ↔ FirstBest (FeedLink.rank host) cs i hi := by
  simp only [FirstBest, FeedLink.score_le_score_iff, FeedLink.score_lt_score_iff]

/-- One more feed: the choice stays on the first best, or moves to the new feed when it scores
strictly higher than every feed before it. -/
theorem FirstBest.keepBest_append {host : String} {cs : List FeedLink} {i : Nat}
    {hi : i < cs.length} (h : FirstBest (FeedLink.score host) cs i hi) (c : FeedLink) :
    ∃ i', ∃ hi' : i' < (cs ++ [c]).length, FirstBest (FeedLink.score host) (cs ++ [c]) i' hi' ∧
      keepBest host (some cs[i]) c = some (cs ++ [c])[i'] := by
  obtain ⟨hmax, hfirst⟩ := h
  by_cases hgt : cs[i].score host < c.score host
  · -- the new feed outscores the best so far, hence every feed before it
    have hbelow : ∀ j (hj : j < cs.length), cs[j].score host < c.score host :=
      fun j hj => lt_of_le_of_lt (hmax j hj) hgt
    refine ⟨cs.length, by simp, ⟨fun j hj => ?_, fun j hj => ?_⟩, by simp [keepBest, hgt]⟩
    · rcases Nat.lt_or_ge j cs.length with hj' | hj'
      · simpa [List.getElem_append_left hj'] using (hbelow j hj').le
      · obtain rfl : j = cs.length := by simp at hj; omega
        exact le_rfl
    · simpa [List.getElem_append_left hj] using hbelow j hj
  · -- the best so far stays, and the new feed is not above it
    have hle : c.score host ≤ cs[i].score host := not_lt.1 hgt
    refine ⟨i, by simp; omega, ⟨fun j hj => ?_, fun j hj => ?_⟩, ?_⟩
    · rcases Nat.lt_or_ge j cs.length with hj' | hj'
      · simpa [List.getElem_append_left hj', List.getElem_append_left hi] using hmax j hj'
      · obtain rfl : j = cs.length := by simp at hj; omega
        simpa [List.getElem_append_left hi] using hle
    · simpa [List.getElem_append_left hi, List.getElem_append_left (Nat.lt_trans hj hi)]
        using hfirst j hj
    · simp [keepBest, hgt, List.getElem_append_left hi]

/-- **After a nonempty list the choice holds the first feed of the highest score.** -/
theorem foldl_keepBest_first_best (host : String) (cs : List FeedLink) (hne : cs ≠ []) :
    ∃ i, ∃ hi : i < cs.length, FirstBest (FeedLink.score host) cs i hi ∧
      cs.foldl (keepBest host) none = some cs[i] := by
  -- the choice reads the list from the left, so the induction adds one feed at the end
  induction cs using List.reverseRecOn with
  | nil => exact absurd rfl hne
  | append_singleton cs c ih =>
    rw [List.foldl_append, List.foldl_cons, List.foldl_nil]
    by_cases hcs : cs = []
    · subst hcs
      refine ⟨0, by simp, ⟨fun j hj => ?_, fun j hj => absurd hj (Nat.not_lt_zero j)⟩, rfl⟩
      obtain rfl : j = 0 := by simpa using hj
      exact le_rfl
    · obtain ⟨i, hi, hbest, hfold⟩ := ih hcs
      rw [hfold]
      exact hbest.keepBest_append c

/-! ## The choice -/

/-- **The choice is empty exactly for an empty list; otherwise it is the earliest feed that no
feed is preferred to: one on the page's host before any other, among those an Atom feed before
an RSS one, and the first among equals.** -/
theorem selectBest_first_preferred (cs : List FeedLink) (p : String) :
    (selectBest cs p = none ↔ cs = []) ∧
      ∀ c, selectBest cs p = some c ↔
        ∃ i, ∃ hi : i < cs.length, cs[i] = c ∧
          (∀ j (hj : j < cs.length), cs[j].rank (hostOf p) ≤ cs[i].rank (hostOf p)) ∧
          ∀ j (hj : j < i), cs[j].rank (hostOf p) < cs[i].rank (hostOf p) := by
  rw [selectBest_eq_foldl]
  refine ⟨⟨fun h => ?_, fun h => h ▸ rfl⟩, fun c => ⟨fun h => ?_, ?_⟩⟩
  · by_contra hne
    obtain ⟨i, hi, -, hfold⟩ := foldl_keepBest_first_best (hostOf p) cs hne
    rw [hfold] at h
    cases h
  · have hne : cs ≠ [] := by
      rintro rfl
      cases h
    obtain ⟨i, hi, hbest, hfold⟩ := foldl_keepBest_first_best (hostOf p) cs hne
    rw [hfold] at h
    exact ⟨i, hi, Option.some.inj h, FirstBest.score_iff_rank.1 hbest⟩
  · rintro ⟨i, hi, rfl, hbest⟩
    obtain ⟨i', hi', hbest', hfold⟩ :=
      foldl_keepBest_first_best (hostOf p) cs (List.ne_nil_of_length_pos (by omega))
    obtain rfl : i' = i := hbest'.unique (FirstBest.score_iff_rank.2 hbest)
    exact hfold

end ReadLater.Feed
