import Mathlib
import ReadLater.Content

/-!
# What cleaning leaves

Cleaned text is words joined by single spaces, and a cleaned URL is empty or the written form of
an absolute http or https URL with a host.

* `Text.IsWord`, `Text.fields_words`: the words of a text are not empty and hold no white space;
* `Text.Tidy`: text that neither starts nor ends with white space, has no two white-space
  characters together and no white space but the space; `Text.tidy_intercalate`: words joined
  by single spaces are tidy;
* **`Content.cleanText_tidy`**: cleaned text is tidy;
* `Content.IsWebAddress`, **`Content.cleanUrl_webAddress`**: a cleaned URL is empty or the
  written form of a URL that was read with the scheme http or https, in any case, and a host.
-/

namespace ReadLater

namespace Text

/-! ## Words -/

/-- A word: some characters, none of them white space. -/
def IsWord (w : String) : Prop := w ≠ "" ∧ ∀ c ∈ w.toList, isSpace c = false

/-- The characters of a word begun, read back in order, make a word. -/
theorem isWord_ofList_reverse {acc : List Char} (hne : acc.isEmpty = false)
    (hacc : ∀ c ∈ acc, isSpace c = false) : IsWord (String.ofList acc.reverse) := by
  refine ⟨fun h => ?_, fun c hc => hacc c (by simpa using hc)⟩
  have hnil : acc.reverse = [] := by rw [← String.toList_ofList (l := acc.reverse), h]; rfl
  simp_all

/-- Every word split off after a word begun without white space is a word. The induction is on
the characters still to read; the word begun carries no white space. -/
theorem fieldsAux_words (cs : List Char) :
    ∀ acc : List Char, (∀ c ∈ acc, isSpace c = false) → ∀ w ∈ fieldsAux cs acc, IsWord w := by
  induction cs with
  | nil =>
    intro acc hacc w hw
    simp only [fieldsAux] at hw
    split at hw
    · cases hw
    · rename_i hne
      rw [List.mem_singleton] at hw
      exact hw ▸ isWord_ofList_reverse (Bool.eq_false_iff.2 hne) hacc
  | cons c cs ih =>
    intro acc hacc w hw
    simp only [fieldsAux] at hw
    split at hw
    · -- white space ends the word begun, if there is one
      split at hw
      · exact ih [] (by simp) w hw
      · rename_i hne
        rcases List.mem_cons.1 hw with rfl | hw
        · exact isWord_ofList_reverse (Bool.eq_false_iff.2 hne) hacc
        · exact ih [] (by simp) w hw
    · -- any other character goes on with the word
      rename_i hc
      refine ih (c :: acc) (fun d hd => ?_) w hw
      rcases List.mem_cons.1 hd with rfl | hd
      · exact Bool.eq_false_iff.2 hc
      · exact hacc d hd

theorem fields_words (s : String) : ∀ w ∈ fields s, IsWord w :=
  fieldsAux_words s.toList [] (by simp)

/-! ## Tidy text -/

/-- Text whose white space stands only as single spaces between words: it neither starts nor ends
with white space, no two white-space characters stand together, and the only white space is the
space. -/
structure Tidy (s : String) : Prop where
  head : ∀ c ∈ s.toList.head?, isSpace c = false
  last : ∀ c ∈ s.toList.getLast?, isSpace c = false
  apart : s.toList.IsChain fun a b => isSpace a = false ∨ isSpace b = false
  space : ∀ c ∈ s.toList, isSpace c = true → c = ' '

theorem tidy_empty : Tidy "" := ⟨by simp, by simp, by simp, by simp⟩

theorem IsWord.tidy {w : String} (h : IsWord w) : Tidy w where
  head c hc := h.2 c (List.mem_of_mem_head? hc)
  last c hc := h.2 c (List.mem_of_mem_getLast? hc)
  apart := (List.isChain_isInfix w.toList).imp_of_mem_imp fun a _ ha _ _ => .inl (h.2 a ha)
  space c hc hs := by rw [h.2 c hc] at hs; cases hs

/-- A word, a space and tidy text that is not empty make tidy text. -/
theorem Tidy.word_space {w t : String} (hw : IsWord w) (ht : Tidy t) (hne : t ≠ "") :
    Tidy (w ++ " " ++ t) := by
  have hw₀ : w.toList ≠ [] := by simpa using hw.1
  have ht₀ : t.toList ≠ [] := by simpa using hne
  have hcs : (w ++ " " ++ t).toList = w.toList ++ ' ' :: t.toList := by simp
  constructor <;> rw [hcs]
  · -- the text starts with the word
    intro c hc
    rw [List.head?_append_of_ne_nil _ hw₀] at hc
    exact hw.2 c (List.mem_of_mem_head? hc)
  · -- and ends with the tidy text
    intro c hc
    rw [List.getLast?_append_of_ne_nil _ (List.cons_ne_nil _ _), List.getLast?_cons,
      List.getLast?_eq_some_getLast ht₀] at hc
    exact ht.last c (by rw [List.getLast?_eq_some_getLast ht₀]; exact hc)
  · -- the space stands between the word's last character and the text's first
    refine List.isChain_append.2 ⟨(hw.tidy).apart, List.isChain_cons.2 ⟨fun c hc => .inr
      (ht.head c hc), ht.apart⟩, fun a ha _ _ => .inl (hw.2 a (List.mem_of_mem_getLast? ha))⟩
  · intro c hc hs
    rcases List.mem_append.1 hc with hc | hc
    · rw [hw.2 c hc] at hs
      cases hs
    · rcases List.mem_cons.1 hc with rfl | hc
      · rfl
      · exact ht.space c hc hs

/-- Words joined by single spaces are not empty when there is a word. -/
theorem intercalate_ne_empty {w : String} (hw : IsWord w) (rest : List String) :
    " ".intercalate (w :: rest) ≠ "" := by
  intro h
  have hcs := congrArg String.toList h
  rw [String.toList_intercalate, List.map_cons] at hcs
  cases rest with
  | nil => exact hw.1 (by simpa using hcs)
  | cons v rest => simp [List.intercalate_cons_cons] at hcs

/-- **Words joined by single spaces make tidy text.** -/
theorem tidy_intercalate : ∀ ws : List String, (∀ w ∈ ws, IsWord w) → Tidy (" ".intercalate ws)
  | [], _ => tidy_empty
  | [w], h => by
    rw [String.intercalate_singleton]
    exact (h w List.mem_cons_self).tidy
  | w :: v :: rest, h => by
    have hv : IsWord v := h v (List.mem_cons_of_mem _ List.mem_cons_self)
    rw [String.intercalate_cons_cons]
    exact Tidy.word_space (h w List.mem_cons_self)
      (tidy_intercalate (v :: rest) fun u hu => h u (List.mem_cons_of_mem _ hu))
      (intercalate_ne_empty hv rest)

end Text

namespace Content

@[simp] theorem cleanText_empty : cleanText "" = "" := rfl

@[simp] theorem cleanUrl_empty : cleanUrl "" = "" := rfl

/-- **Cleaned text is tidy**: its words joined by single spaces. -/
theorem cleanText_tidy (raw : String) : Text.Tidy (cleanText raw) := by
  unfold cleanText
  split
  · exact Text.tidy_empty
  · exact Text.tidy_intercalate _ (Text.fields_words _)

/-- A web address: the written form of a URL read from some text, with the scheme http or https
in any case, and a host. -/
def IsWebAddress (s : String) : Prop :=
  ∃ t u, Net.Url.parse t = .ok u ∧ u.host ≠ [] ∧
    (Net.Bytes.lowerAscii u.scheme = Text.Bytes.ofString "http" ∨
      Net.Bytes.lowerAscii u.scheme = Text.Bytes.ofString "https") ∧ u.render = s

/-- **A cleaned URL is empty or a web address**: the text trimmed, read as a URL and written
back. -/
theorem cleanUrl_webAddress (raw : String) : cleanUrl raw = "" ∨ IsWebAddress (cleanUrl raw) := by
  unfold cleanUrl
  dsimp only
  split
  · exact .inl rfl
  split
  · exact .inl rfl
  rename_i u hu
  split
  · exact .inl rfl
  split
  · rename_i hhost hscheme
    refine .inr ⟨_, u, hu, by simpa using hhost, ?_, rfl⟩
    simpa only [Bool.or_eq_true, beq_iff_eq] using hscheme
  · exact .inl rfl

end Content

end ReadLater
