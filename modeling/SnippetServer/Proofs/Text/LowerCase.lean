import SnippetServer.Text.LowerCase
import Mathlib.Data.List.Basic

namespace SnippetServer.Text

/-!
# Lower-casing and leading parts

A text in lower case begins with the lower case of its leading parts, with one exception: a `Σ` at
the end of a leading part becomes `ς`, and in the whole text, where the word goes on, it is `σ`.

* `lowerAt before c rest` — what a character becomes between what stands before and behind it;
* `SplitsSigma before s rest` — a cut between `s` and `rest` right behind a `Σ` in a word;
* `lowerAfter_prefix_iff` — the lower case of a leading part is one exactly if the cut is no such;
* `length_lower` — only `İ` gets longer.
-/

/-- Whether a character does not count when the end of a word is looked for. -/
def isIgnorable (c : Char) : Bool := inRanges c.toNat LowerCase.caseIgnorable

/-- What a character becomes behind the characters `before`, nearest first, and before `rest`. -/
def lowerAt (before : Text) (c : Char) (rest : Text) : Text :=
  if c = 'İ' then ['i', '\u0307']
  else if c = 'Σ' then [if startsCased before && !startsCased rest then 'ς' else 'σ']
  else [lowerChar c]

/-- The characters are put in lower case one by one, each seeing what stands around it. -/
theorem lowerAfter_cons (before : Text) (c : Char) (rest : Text) :
    lowerAfter before (c :: rest) = lowerAt before c rest ++ lowerAfter (c :: before) rest := rfl

/-- No character becomes nothing. -/
theorem lowerAt_ne_nil (before : Text) (c : Char) (rest : Text) : lowerAt before c rest ≠ [] := by
  unfold lowerAt
  split
  · simp
  · split <;> simp

/-- Only `İ` becomes two characters. -/
theorem length_lowerAt {c : Char} (h : c ≠ 'İ') (before rest : Text) :
    (lowerAt before c rest).length = 1 := by
  rw [lowerAt, if_neg h]
  split <;> rfl

/-- Only `Σ` looks at what follows. -/
theorem lowerAt_of_ne {c : Char} (h : c ≠ 'Σ') (before rest rest' : Text) :
    lowerAt before c rest = lowerAt before c rest' := by
  simp only [lowerAt, if_neg h]

/-! ### Lengths -/

/-- Without `İ` there are as many characters as before, whatever stands in front. -/
theorem length_lowerAfter {before t : Text} (h : 'İ' ∉ t) :
    (lowerAfter before t).length = t.length := by
  -- what stands before a character changes from place to place
  induction t generalizing before with
  | nil => rfl
  | cons c t ih =>
    rw [List.mem_cons, not_or] at h
    rw [lowerAfter_cons, List.length_append, length_lowerAt (Ne.symm h.1), ih h.2, List.length_cons]
    omega

/-- Every character but `İ` becomes one character. -/
theorem length_lower {t : Text} (h : 'İ' ∉ t) : (lower t).length = t.length := length_lowerAfter h

/-- Nothing is lost as a whole. -/
theorem lower_eq_nil_iff {t : Text} : lower t = [] ↔ t = [] := by
  cases t with
  | nil => simp
  | cons c t =>
    rw [lower, lowerAfter_cons, List.append_eq_nil_iff]
    simp [lowerAt_ne_nil]

/-! ### The end of a word -/

/-- What is ignored does not decide. -/
theorem startsCased_append (s t : Text) :
    startsCased (s ++ t) = if s.all isIgnorable then startsCased t else startsCased s := by
  induction s with
  | nil => rfl
  | cons c s ih =>
    cases hc : isIgnorable c with
    | true =>
      -- the character is skipped on either side
      have hskip : ∀ r : Text, startsCased (c :: r) = startsCased r := fun r => by
        rw [isIgnorable] at hc
        simp only [startsCased, List.dropWhile_cons, hc, if_true]
      rw [List.cons_append, hskip, hskip, ih, List.all_cons, hc, Bool.true_and]
    | false =>
      rw [isIgnorable] at hc
      simp [startsCased, hc, isIgnorable]

/-- No word goes on with characters that are all ignored. -/
theorem startsCased_of_all {s : Text} (h : s.all isIgnorable = true) : startsCased s = false := by
  have := startsCased_append s []
  rw [List.append_nil, if_pos h] at this
  rw [this]
  rfl

/-- A cut between `s` and `rest` stands in a word, and right before it, but for what is ignored,
stands a `Σ` that does not begin the word.  The characters `before`, nearest first, stand before
`s`. -/
def SplitsSigma (before s rest : Text) : Prop :=
  startsCased rest = true ∧ ∃ front ignored, s = front ++ 'Σ' :: ignored ∧
    startsCased (front.reverse ++ before) = true ∧ ignored.all isIgnorable = true

/-- Whether a `Σ` is cut off is decided at the first character or behind it. -/
theorem splitsSigma_cons {before s rest : Text} {c : Char} :
    SplitsSigma before (c :: s) rest ↔
      (startsCased rest = true ∧ c = 'Σ' ∧ startsCased before = true ∧ s.all isIgnorable = true) ∨
        SplitsSigma (c :: before) s rest := by
  constructor
  · rintro ⟨hrest, front, ignored, hs, hfront, hign⟩
    cases front with
    | nil =>
      obtain ⟨rfl, rfl⟩ := List.cons.inj hs
      exact Or.inl ⟨hrest, rfl, hfront, hign⟩
    | cons d front =>
      obtain ⟨rfl, rfl⟩ := List.cons.inj hs
      refine Or.inr ⟨hrest, front, ignored, rfl, ?_, hign⟩
      simpa using hfront
  · rintro (⟨hrest, rfl, hbefore, hign⟩ | ⟨hrest, front, ignored, rfl, hfront, hign⟩)
    · exact ⟨hrest, [], s, rfl, hbefore, hign⟩
    · refine ⟨hrest, c :: front, ignored, rfl, ?_, hign⟩
      simpa using hfront

/-- A character becomes the same whether or not more follows, unless it is a `Σ` that is cut off. -/
theorem lowerAt_append {before s rest : Text} {c : Char}
    (h : ¬ (startsCased rest = true ∧ c = 'Σ' ∧ startsCased before = true ∧
      s.all isIgnorable = true)) : lowerAt before c (s ++ rest) = lowerAt before c s := by
  by_cases hc : c = 'Σ'
  · subst hc
    -- what stands behind a `Σ` decides only if a word stands before it
    have hsame : (startsCased before && !startsCased (s ++ rest)) =
        (startsCased before && !startsCased s) := by
      rw [startsCased_append]
      by_cases hs : s.all isIgnorable = true
      · rw [if_pos hs, startsCased_of_all hs]
        cases hb : startsCased before <;> cases hr : startsCased rest <;> simp_all
      · rw [if_neg hs]
    simp only [lowerAt, hsame]
  · exact lowerAt_of_ne hc before (s ++ rest) s

/-- Whatever stands in front of both, the lower case of a leading part is one of the whole exactly
if no `Σ` is cut off. -/
theorem lowerAfter_prefix_iff {before s rest : Text} :
    lowerAfter before s <+: lowerAfter before (s ++ rest) ↔ ¬ SplitsSigma before s rest := by
  induction s generalizing before with
  | nil => simp [lowerAfter, SplitsSigma]
  | cons c s ih =>
    rw [List.cons_append, lowerAfter_cons, lowerAfter_cons, splitsSigma_cons, not_or]
    by_cases hc : startsCased rest = true ∧ c = 'Σ' ∧ startsCased before = true ∧
        s.all isIgnorable = true
    · -- `ς` against `σ`
      obtain ⟨hrest, rfl, hbefore, hs⟩ := hc
      have hcut : lowerAt before 'Σ' s = ['ς'] := by
        simp [lowerAt, hbefore, startsCased_of_all hs]
      have hwhole : lowerAt before 'Σ' (s ++ rest) = ['σ'] := by
        simp [lowerAt, startsCased_append, hs, hrest]
      rw [hcut, hwhole]
      simp [hrest, hbefore, hs]
    · -- the first character becomes the same on both sides, and the rest decides
      rw [lowerAt_append hc, List.prefix_append_right_inj, ih, and_iff_right hc]

/-- The lower case of a text begins with that of a leading part exactly if no `Σ` inside a word is
cut off. -/
theorem lower_prefix_iff {s rest : Text} :
    lower s <+: lower (s ++ rest) ↔ ¬ SplitsSigma [] s rest := lowerAfter_prefix_iff

end SnippetServer.Text
