import SnippetServer.Proofs.Text.EditorLines

namespace SnippetServer.Text

/-!
# The lines of an open document

A line of a document reaches from one LF to the next one, or to an end of the text, and its number
is the number of LFs in front of it.  One CR at its end does not belong to it, whether an LF follows
or not.

* `IsAround text front piece back` — how a text falls apart around what stands between two LFs;
* `IsLine text i line` — the line with a number, said without cutting the whole text;
* `getElem?_documentLines` — these are the lines that `documentLines` gives;
* `length_documentLines` — there is one more of them than LFs.
-/

/-! ### Lines by their place -/

/-- How a text falls apart around a piece between two LFs. -/
structure IsAround (text front piece back : Text) : Prop where
  /-- The text is the three together. -/
  text_eq : text = front ++ piece ++ back
  /-- What stands before the piece ends in LF. -/
  front_ends : EndsLine front
  /-- There is no LF in the piece. -/
  piece_line : '\n' ∉ piece
  /-- What stands behind the piece begins with LF. -/
  back_begins : ∀ c ∈ back.head?, c = '\n'

/-- A line is a piece between two LFs without one CR at its end.  Its number counts the LFs in front
of it. -/
def IsLine (text : Text) (i : Nat) (line : Text) : Prop :=
  ∃ front piece back, IsAround text front piece back ∧ front.count '\n' = i ∧
    (piece = line ++ ['\r'] ∨ piece = line ∧ line.getLast? ≠ some '\r')

/-- Dropping a CR leaves a line exactly if the piece is that line and one CR more, or is the line
and ends in none. -/
theorem dropCR_eq_iff {piece line : Text} : dropCR piece = line ↔
    piece = line ++ ['\r'] ∨ piece = line ∧ line.getLast? ≠ some '\r' := by
  constructor
  · rintro rfl
    rcases dropCR_cases piece with h | ⟨h, hne⟩
    · exact Or.inl h
    · exact Or.inr ⟨h, h ▸ hne⟩
  · rintro (rfl | ⟨rfl, hne⟩)
    · exact dropCR_concat_cr line
    · exact dropCR_of_ne hne

/-! ### Up to an LF and behind it -/

/-- Without an LF there is one line. -/
theorem documentLines_of_not_mem {t : Text} (h : '\n' ∉ t) : documentLines t = [dropCR t] := by
  rw [documentLines, cutAt_of_not_mem h]
  rfl

/-- What ends in LF still does with more in front of it. -/
theorem EndsLine.append_lf {t : Text} (h : EndsLine t) (s : Text) : EndsLine (s ++ '\n' :: t) := by
  refine Or.inr ?_
  rcases h with rfl | h
  · exact List.getLast?_concat
  · rw [List.getLast?_append, List.getLast?_cons, h]
    rfl

/-- Only the start of the text ends in LF without having one. -/
theorem EndsLine.eq_nil {t : Text} (h : EndsLine t) (hcount : t.count '\n' = 0) : t = [] := by
  rcases h with h | h
  · exact h
  · exact absurd (List.mem_of_getLast? h) (List.count_eq_zero.1 hcount)

/-- A line in front adds the LF that ends it. -/
theorem count_append_lf {s : Text} (h : '\n' ∉ s) (t : Text) :
    (s ++ '\n' :: t).count '\n' = t.count '\n' + 1 := by
  rw [List.count_append, List.count_eq_zero.2 h, List.count_cons_self, Nat.zero_add]

/-- A piece stays between its LFs when a line is put in front of the text. -/
theorem IsAround.append_lf {text front piece back : Text} (h : IsAround text front piece back)
    (s : Text) : IsAround (s ++ '\n' :: text) (s ++ '\n' :: front) piece back where
  text_eq := by simp [h.text_eq]
  front_ends := h.front_ends.append_lf s
  piece_line := h.piece_line
  back_begins := h.back_begins

/-! ### All lines -/

/-- There is one line more than LFs; the recursion goes from one LF to the next. -/
theorem length_documentLines (t : Text) : (documentLines t).length = t.count '\n' + 1 := by
  by_cases hlf : '\n' ∈ t
  · obtain ⟨line, r, rfl, hl⟩ := List.eq_append_cons_of_mem hlf
    have ih := length_documentLines r
    rw [documentLines_append_lf hl, List.length_cons, count_append_lf hl, ih]
  · rw [documentLines_of_not_mem hlf, List.count_eq_zero.2 hlf]
    rfl
termination_by t.length

/-- A line that stands in the text is among the lines of the document, at its number. -/
theorem IsLine.getElem?_eq {text : Text} {i : Nat} {line : Text} (h : IsLine text i line) :
    (documentLines text)[i]? = some line := by
  obtain ⟨front, piece, back, h, hcount, hpiece⟩ := h
  have hline : dropCR piece = line := dropCR_eq_iff.2 hpiece
  -- the number of LFs in front goes down with the line that is taken off
  induction i generalizing text front with
  | zero =>
    obtain rfl := h.front_ends.eq_nil hcount
    rw [h.text_eq, List.nil_append]
    cases back with
    | nil =>
      rw [List.append_nil, documentLines_of_not_mem h.piece_line, hline]
      rfl
    | cons c back =>
      obtain rfl := h.back_begins c rfl
      rw [documentLines_append_lf h.piece_line, hline]
      rfl
  | succ i ih =>
    -- the first LF ends a line in front of this one
    have hlf : '\n' ∈ front := List.one_le_count_iff.1 (by omega)
    obtain ⟨first, front, rfl, hfirst⟩ := List.eq_append_cons_of_mem hlf
    rw [count_append_lf hfirst] at hcount
    have htext : text = first ++ '\n' :: (front ++ piece ++ back) := by
      rw [h.text_eq]
      simp
    rw [htext, documentLines_append_lf hfirst, List.getElem?_cons_succ]
    refine ih front ⟨rfl, ?_, h.piece_line, h.back_begins⟩ (by omega)
    exact endsLine_of_append_lf h.front_ends

/-- There is one line with a number at most. -/
theorem IsLine.unique {text line line' : Text} {i : Nat} (h : IsLine text i line)
    (h' : IsLine text i line') : line = line' :=
  Option.some.inj (h.getElem?_eq.symm.trans h'.getElem?_eq)

/-- A line among the lines of the document stands in the text. -/
theorem isLine_of_getElem? {text : Text} {i : Nat} {line : Text}
    (h : (documentLines text)[i]? = some line) : IsLine text i line := by
  -- by the number of the line, which is that of the LFs before it
  induction i generalizing text with
  | zero =>
    by_cases hlf : '\n' ∈ text
    · obtain ⟨first, t, rfl, hfirst⟩ := List.eq_append_cons_of_mem hlf
      rw [documentLines_append_lf hfirst] at h
      have hline : dropCR first = line := Option.some.inj h
      exact ⟨[], first, '\n' :: t, ⟨rfl, Or.inl rfl, hfirst, by simp⟩, rfl,
        dropCR_eq_iff.1 hline⟩
    · rw [documentLines_of_not_mem hlf] at h
      have hline : dropCR text = line := Option.some.inj h
      exact ⟨[], text, [], ⟨by simp, Or.inl rfl, hlf, by simp⟩, rfl, dropCR_eq_iff.1 hline⟩
  | succ i ih =>
    by_cases hlf : '\n' ∈ text
    · obtain ⟨first, t, rfl, hfirst⟩ := List.eq_append_cons_of_mem hlf
      rw [documentLines_append_lf hfirst, List.getElem?_cons_succ] at h
      obtain ⟨front, piece, back, haround, hcount, hpiece⟩ := ih h
      refine ⟨first ++ '\n' :: front, piece, back, haround.append_lf first, ?_, hpiece⟩
      rw [count_append_lf hfirst, hcount]
    · -- without an LF there is no second line
      rw [documentLines_of_not_mem hlf] at h
      exact absurd h (by simp)

/-- **Lines of a document.**  They are the pieces between the LFs without one CR at their ends, each
numbered by the LFs in front of it. -/
theorem getElem?_documentLines {text : Text} {i : Nat} {line : Text} :
    (documentLines text)[i]? = some line ↔ IsLine text i line :=
  ⟨isLine_of_getElem?, IsLine.getElem?_eq⟩

end SnippetServer.Text
