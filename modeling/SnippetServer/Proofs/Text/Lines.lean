import SnippetServer.Text.Lines
import Mathlib.Data.List.Basic

namespace SnippetServer.Text

/-!
# The lines of a snippet file

A line of a snippet file ends at LF, and one CR directly before that LF belongs to the end of the
line.  What stands after the last LF is a line only if it is not empty.

* `HasLines t lines` — this, as a relation that goes from line to line;
* `hasLines_fileLines`, `HasLines.fileLines_eq` — `fileLines` computes it;
* `fileLines_append_lf`, `fileLines_append_crlf` — one line at the front;
* `fileLines_append` — a text that ends where a line ends, and another one behind it;
* `not_mem_of_mem_fileLines` — no line holds an LF;
* `AddsReturns t t'` — CRs have been put before some of the LFs of `t`, which leaves the lines if
  there was no CR: `HasLines.addsReturns`.
-/

/-! ### One piece at the front -/

section

variable {α : Type _} [DecidableEq α] {sep : α} {xs : List α}

/-- A separator ends the first piece if there is none before it. -/
theorem cutAt_append_sep (h : sep ∉ xs) (ys : List α) :
    cutAt sep (xs ++ sep :: ys) = (xs :: (cutAt sep ys).1, (cutAt sep ys).2) := by
  induction xs with
  | nil => simp [cutAt]
  | cons a xs ih =>
    rw [List.mem_cons, not_or] at h
    have ha : ¬ a = sep := fun e => h.1 e.symm
    simp [cutAt, ih h.2, ha]

/-- What comes later can only end the rest. -/
theorem cutAt_append (sep : α) (xs ys : List α) :
    cutAt sep (xs ++ ys) =
      ((cutAt sep xs).1 ++ (cutAt sep ((cutAt sep xs).2 ++ ys)).1,
        (cutAt sep ((cutAt sep xs).2 ++ ys)).2) := by
  induction xs with
  | nil => rfl
  | cons a xs ih =>
    rw [List.cons_append, cutAt, ih, cutAt]
    rcases cutAt sep xs with ⟨done, rest⟩
    by_cases ha : a = sep
    · simp [ha]
    · -- the character goes in front of the first piece, which may be the rest
      cases done with
      | nil => simp [ha, cutAt]
      | cons piece pieces => simp [ha]

end

/-! ### One CR at the end -/

/-- One CR at the end is dropped, and no other. -/
theorem dropCR_concat_cr (t : Text) : dropCR (t ++ ['\r']) = t := by
  simp [dropCR]

/-- Nothing is dropped of a text that does not end in CR. -/
theorem dropCR_of_ne {t : Text} (h : t.getLast? ≠ some '\r') : dropCR t = t := by
  rw [dropCR]
  split
  · rename_i hl
    exact absurd hl h
  · rfl

/-- A text is what dropping its CR leaves, with the CR or without one. -/
theorem dropCR_cases (t : Text) :
    (t = dropCR t ++ ['\r']) ∨ (t = dropCR t ∧ t.getLast? ≠ some '\r') := by
  by_cases h : t.getLast? = some '\r'
  · obtain ⟨s, rfl⟩ := List.getLast?_eq_some_iff.1 h
    exact Or.inl (by rw [dropCR_concat_cr])
  · exact Or.inr ⟨(dropCR_of_ne h).symm, h⟩

/-- Dropping a CR adds no character. -/
theorem dropCR_subset (t : Text) : dropCR t ⊆ t := by
  unfold dropCR
  split
  · exact List.dropLast_subset t
  · exact List.Subset.refl t

/-! ### The lines of a text -/

/-- How a text is cut into the lines of a snippet file. -/
inductive HasLines : Text → List Text → Prop where
  /-- The empty text has no line. -/
  | nil : HasLines [] []
  /-- What stands after the last LF is a line, if it is not empty. -/
  | rest {line : Text} : line ≠ [] → '\n' ∉ line → HasLines line [line]
  /-- A line ends at LF. -/
  | lf {line t : Text} {lines : List Text} : '\n' ∉ line → line.getLast? ≠ some '\r' →
      HasLines t lines → HasLines (line ++ '\n' :: t) (line :: lines)
  /-- A CR directly before LF belongs to the end of the line. -/
  | crlf {line t : Text} {lines : List Text} : '\n' ∉ line →
      HasLines t lines → HasLines (line ++ '\r' :: '\n' :: t) (line :: lines)

@[simp] theorem fileLines_nil : fileLines [] = [] := rfl

/-- A text without LF is one line, if it is not empty. -/
theorem fileLines_of_not_mem {line : Text} (hne : line ≠ []) (h : '\n' ∉ line) :
    fileLines line = [line] := by
  rw [fileLines, cutAt_of_not_mem h]
  simp [hne]

/-- An LF ends the first line, and so does the CR before it. -/
theorem fileLines_append_lf {line : Text} (h : '\n' ∉ line) (t : Text) :
    fileLines (line ++ '\n' :: t) = dropCR line :: fileLines t := by
  rw [fileLines, cutAt_append_sep h, fileLines]
  rfl

/-- CR LF ends the first line as LF does. -/
theorem fileLines_append_crlf {line : Text} (h : '\n' ∉ line) (t : Text) :
    fileLines (line ++ '\r' :: '\n' :: t) = line :: fileLines t := by
  -- the CR is part of what stands before the LF, and it is dropped
  have h' : '\n' ∉ line ++ ['\r'] := by simp [h]
  have := fileLines_append_lf h' t
  rwa [dropCR_concat_cr, List.append_assoc] at this

/-- The lines that a text has are those that `fileLines` computes. -/
theorem HasLines.fileLines_eq {t : Text} {lines : List Text} (h : HasLines t lines) :
    fileLines t = lines := by
  induction h with
  | nil => rfl
  | rest hne hl => exact fileLines_of_not_mem hne hl
  | lf hl hcr _ ih => rw [fileLines_append_lf hl, dropCR_of_ne hcr, ih]
  | crlf hl _ ih => rw [fileLines_append_crlf hl, ih]

/-- Every text has lines; the recursion goes from one LF to the next. -/
theorem hasLines_fileLines (t : Text) : HasLines t (fileLines t) := by
  by_cases hlf : '\n' ∈ t
  · obtain ⟨line, r, rfl, hl⟩ := List.eq_append_cons_of_mem hlf
    have ih := hasLines_fileLines r
    rw [fileLines_append_lf hl]
    -- the line ends at LF, or at CR LF if it has a CR at its end
    rcases dropCR_cases line with hcr | ⟨hcr, hne⟩
    · have hl' : '\n' ∉ dropCR line := fun h => hl (dropCR_subset line h)
      have hr : line ++ '\n' :: r = dropCR line ++ '\r' :: '\n' :: r := by
        rw [hcr, dropCR_concat_cr, List.append_assoc]
        rfl
      rw [hr]
      exact HasLines.crlf hl' ih
    · rw [← hcr]
      exact HasLines.lf hl hne ih
  · cases t with
    | nil => exact HasLines.nil
    | cons c r =>
      rw [fileLines_of_not_mem (List.cons_ne_nil c r) hlf]
      exact HasLines.rest (List.cons_ne_nil c r) hlf
termination_by t.length

/-- The text ends where a line ends, or has no line. -/
def EndsLine (t : Text) : Prop := t = [] ∨ t.getLast? = some '\n'

instance (t : Text) : Decidable (EndsLine t) := inferInstanceAs (Decidable (_ ∨ _))

/-- What stands behind an LF ends in one if the whole text does, or nothing stands there. -/
theorem endsLine_of_append_lf {s t : Text} (h : EndsLine (s ++ '\n' :: t)) : EndsLine t := by
  rcases h with h | h
  · simp at h
  · cases t with
    | nil => exact Or.inl rfl
    | cons c r => exact Or.inr (by simpa [List.getLast?_append] using h)

/-- No line goes on behind a text that ends where a line ends. -/
theorem fileLines_append {s : Text} (h : EndsLine s) (t : Text) :
    fileLines (s ++ t) = fileLines s ++ fileLines t := by
  have hs := hasLines_fileLines s
  generalize fileLines s = lines at hs
  induction hs with
  | nil => rfl
  -- a line that is not ended cannot stand there
  | @rest line hne hlf =>
    rcases h with h | h
    · exact absurd h hne
    · exact absurd (List.mem_of_getLast? h) hlf
  | @lf line r lines hlf hcr _ ih =>
    rw [List.append_assoc, List.cons_append, fileLines_append_lf hlf, dropCR_of_ne hcr,
      ih (endsLine_of_append_lf h), List.cons_append]
  | @crlf line r lines hlf _ ih =>
    have hr : EndsLine r := by
      refine endsLine_of_append_lf (s := line ++ ['\r']) ?_
      simpa using h
    rw [List.append_assoc, List.cons_append, List.cons_append, fileLines_append_crlf hlf, ih hr,
      List.cons_append]

/-- No line holds an LF. -/
theorem not_mem_of_mem_fileLines {t line : Text} (h : line ∈ fileLines t) : '\n' ∉ line := by
  have hl := hasLines_fileLines t
  generalize fileLines t = lines at h hl
  induction hl with
  | nil => exact absurd h (List.not_mem_nil)
  | rest _ hlf =>
    rw [List.mem_singleton] at h
    exact h ▸ hlf
  | lf hlf _ _ ih => exact (List.mem_cons.1 h).elim (fun e => e ▸ hlf) ih
  | crlf hlf _ ih => exact (List.mem_cons.1 h).elim (fun e => e ▸ hlf) ih

/-! ### CRs put before LFs -/

/-- A CR has been put directly before some of the LFs. -/
inductive AddsReturns : Text → Text → Prop where
  /-- Nothing is put into the empty text. -/
  | nil : AddsReturns [] []
  /-- A character stays as it is. -/
  | keep {t t' : Text} (c : Char) : AddsReturns t t' → AddsReturns (c :: t) (c :: t')
  /-- A CR is put before an LF. -/
  | put {t t' : Text} : AddsReturns t t' → AddsReturns ('\n' :: t) ('\r' :: '\n' :: t')

/-- Where the two texts begin differently, a CR has to stand before an LF in the second one. -/
instance AddsReturns.decide : (t t' : Text) → Decidable (AddsReturns t t')
  | [], [] => isTrue .nil
  | [], _ :: _ => isFalse nofun
  | _ :: _, [] => isFalse nofun
  | c :: t, d :: t' =>
    if hcd : c = d then
      match AddsReturns.decide t t' with
      | isTrue h => isTrue (hcd ▸ .keep c h)
      | isFalse h => isFalse (by
          subst hcd
          rintro (_ | ⟨_, h'⟩ | _)
          exact h h')
    else
      match t' with
      | [] => isFalse (by
          rintro (_ | _ | _)
          exact hcd rfl)
      | e :: t' =>
        if hcr : c = '\n' ∧ d = '\r' ∧ e = '\n' then
          match AddsReturns.decide t t' with
          | isTrue h => isTrue (by
              obtain ⟨rfl, rfl, rfl⟩ := hcr
              exact .put h)
          | isFalse h => isFalse (by
              rintro (_ | _ | h')
              · exact hcd rfl
              · exact h h')
        else isFalse (by
          rintro (_ | _ | _)
          · exact hcd rfl
          · exact hcr ⟨rfl, rfl, rfl⟩)

/-- Without an LF there is no place for a CR. -/
theorem AddsReturns.eq_of_not_mem {t t' : Text} (h : AddsReturns t t') (hlf : '\n' ∉ t) :
    t' = t := by
  induction h with
  | nil => rfl
  | keep c _ ih => rw [ih fun hmem => hlf (List.mem_cons_of_mem c hmem)]
  | put _ _ => exact absurd List.mem_cons_self hlf

/-- The first line keeps its text; what can change is how it ends. -/
theorem AddsReturns.of_append_lf {line t t' : Text} (hlf : '\n' ∉ line)
    (h : AddsReturns (line ++ '\n' :: t) t') :
    ∃ r, AddsReturns t r ∧ (t' = line ++ '\n' :: r ∨ t' = line ++ '\r' :: '\n' :: r) := by
  induction line generalizing t' with
  -- the LF itself is next: it is kept, or a CR is put before it
  | nil =>
    cases h with
    | keep _ h => exact ⟨_, h, Or.inl rfl⟩
    | put h => exact ⟨_, h, Or.inr rfl⟩
  | cons c line ih =>
    rw [List.mem_cons, not_or] at hlf
    rw [List.cons_append] at h
    cases h with
    | keep _ h =>
      obtain ⟨r, hr, rfl | rfl⟩ := ih hlf.2 h
      · exact ⟨r, hr, Or.inl rfl⟩
      · exact ⟨r, hr, Or.inr rfl⟩
    | put _ => exact absurd rfl hlf.1

/-- A text without CR keeps its lines when CRs are put before its LFs. -/
theorem HasLines.addsReturns {t t' : Text} {lines : List Text} (hlines : HasLines t lines)
    (hcr : '\r' ∉ t) (h : AddsReturns t t') : HasLines t' lines := by
  induction hlines generalizing t' with
  | nil =>
    cases h
    exact .nil
  | rest hne hlf =>
    rw [h.eq_of_not_mem hlf]
    exact .rest hne hlf
  | lf hlf hlast _ ih =>
    have hrest : '\r' ∉ _ := fun hmem => hcr (List.mem_append_right _ (List.mem_cons_of_mem _ hmem))
    obtain ⟨r, hr, rfl | rfl⟩ := h.of_append_lf hlf
    · exact .lf hlf hlast (ih hrest hr)
    · exact .crlf hlf (ih hrest hr)
  -- there was no CR
  | crlf _ _ _ => simp at hcr

/-! ### Joining -/

/-- Joining texts is joining lists of characters. -/
theorem joinWith_eq_intercalate (sep : Text) (ts : List Text) :
    joinWith sep ts = sep.intercalate ts := by
  induction ts with
  | nil => rfl
  | cons t ts ih =>
    cases ts with
    | nil => exact List.intercalate_singleton.symm
    | cons u ts =>
      show t ++ sep ++ joinWith sep (u :: ts) = _
      rw [ih, List.intercalate_cons_cons]

end SnippetServer.Text
