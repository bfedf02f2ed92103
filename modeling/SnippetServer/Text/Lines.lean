import SnippetServer.Text.Basic

namespace SnippetServer.Text

/-!
# Lines

A sequence is cut at every separator.  The pieces before a separator are *terminated*; what stands
after the last one is the *rest*, possibly empty.  The two ways to read a text as lines differ only
in what they do with the rest:

* `fileLines` — the lines of a snippet file: the rest is a line only if it is not empty, and it
  keeps a CR at its end;
* `documentLines` — the lines of an open document: the rest always is a line, so there is a line 0
  even in an empty text, and every line loses one CR at its end.
-/

variable {α : Type _} [DecidableEq α]

/-- The terminated pieces, in order and without their separators, and the rest. -/
def cutAt (sep : α) : List α → List (List α) × List α
  | [] => ([], [])
  | a :: r =>
    match cutAt sep r with
    | (done, rest) =>
      if a = sep then ([] :: done, rest)
      else match done with
        | [] => ([], a :: rest)
        | piece :: pieces => ((a :: piece) :: pieces, rest)

/-- The text without one CR at its end. -/
def dropCR (t : Text) : Text :=
  match t.getLast? with
  | some '\r' => t.dropLast
  | _ => t

/-- The lines of a snippet file. -/
def fileLines (t : Text) : List Text :=
  match cutAt '\n' t with
  | (done, rest) => done.map dropCR ++ (if rest.isEmpty then [] else [rest])

/-- The lines of an open document; there is always at least one. -/
def documentLines (t : Text) : List Text :=
  match cutAt '\n' t with
  | (done, rest) => (done ++ [rest]).map dropCR

/-- Texts joined by a separator that stands between neighbours only. -/
def joinWith (sep : Text) : List Text → Text
  | [] => []
  | [t] => t
  | t :: ts => t ++ sep ++ joinWith sep ts

/-! ### Nothing is lost, and no piece holds a separator -/

/-- The pieces, each with its separator, and the rest are the list that has been cut. -/
theorem cutAt_join (sep : α) (xs : List α) :
    (cutAt sep xs).1.flatMap (· ++ [sep]) ++ (cutAt sep xs).2 = xs := by
  induction xs with
  | nil => rfl
  | cons a r ih =>
    rw [cutAt]
    rcases h : cutAt sep r with ⟨done, rest⟩
    rw [h] at ih
    by_cases ha : a = sep
    · simpa [ha] using ih
    · cases done with
      | nil => simpa [ha] using ih
      | cons piece pieces => simpa [ha] using ih

/-- No separator is left in a piece, nor in the rest. -/
theorem not_mem_cutAt (sep : α) (xs : List α) :
    (∀ piece ∈ (cutAt sep xs).1, sep ∉ piece) ∧ sep ∉ (cutAt sep xs).2 := by
  induction xs with
  | nil => simp [cutAt]
  | cons a r ih =>
    rw [cutAt]
    rcases h : cutAt sep r with ⟨done, rest⟩
    rw [h] at ih
    by_cases ha : a = sep
    · simpa [ha] using ih
    · have hs : sep ≠ a := fun e => ha e.symm
      cases done with
      | nil => simpa [ha, hs] using ih
      | cons piece pieces => simpa [ha, hs] using ih

/-- A list without separators is not cut. -/
theorem cutAt_of_not_mem {sep : α} {xs : List α} (h : sep ∉ xs) : cutAt sep xs = ([], xs) := by
  induction xs with
  | nil => rfl
  | cons a r ih =>
    rw [List.mem_cons, not_or] at h
    have ha : ¬ a = sep := fun e => h.1 e.symm
    simp [cutAt, ih h.2, ha]

/-- A document has a line, even if it is empty. -/
theorem documentLines_ne_nil (t : Text) : documentLines t ≠ [] := by
  simp [documentLines]

end SnippetServer.Text
