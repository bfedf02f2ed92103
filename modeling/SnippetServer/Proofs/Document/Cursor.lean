import SnippetServer.Document.Basic
import SnippetServer.Proofs.Text.DocumentLines
import SnippetServer.Proofs.Text.Units

namespace SnippetServer.Document

open Text (IsLine charUnits units upToUnit)

/-!
# The line up to a cursor

A cursor stands at a column of a line, counted in UTF-16 units.  What is looked up for it is the
shortest part of the line, from its start to a boundary of characters, that reaches the column, or
the end of the line if that comes first.

* `IsCutAt line column s` — this, as a condition on the part `s`;
* `isCutAt_upToUnit`, `IsCutAt.unique` — `upToUnit` gives that part, and there is no other one;
* `isCutAt_boundary`, `isCutAt_pair`, `isCutAt_end` — which part it is, wherever the column falls;
* `LooksUpExactly text`, `lookup_is_exact` — what this says about the lines of a document.
-/

/-! ### Cutting a line at a column -/

/-- The part of a line up to a column: the shortest prefix that reaches the column, or the end. -/
structure IsCutAt (line : Text) (column : Nat) (s : Text) : Prop where
  /-- The line begins with it. -/
  begins : s <+: line
  /-- It reaches the column, or the end of the line. -/
  reaches : min column (units line) ≤ units s
  /-- No shorter prefix does. -/
  shortest : ∀ s', s' <+: line → min column (units line) ≤ units s' → s <+: s'

variable {line s t : Text} {m n : Nat}

/-- A column further to the right never gives less. -/
theorem IsCutAt.mono (hs : IsCutAt line m s) (ht : IsCutAt line n t) (h : m ≤ n) : s <+: t := by
  have hreaches := ht.reaches
  exact hs.shortest t ht.begins (by omega)

/-- A column cuts a line in one way. -/
theorem IsCutAt.unique (hs : IsCutAt line n s) (ht : IsCutAt line n t) : s = t := by
  -- each of the two is no longer than the other
  have hle : s <+: t := hs.mono ht (Nat.le_refl n)
  have hge : t <+: s := ht.mono hs (Nat.le_refl n)
  exact hle.eq_of_length_le hge.length_le

/-- The cut that is computed is one. -/
theorem isCutAt_upToUnit (line : Text) (n : Nat) : IsCutAt line n (upToUnit n line) where
  begins := Text.upToUnit_prefix n line
  reaches := by
    rw [Text.units_upToUnit]
    exact Text.min_le_stopColumn line n
  shortest := by
    intro s' hs' h
    refine Text.prefix_of_units_le (Text.upToUnit_prefix n line) hs' ?_
    rw [Text.units_upToUnit]
    exact Text.stopColumn_le_of_min_le hs' h

/-- A column on a boundary cuts the line there. -/
theorem isCutAt_boundary (front back : Text) :
    IsCutAt (front ++ back) (units front) front where
  begins := List.prefix_append front back
  reaches := Nat.min_le_left _ _
  shortest := by
    intro s' hs' h
    refine Text.prefix_of_units_le (List.prefix_append front back) hs' ?_
    rw [Text.units_append] at h
    omega

/-- A column between the two units of a character cuts the line behind that character. -/
theorem isCutAt_pair {c : Char} (hc : charUnits c = 2) (front back : Text) :
    IsCutAt (front ++ c :: back) (units front + 1) (front ++ [c]) where
  begins := ⟨back, by simp⟩
  reaches := by
    rw [Text.units_append, Text.units_append, Text.units_cons, Text.units_cons]
    omega
  shortest := by
    intro s' hs' h
    rw [Text.units_append, Text.units_cons] at h
    have hfront : front ++ [c] <+: front ++ c :: back := ⟨back, by simp⟩
    -- a prefix ends before the character, behind it, or further on
    rcases List.prefix_or_prefix_of_prefix hs' hfront with hle | hge
    · rcases List.prefix_concat_iff.1 hle with rfl | hle
      · exact List.prefix_rfl
      · -- what does not reach beyond `front` does not reach the column
        have := Text.units_mono hle
        omega
    · exact hge

/-- A column at the end of the line, or behind it, takes all of it. -/
theorem isCutAt_end (h : units line ≤ n) : IsCutAt line n line where
  begins := List.prefix_rfl
  reaches := Nat.min_le_right _ _
  shortest := by
    intro s' hs' hreaches
    refine Text.prefix_of_units_le List.prefix_rfl hs' ?_
    omega

/-! ### Looking up a cursor -/

/-- Nothing is looked up exactly if the number of the line is greater than that of the LFs. -/
theorem linePrefix?_ofText_eq_none_iff {text : Text} {p : Position} :
    (ofText text).linePrefix? p = none ↔ text.count '\n' < p.line := by
  rw [linePrefix?_eq_none_iff, lines_ofText, Text.length_documentLines, Nat.succ_le_iff]

/-- What is looked up is the part of the line up to the column. -/
theorem linePrefix?_ofText_eq_some_iff {text : Text} {p : Position} :
    (ofText text).linePrefix? p = some s ↔
      ∃ line, IsLine text p.line line ∧ IsCutAt line p.character s := by
  rw [linePrefix?, lines_ofText, Option.map_eq_some_iff]
  constructor
  · rintro ⟨line, hline, rfl⟩
    exact ⟨line, Text.getElem?_documentLines.1 hline, isCutAt_upToUnit line p.character⟩
  · rintro ⟨line, hline, hs⟩
    exact ⟨line, Text.getElem?_documentLines.2 hline, (isCutAt_upToUnit line _).unique hs⟩

/-- What is looked up in a document with a text. -/
structure LooksUpExactly (text : Text) : Prop where
  /-- There is nothing exactly behind the last line. -/
  none_iff : ∀ p, (ofText text).linePrefix? p = none ↔ text.count '\n' < p.line
  /-- Otherwise it is the shortest part of the line that reaches the column, or the end. -/
  some_iff : ∀ p s, (ofText text).linePrefix? p = some s ↔
    ∃ line, IsLine text p.line line ∧ IsCutAt line p.character s
  /-- In one line it grows with the column. -/
  mono : ∀ i {m n : Nat} {s t : Text}, m ≤ n → (ofText text).linePrefix? ⟨i, m⟩ = some s →
    (ofText text).linePrefix? ⟨i, n⟩ = some t → s <+: t
  /-- Up to a boundary of characters it is what stands in front of that boundary, and so it has as
  many units as the column says. -/
  boundary : ∀ i front back, IsLine text i (front ++ back) →
    (ofText text).linePrefix? ⟨i, units front⟩ = some front
  /-- Between the two units of a character it takes the whole character. -/
  pair : ∀ i front c back, IsLine text i (front ++ c :: back) → charUnits c = 2 →
    (ofText text).linePrefix? ⟨i, units front + 1⟩ = some (front ++ [c])
  /-- From the end of the line on it is the whole line. -/
  past_end : ∀ i line, IsLine text i line → ∀ n, units line ≤ n →
    (ofText text).linePrefix? ⟨i, n⟩ = some line

/-- **Cursors are looked up exactly.**  A document has one more line than its text has LFs.  Up to a
column of a line it gives the shortest part that ends on a boundary of characters and reaches the
column, and all of a line that is shorter. -/
theorem lookup_is_exact (text : Text) : LooksUpExactly text where
  none_iff := fun _ => linePrefix?_ofText_eq_none_iff
  some_iff := fun _ _ => linePrefix?_ofText_eq_some_iff
  mono := by
    intro i m n s t hmn hs ht
    obtain ⟨line, hline, hs⟩ := linePrefix?_ofText_eq_some_iff.1 hs
    obtain ⟨line', hline', ht⟩ := linePrefix?_ofText_eq_some_iff.1 ht
    obtain rfl := hline.unique hline'
    exact hs.mono ht hmn
  boundary := by
    intro i front back hline
    exact linePrefix?_ofText_eq_some_iff.2 ⟨_, hline, isCutAt_boundary front back⟩
  pair := by
    intro i front c back hline hc
    exact linePrefix?_ofText_eq_some_iff.2 ⟨_, hline, isCutAt_pair hc front back⟩
  past_end := by
    intro i line hline n hn
    exact linePrefix?_ofText_eq_some_iff.2 ⟨line, hline, isCutAt_end hn⟩

/-- The column stands inside the second character, in front of the CR that ends the line. -/
example : (ofText "代😀\r\nx".toList).linePrefix? ⟨0, 2⟩ = some "代😀".toList := by decide

end SnippetServer.Document
