import SnippetServer.Text.Units

namespace SnippetServer.Text

/-!
# Columns and boundaries

A column of a line falls on a boundary of characters, or between the two units of one character, or
past the end of the line.

* `InsidePair t n` — the second case;
* `splitColumn? n t` — the two parts of a text at a column that falls on a boundary, as an editor
  cuts it; there are none in the other two cases (`splitColumn?_eq_none_iff`);
* `stopColumn t n` — the boundary at which a cut at a column ends: the column itself, or the next
  boundary after it, or the end (`units_upToUnit`); no boundary in between is left out
  (`stopColumn_le_of_min_le`).
-/

/-! ### Cutting at a boundary -/

/-- The two parts of a text at a column, if the column falls on a boundary of characters. -/
def splitColumn? : Nat → Text → Option (Text × Text)
  | 0, t => some ([], t)
  | _ + 1, [] => none
  | n + 1, c :: r =>
    if charUnits c ≤ n + 1 then
      (splitColumn? (n + 1 - charUnits c) r).map fun (front, back) => (c :: front, back)
    else none

/-- A column inside the first character, or past the end, is no boundary; any other one is a column
of the rest. -/
theorem splitColumn?_cons {n : Nat} (hn : 0 < n) (c : Char) (r : Text) : splitColumn? n (c :: r) =
    if charUnits c ≤ n then
      (splitColumn? (n - charUnits c) r).map fun (front, back) => (c :: front, back)
    else none := by
  cases n with
  | zero => exact absurd hn (Nat.lt_irrefl 0)
  | succ n => rfl

/-- At the column where its front ends, a text is cut behind that front. -/
theorem splitColumn?_append (front back : Text) :
    splitColumn? (units front) (front ++ back) = some (front, back) := by
  induction front with
  | nil => rw [units_nil, splitColumn?]; rfl
  | cons c front ih =>
    -- no character is empty, so the column is not that of the start
    have hc := charUnits_pos c
    rw [units_cons, List.cons_append, splitColumn?_cons (by omega), if_pos (by omega),
      Nat.add_sub_cancel_left, ih]
    rfl

/-- The two parts are what stands before the column and what stands after it. -/
theorem splitColumn?_eq_some_iff {n : Nat} {t front back : Text} :
    splitColumn? n t = some (front, back) ↔ t = front ++ back ∧ units front = n := by
  constructor
  · intro h
    -- the column moves to the left by every character that stands before it
    induction t generalizing n front with
    | nil =>
      cases n with
      | zero =>
        obtain ⟨rfl, rfl⟩ := Prod.mk.inj (Option.some.inj h)
        exact ⟨rfl, rfl⟩
      | succ n => exact absurd h (by simp [splitColumn?])
    | cons c r ih =>
      rcases Nat.eq_zero_or_pos n with rfl | hn
      · rw [splitColumn?] at h
        obtain ⟨rfl, rfl⟩ := Prod.mk.inj (Option.some.inj h)
        exact ⟨rfl, rfl⟩
      · rw [splitColumn?_cons hn] at h
        split at h
        · -- the first character stands before the column, and the rest is cut
          rename_i hc
          obtain ⟨⟨front', back'⟩, hr, he⟩ := Option.map_eq_some_iff.1 h
          obtain ⟨rfl, rfl⟩ := Prod.mk.inj he
          obtain ⟨rfl, hu⟩ := ih hr
          refine ⟨rfl, ?_⟩
          rw [units_cons, hu]
          omega
        · exact absurd h (by simp)
  · rintro ⟨rfl, rfl⟩
    exact splitColumn?_append front back

/-- Two prefixes of one text that end at the same column are the same. -/
theorem append_inj_of_units_eq {s s' r r' : Text} (h : s ++ r = s' ++ r')
    (hu : units s = units s') : s = s' ∧ r = r' := by
  have hs : splitColumn? (units s) (s ++ r) = some (s', r') :=
    splitColumn?_eq_some_iff.2 ⟨h, hu.symm⟩
  rw [splitColumn?_append] at hs
  exact Prod.mk.inj (Option.some.inj hs)

/-- A prefix ends at no later column. -/
theorem units_mono {s t : Text} (h : s <+: t) : units s ≤ units t := by
  obtain ⟨r, rfl⟩ := h
  rw [units_append]
  omega

/-- Of two prefixes of one text, the one that ends at no later column is a prefix of the other. -/
theorem prefix_of_units_le {s s' t : Text} (hs : s <+: t) (hs' : s' <+: t)
    (h : units s ≤ units s') : s <+: s' := by
  rcases List.prefix_or_prefix_of_prefix hs hs' with hpre | hpre
  · exact hpre
  · -- then both end at the same column
    have heq : units s = units s' := Nat.le_antisymm h (units_mono hpre)
    obtain ⟨r, hr⟩ := hpre
    have hnil : s' ++ r = s ++ [] := by rw [hr, List.append_nil]
    obtain rfl := (append_inj_of_units_eq hnil heq.symm).1
    exact List.prefix_rfl

/-! ### Columns inside a character -/

/-- Whether a column falls between the two units of one character. -/
def InsidePair (t : Text) (n : Nat) : Prop :=
  ∃ front c back, t = front ++ c :: back ∧ charUnits c = 2 ∧ n = units front + 1

/-- A character has two units at most. -/
theorem charUnits_le_two (c : Char) : charUnits c ≤ 2 := by
  unfold charUnits
  split <;> decide

/-- In the empty text there is no character to be inside of. -/
theorem not_insidePair_nil (n : Nat) : ¬ InsidePair [] n := by
  rintro ⟨front, c, back, h, -, -⟩
  exact absurd h (by simp)

/-- A column is inside the first character, or inside one of the rest. -/
theorem insidePair_cons {c : Char} {r : Text} {n : Nat} : InsidePair (c :: r) n ↔
    (charUnits c = 2 ∧ n = 1) ∨ (charUnits c ≤ n ∧ InsidePair r (n - charUnits c)) := by
  constructor
  · -- the character is the first one, or one of the rest
    rintro ⟨front, d, back, h, hd, hn⟩
    cases front with
    | nil =>
      obtain ⟨rfl, rfl⟩ := List.cons.inj h
      exact Or.inl ⟨hd, hn⟩
    | cons e front =>
      obtain ⟨rfl, rfl⟩ := List.cons.inj h
      rw [units_cons] at hn
      exact Or.inr ⟨by omega, front, d, back, rfl, hd, by omega⟩
  · rintro (⟨hc, hn⟩ | ⟨hc, front, d, back, rfl, hd, hn⟩)
    · exact ⟨[], c, r, rfl, hc, hn⟩
    · refine ⟨c :: front, d, back, rfl, hd, ?_⟩
      rw [units_cons]
      omega

/-- Columns that are no boundary are inside a character or past the end. -/
theorem splitColumn?_eq_none_iff {t : Text} {n : Nat} :
    splitColumn? n t = none ↔ InsidePair t n ∨ units t < n := by
  -- the cut goes from character to character until the column is reached or passed
  induction t generalizing n with
  | nil =>
    cases n with
    | zero => simp [splitColumn?, not_insidePair_nil]
    | succ n => simp [splitColumn?]
  | cons c r ih =>
    have hp := charUnits_pos c
    have h2 := charUnits_le_two c
    rw [insidePair_cons, units_cons]
    rcases Nat.eq_zero_or_pos n with rfl | hn
    · rw [splitColumn?]
      constructor
      · exact fun h => absurd h (by simp)
      · rintro ((⟨-, h⟩ | ⟨h, -⟩) | h)
        all_goals omega
    · rw [splitColumn?_cons hn]
      by_cases hc : charUnits c ≤ n
      · -- the column is not inside the first character, so the rest decides
        rw [if_pos hc, Option.map_eq_none_iff, ih]
        constructor
        · rintro (h | h)
          · exact Or.inl (Or.inr ⟨hc, h⟩)
          · exact Or.inr (by omega)
        · rintro ((⟨h, h'⟩ | ⟨-, h⟩) | h)
          · omega
          · exact Or.inl h
          · exact Or.inr (by omega)
      · -- a column before the end of a character but not at its start is inside it
        rw [if_neg hc]
        exact ⟨fun _ => Or.inl (Or.inl ⟨by omega, by omega⟩), fun _ => rfl⟩

/-- A column inside a character is not past the end. -/
theorem InsidePair.lt_units {t : Text} {n : Nat} (h : InsidePair t n) : n < units t := by
  obtain ⟨front, c, back, rfl, hc, rfl⟩ := h
  rw [units_append, units_cons]
  omega

instance (t : Text) (n : Nat) : Decidable (InsidePair t n) :=
  decidable_of_iff (splitColumn? n t = none ∧ n < units t) <| by
    rw [splitColumn?_eq_none_iff]
    exact ⟨fun ⟨h, hn⟩ => h.resolve_right (by omega), fun h => ⟨Or.inl h, h.lt_units⟩⟩

/-! ### The end of a cut -/

/-- The boundary at which a cut at a column ends.  A cut inside a character takes all of it, and a
cut past the end takes the whole text. -/
def stopColumn (t : Text) (n : Nat) : Nat := if InsidePair t n then n + 1 else min n (units t)

/-- A cut does not end before its column, unless the text does. -/
theorem min_le_stopColumn (t : Text) (n : Nat) : min n (units t) ≤ stopColumn t n := by
  unfold stopColumn
  split <;> omega

/-- A cut ends in the text. -/
theorem stopColumn_le_units (t : Text) (n : Nat) : stopColumn t n ≤ units t := by
  unfold stopColumn
  split
  · rename_i h
    have := h.lt_units
    omega
  · omega

/-- A cut at the start ends there. -/
theorem stopColumn_zero (t : Text) : stopColumn t 0 = 0 := by
  have h : ¬ InsidePair t 0 := by
    rintro ⟨front, c, back, -, -, hn⟩
    omega
  rw [stopColumn, if_neg h, Nat.zero_min]

/-- The first character is one boundary, or the cut ends after it. -/
theorem stopColumn_cons {n : Nat} (hn : 0 < n) (c : Char) (r : Text) :
    stopColumn (c :: r) n = charUnits c + stopColumn r (n - charUnits c) := by
  have hp := charUnits_pos c
  have h2 := charUnits_le_two c
  by_cases hc : charUnits c ≤ n
  · -- behind the first character the column is inside a pair exactly if it is one of the rest
    have hi : InsidePair (c :: r) n ↔ InsidePair r (n - charUnits c) := by
      rw [insidePair_cons]
      constructor
      · rintro (⟨h, h'⟩ | ⟨-, h⟩)
        · omega
        · exact h
      · exact fun h => Or.inr ⟨hc, h⟩
    rw [stopColumn, stopColumn, units_cons]
    by_cases hr : InsidePair r (n - charUnits c)
    · rw [if_pos (hi.2 hr), if_pos hr]
      omega
    · rw [if_neg fun h => hr (hi.1 h), if_neg hr]
      omega
  · -- The column is inside the first character, and the rest is not cut.
    have hi : InsidePair (c :: r) n := insidePair_cons.2 (Or.inl ⟨by omega, by omega⟩)
    have h0 : n - charUnits c = 0 := by omega
    rw [h0, stopColumn_zero, stopColumn, if_pos hi]
    omega

/-- No boundary at the column or after it, or at the end of the text, comes before the end of the
cut. -/
theorem stopColumn_le_of_min_le {t s : Text} {n : Nat} (hs : s <+: t)
    (h : min n (units t) ≤ units s) : stopColumn t n ≤ units s := by
  unfold stopColumn
  split
  · -- a column inside a character is before the end and no boundary, so `s` goes beyond it
    rename_i hpair
    have hlt := hpair.lt_units
    have hne : units s ≠ n := by
      rintro rfl
      obtain ⟨r, rfl⟩ := hs
      have hnone := splitColumn?_eq_none_iff.2 (Or.inl hpair)
      rw [splitColumn?_append] at hnone
      exact absurd hnone (by simp)
    omega
  · exact h

/-- **Where a cut ends.**  The prefix up to a column ends at the boundary of the cut. -/
theorem units_upToUnit (n : Nat) (t : Text) : units (upToUnit n t) = stopColumn t n := by
  induction t generalizing n with
  | nil => simp [upToUnit, stopColumn, not_insidePair_nil]
  | cons c r ih =>
    rcases Nat.eq_zero_or_pos n with rfl | hn
    · rw [stopColumn_zero]
      rfl
    · rw [upToUnit, if_neg (by omega), units_cons, ih, stopColumn_cons hn]

end SnippetServer.Text
