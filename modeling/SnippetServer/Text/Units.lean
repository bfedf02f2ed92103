import SnippetServer.Text.Basic

namespace SnippetServer.Text

/-!
# UTF-16 columns

Editors count columns in UTF-16 code units: one for a character of the basic plane, two for every
other.

* `units t` — the number of units of a text;
* `upToUnit n t` — the shortest prefix of `t` with at least `n` units, all of `t` if there is none.
  A cut inside a pair of units takes the whole character.
-/

/-- The number of UTF-16 units of one character. -/
def charUnits (c : Char) : Nat := if c.toNat < 0x10000 then 1 else 2

/-- The number of UTF-16 units of a text. -/
def units : Text → Nat
  | [] => 0
  | c :: r => charUnits c + units r

/-- The shortest prefix with at least `n` units, or the whole text. -/
def upToUnit : Nat → Text → Text
  | _, [] => []
  | n, c :: r => if n = 0 then [] else c :: upToUnit (n - charUnits c) r

@[simp] theorem units_nil : units [] = 0 := rfl

/-- The first character counts, and then the others. -/
@[simp] theorem units_cons (c : Char) (t : Text) : units (c :: t) = charUnits c + units t := rfl

/-- Two texts in a row have the units of both. -/
@[simp] theorem units_append (s t : Text) : units (s ++ t) = units s + units t := by
  induction s with
  | nil => simp
  | cons c r ih => simp [ih, Nat.add_assoc]

/-- No character is without a unit. -/
theorem charUnits_pos (c : Char) : 0 < charUnits c := by
  unfold charUnits; split <;> decide

/-- What stands in front of a column is a prefix of the text. -/
theorem upToUnit_prefix (n : Nat) (t : Text) : upToUnit n t <+: t := by
  induction t generalizing n with
  | nil => exact List.nil_prefix
  | cons c r ih =>
    unfold upToUnit
    split
    · exact List.nil_prefix
    · exact List.cons_prefix_cons.2 ⟨rfl, ih _⟩

end SnippetServer.Text
