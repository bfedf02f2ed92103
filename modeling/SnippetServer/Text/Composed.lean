import SnippetServer.Text.Basic
import SnippetServer.Text.Composed.Table

namespace SnippetServer.Text

/-!
# Composed texts

Some characters can be written as one or as several.  A text is composed when each of them is
written with as few characters as possible, and marks that may change places stand in a fixed
order.

* `combiningClass` — the class of a mark; marks of different classes may change places;
* `decompose` — a text with every composite taken apart;
* `inClassOrder` — a text whose marks stand in the order of their classes;
* `compose` — the composed form of a text.

The tables hold the composites that composed texts may contain.  There are characters that never
stand in a composed text, and `compose` leaves them as they are.
-/

/-- The combining class of a character; it is zero for all characters but some marks. -/
def combiningClass (c : Char) : Nat :=
  if c.toNat < 0x300 then 0
  else match Composed.classes.find? fun (lo, hi, _) => lo ≤ c.toNat && c.toNat ≤ hi with
    | some (_, _, k) => k
    | none => 0

/-! ### Pairs -/

/-- The parts of a Hangul syllable: what it is without its last letter, and that letter. -/
def syllableParts? (c : Char) : Option (Char × Char) :=
  let n := c.toNat - 0xAC00
  if c.toNat < 0xAC00 || 0xD7A3 < c.toNat then none
  else if n % 28 = 0 then
    some (Char.ofNat (0x1100 + n / 588), Char.ofNat (0x1161 + n % 588 / 28))
  else some (Char.ofNat (c.toNat - n % 28), Char.ofNat (0x11A7 + n % 28))

/-- The Hangul syllable that has these parts. -/
def syllable? (a b : Char) : Option Char :=
  let first := a.toNat - 0x1100
  let vowel := b.toNat - 0x1161
  let unclosed := a.toNat - 0xAC00
  let last := b.toNat - 0x11A7
  if 0x1100 ≤ a.toNat && first < 19 && 0x1161 ≤ b.toNat && vowel < 21 then
    some (Char.ofNat (0xAC00 + (first * 21 + vowel) * 28))
  else if 0xAC00 ≤ a.toNat && unclosed < 11172 && unclosed % 28 = 0 && 0x11A7 < b.toNat &&
      last < 28 then
    some (Char.ofNat (a.toNat + last))
  else none

/-- The two characters that a composite stands for. -/
def parts? (c : Char) : Option (Char × Char) :=
  if c.toNat < 0xC0 then none
  else match syllableParts? c with
    | some parts => some parts
    | none =>
      (Composed.composites.find? fun (_, _, n) => n = c.toNat).map fun (a, b, _) =>
        (Char.ofNat a, Char.ofNat b)

/-- The composite of two characters. -/
def composite? (a b : Char) : Option Char :=
  if b.toNat < 0x300 then none
  else match syllable? a b with
    | some c => some c
    | none =>
      (Composed.composites.find? fun (m, n, _) => m = a.toNat && n = b.toNat).map fun (_, _, c) =>
        Char.ofNat c

/-! ### Taking apart and putting together -/

/-- The characters that a composite stands for, when it is taken apart so many times. -/
def decomposeChar : (times : Nat) → Char → Text
  | 0, c => [c]
  | times + 1, c =>
    match parts? c with
    | none => [c]
    | some (a, b) => decomposeChar times a ++ [b]

/-- A text with every composite taken apart.  None has to be taken apart more than three times. -/
def decompose (t : Text) : Text := t.flatMap (decomposeChar 3)

/-- A text whose marks stand in the order of their classes, behind the marks `run`; those of one
class keep their order. -/
def inClassOrder (run : Text) : Text → Text
  | [] => sorted run
  | c :: rest =>
    if combiningClass c = 0 then sorted run ++ c :: inClassOrder [] rest
    else inClassOrder (run ++ [c]) rest
where
  /-- Marks in the order of their classes. -/
  sorted (run : Text) : Text := run.mergeSort fun a b => combiningClass a ≤ combiningClass b

/-- The composed form of a text in class order, behind the character `base` and the marks `marks`
that do not compose with it.  A mark reaches the base over marks of smaller classes only. -/
def composeAfter (base : Char) (marks : Text) : Text → Text
  | [] => base :: marks
  | c :: rest =>
    let reaches := match marks.getLast? with
      | none => true
      | some m => combiningClass m < combiningClass c
    match if reaches then composite? base c else none with
    | some new => composeAfter new marks rest
    | none =>
      if combiningClass c = 0 then base :: marks ++ composeAfter c [] rest
      else composeAfter base (marks ++ [c]) rest

/-- The composed form of a text. -/
def compose (t : Text) : Text :=
  let apart := inClassOrder [] (decompose t)
  let leading := apart.takeWhile fun c => combiningClass c ≠ 0
  match apart.drop leading.length with
  | [] => leading
  | c :: rest => leading ++ composeAfter c [] rest

@[simp] theorem compose_nil : compose [] = [] := by
  simp [compose, decompose, inClassOrder, inClassOrder.sorted]

end SnippetServer.Text
