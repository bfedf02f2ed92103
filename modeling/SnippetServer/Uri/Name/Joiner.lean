import SnippetServer.Text.Composed
import SnippetServer.Text.Mark
import SnippetServer.Uri.Name.Joiner.Table

namespace SnippetServer.Uri.Name

/-!
# Joiners

Two characters that do not show tell how letters join.  A label may hold them only where they make a
difference: behind a virama, which turns two consonants into a conjunct, and, for the one that keeps
letters apart, between two letters that would join.

* `joinersFit` — whether all joiners of a label stand at such places.
-/

/-- Keeps two letters apart. -/
def nonJoiner : Char := '\u200C'

/-- Makes two letters join. -/
def joiner : Char := '\u200D'

/-- Whether letters join over a character. -/
def isTransparent (c : Char) : Bool := Text.isNonspacingMark c || c.toNat == 0x1E94B

/-- Whether the first character that letters do not join over joins on the given side. -/
def startsJoining (side : List (Nat × Nat)) (t : Text) : Bool :=
  match t.dropWhile isTransparent with
  | [] => false
  | c :: _ => Text.inRanges c.toNat Joiner.dual || Text.inRanges c.toNat side

/-- The combining class of viramas. -/
def viramaClass : Nat := 9

/-- Whether the joiners of `rest`, which follows the characters `before`, nearest first, stand at
places where they make a difference. -/
def joinersFitAfter (before : Text) : Text → Bool
  | [] => true
  | c :: rest =>
    ((c != joiner && c != nonJoiner) ||
      (before.head?.any fun b => Text.combiningClass b == viramaClass) ||
      (c == nonJoiner && startsJoining Joiner.left before && startsJoining Joiner.right rest)) &&
      joinersFitAfter (c :: before) rest

/-- Whether the joiners of a label stand at places where they make a difference. -/
def joinersFit (label : Text) : Bool := joinersFitAfter [] label

end SnippetServer.Uri.Name
