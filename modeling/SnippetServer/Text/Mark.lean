import SnippetServer.Text.Mark.Table

namespace SnippetServer.Text

/-!
# Marks

A mark belongs to the character before it: an accent, a vowel sign, an enclosing circle.

* `isNonspacingMark` — whether a character is a mark that takes up no space;
* `isMark` — whether it is a mark of any kind.
-/

/-- Whether a character is a mark that takes up no space. -/
def isNonspacingMark (c : Char) : Bool := inRanges c.toNat Mark.nonspacing

/-- Whether a character is a mark. -/
def isMark (c : Char) : Bool := isNonspacingMark c || inRanges c.toNat Mark.spacing

end SnippetServer.Text
