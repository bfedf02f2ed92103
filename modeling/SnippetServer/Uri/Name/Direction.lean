import SnippetServer.Text.Basic
import SnippetServer.Text.Mark
import SnippetServer.Uri.Name.Direction.Table

namespace SnippetServer.Uri.Name

/-!
# Directions

A name with letters that are written from right to left has to read the same whichever way the text
around it goes.  Therefore every label of such a name has a direction, and what it may hold and end
with depends on it.

* `Direction`, `directionOf` — how a character is written;
* `hasOneDirection` — whether a label has a direction and keeps to it;
* `directionsFit` — whether the labels of a name go together.
-/

/-- How a character is written. -/
inductive Direction where
  /-- A letter that is written from left to right. -/
  | leftToRight
  /-- A letter that is written from right to left. -/
  | rightToLeft
  /-- A digit of an Arabic number. -/
  | arabicNumber
  /-- A digit of a European number. -/
  | europeanNumber
  /-- A mark, which takes the direction of the character before it. -/
  | mark
  /-- A character without a direction. -/
  | neutral
  deriving DecidableEq, Repr

/-- The marks without a place of their own that are letters where directions are concerned. -/
def letterMarks : List Nat := [0xCBF, 0xCC6, 0x11A07, 0x11A08, 0x11C3F]

/-- How a character is written. -/
def directionOf (c : Char) : Direction :=
  let n := c.toNat
  if Text.inRanges n Direction.lettersRightToLeft then .rightToLeft
  else if Text.inRanges n Direction.arabicNumbers then .arabicNumber
  else if Text.inRanges n Direction.europeanNumbers then .europeanNumber
  else if Text.inRanges n Direction.neutrals then .neutral
  else if Text.isNonspacingMark c && !letterMarks.contains n then .mark
  else .leftToRight

/-- Whether a label has a direction and keeps to it.  It has that of its first letter, ends with a
letter of that direction or a digit, marks apart, and a label from right to left holds numbers of
one kind only. -/
def hasOneDirection (label : Text) : Bool :=
  match label.map directionOf with
  | [] => true
  | .leftToRight :: rest =>
    let core := dropTrailing (· == .mark) rest
    core.all [.leftToRight, .europeanNumber, .neutral, .mark].contains &&
      core.getLast?.all [.leftToRight, .europeanNumber].contains
  | .rightToLeft :: rest =>
    let core := dropTrailing (· == .mark) rest
    !core.contains .leftToRight &&
      !(core.contains .europeanNumber && core.contains .arabicNumber) &&
      core.getLast?.all [.rightToLeft, .europeanNumber, .arabicNumber].contains
  | _ => false

/-- Whether a character makes the directions of a name matter; none below Hebrew does. -/
def isRightToLeft (c : Char) : Bool :=
  0x590 ≤ c.toNat && [.rightToLeft, .arabicNumber].contains (directionOf c)

/-- Whether the labels of a name go together. -/
def directionsFit (labels : List Text) : Bool :=
  !(labels.any (·.any isRightToLeft)) || labels.all hasOneDirection

end SnippetServer.Uri.Name
