import SnippetServer.Text.Composed
import SnippetServer.Text.Lines
import SnippetServer.Text.Mark
import SnippetServer.Uri.Name.Direction
import SnippetServer.Uri.Name.Joiner
import SnippetServer.Uri.Name.Table
import SnippetServer.Uri.Punycode

namespace SnippetServer.Uri.Name

/-!
# Domain names

A domain name is a sequence of labels with points between them.  Names that people write hold
characters of all scripts.  Such a name is first brought into a standard form, in which capital
letters, compatibility forms and the order of marks make no difference, and then every label with
characters outside ASCII is written in Punycode behind a prefix.

* `standard?` — the standard form of a name;
* `readLabel?` — the characters that a label of the standard form stands for;
* `isLabel` — whether these characters make a label;
* `ascii?` — the ASCII form of a name.
-/

/-- Whether a text holds ASCII characters only. -/
def isAscii (t : Text) : Bool := t.all fun c => c.toNat < 0x80

/-- The labels of a name. -/
def labels (name : Text) : List Text :=
  match Text.cutAt '.' name with
  | (done, rest) => done ++ [rest]

/-! ### The standard form -/

/-- The characters that a character of a name stands for; nothing if no name can hold it. -/
def replacement? (c : Char) : Option Text :=
  let n := c.toNat
  if n < 0x80 then some [c.toLower]
  else if Text.inRanges n ignored then some []
  else if Text.inRanges n refused then none
  else match Text.lookUp n mappedRuns with
    | some m => some [Char.ofNat m]
    | none =>
      match mapped.lookup n with
      | some ms => some (ms.map Char.ofNat)
      | none => some [c]

/-- The standard form of a name. -/
def standard? (name : Text) : Option Text :=
  (name.mapM replacement?).map fun parts => Text.compose parts.flatten

/-! ### Labels -/

/-- What stands in front of a label in Punycode. -/
def punycodeMark : Text := ['x', 'n', '-', '-']

/-- The most characters of Punycode that are read. -/
def longestForm : Nat := 2000

/-- The most characters of a label that are written in Punycode. -/
def longestLabel : Nat := 1000

/-- The characters that a label in Punycode stands for, without the mark in front.  They have to be
in the standard form, and not all of them in ASCII, so that no two labels stand for the same. -/
def readForm? (form : Text) : Option Text := do
  if !isAscii form || longestForm < form.length || form.getLast?.all (· == '-') then none
  (Punycode.decode? form).filter fun label => standard? label == some label

/-- The characters that a label of the standard form stands for. -/
def readLabel? (label : Text) : Option Text :=
  if punycodeMark.isPrefixOf label then readForm? (label.drop punycodeMark.length) else some label

/-- Whether characters make a label: no mark comes first, and joiners stand where they matter. -/
def isLabel (label : Text) : Bool :=
  isAscii label ||
    (!label.head?.any Text.isMark && joinersFit label && label.length ≤ longestLabel)

/-- The ASCII form of a label. -/
def asciiLabel (label : Text) : Text :=
  if isAscii label then label else punycodeMark ++ Punycode.encode label

/-- The ASCII form of a name. -/
def ascii? (name : Text) : Option Text := do
  let parts := labels (← standard? name)
  let read ← parts.mapM readLabel?
  if read.all isLabel && directionsFit read then
    some (Text.joinWith ['.'] (parts.map asciiLabel))
  else none

end SnippetServer.Uri.Name
