import SnippetServer.Text.Basic
import SnippetServer.Text.Ranges
import SnippetServer.Text.LowerCase.Table

namespace SnippetServer.Text

/-!
# Lower-casing

The full lower-case mapping of a text.  All but two characters map on their own:

* `İ` (U+0130) becomes two characters, `i` and U+0307;
* `Σ` (U+03A3) becomes `ς` at the end of a word and `σ` elsewhere.  It stands at the end of a word
  when, leaving out case-ignorable characters, a cased one comes before it and none comes after.

Main definitions:

* `lower` — the mapping of a text;
* `startsCased` — what decides on `Σ`.
-/

/-- The lower-case character of one that maps to a single character. -/
def lowerChar (c : Char) : Char :=
  match lookUp c.toNat LowerCase.mappings with
  | some n => Char.ofNat n
  | none => c

/-- Whether the first character that is not case-ignorable exists and is cased. -/
def startsCased (t : Text) : Bool :=
  match t.dropWhile fun c => inRanges c.toNat LowerCase.caseIgnorable with
  | [] => false
  | c :: _ => inRanges c.toNat LowerCase.cased

/-- The lower-case mapping of `rest`, which follows the characters `before`, nearest first. -/
def lowerAfter (before : Text) : Text → Text
  | [] => []
  | c :: rest =>
    (if c = 'İ' then ['i', '\u0307']
      else if c = 'Σ' then [if startsCased before && !startsCased rest then 'ς' else 'σ']
      else [lowerChar c]) ++ lowerAfter (c :: before) rest

/-- The lower-case mapping of a text. -/
def lower (t : Text) : Text := lowerAfter [] t

@[simp] theorem lower_nil : lower [] = [] := rfl

end SnippetServer.Text
