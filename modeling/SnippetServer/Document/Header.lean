import SnippetServer.Text.Blank

namespace SnippetServer.Document

/-!
# The header of an event source file

An event source file is known by its first line: between blanks, and in front of a comment, it
holds the title of the format in one of its spellings.

* `title` — the spellings, character by character;
* `isHeader` — whether a line is the header of an event source file.
-/

/-- The characters that can stand at each place of the title. -/
def title : List (List Char) :=
  [['太'], ['閣', '阁'], ['立'], ['志'], ['傳', '传'], ['５', '5'], ['事'], ['件'], ['源'], ['文'],
    ['件']]

/-- Whether a text is one of the spellings. -/
def spells : List (List Char) → Text → Bool
  | [], [] => true
  | place :: places, c :: r => place.contains c && spells places r
  | _, _ => false

/-- The part of a line in front of the first `//`. -/
def beforeComment : Text → Text
  | '/' :: '/' :: _ => []
  | c :: r => c :: beforeComment r
  | [] => []

/-- The line without one byte-order mark in front. -/
def afterMark : Text → Text
  | '\ufeff' :: r => r
  | t => t

/-- Whether a line is the header of an event source file. -/
def isHeader (line : Text) : Bool := spells title (Text.trim (beforeComment (afterMark line)))

end SnippetServer.Document
