import SnippetServer.Document.Header
import SnippetServer.Text.Lines
import SnippetServer.Text.Units

namespace SnippetServer

/-!
# Open documents

A document is the list of its lines, of which there always is at least one, with the status that
the first of them gives it: it is an event source file, or it is not.

* `Document.ofText` — the document with a text;
* `Document.replace` — replaces the whole text and tells whether that status has changed;
* `Document.linePrefix?` — the line of a cursor, up to the cursor.
-/

/-- A place in a document: a line and a column in UTF-16 units, both counted from zero. -/
structure Position where
  /-- The line. -/
  line : Nat
  /-- The column. -/
  character : Nat
  deriving DecidableEq, Repr

/-- An open document. -/
structure Document where
  /-- Its lines without their ends. -/
  lines : List Text
  /-- There always is a first line. -/
  lines_ne_nil : lines ≠ []
  /-- Whether it is an event source file. -/
  isEventFile : Bool
  /-- It is one if its first line is a header. -/
  isEventFile_eq : isEventFile = Document.isHeader (lines.head lines_ne_nil)
  deriving DecidableEq, Repr

namespace Document

/-- The document with the given text. -/
def ofText (text : Text) : Document :=
  { lines := Text.documentLines text
    lines_ne_nil := Text.documentLines_ne_nil text
    isEventFile := isHeader ((Text.documentLines text).head (Text.documentLines_ne_nil text))
    isEventFile_eq := rfl }

/-- The first line. -/
def firstLine (d : Document) : Text := d.lines.head d.lines_ne_nil

/-- The document with a new text, and whether it has become or ceased to be an event source
file. -/
def replace (d : Document) (text : Text) : Document × Bool :=
  let new := ofText text
  (new, new.isEventFile != d.isEventFile)

/-- The line of a position up to that position, or all of it if it is shorter; nothing if there is
no such line. -/
def linePrefix? (d : Document) (p : Position) : Option Text :=
  (d.lines[p.line]?).map (Text.upToUnit p.character)

/-- The lines of a document are those of its text. -/
@[simp] theorem lines_ofText (text : Text) : (ofText text).lines = Text.documentLines text := rfl

/-- What a document was before does not show in what it becomes. -/
@[simp] theorem replace_fst (d : Document) (text : Text) : (d.replace text).1 = ofText text := rfl

/-- A position has no line exactly if it is behind the last one. -/
theorem linePrefix?_eq_none_iff {d : Document} {p : Position} :
    d.linePrefix? p = none ↔ d.lines.length ≤ p.line := by
  simp [linePrefix?]

end Document

end SnippetServer
