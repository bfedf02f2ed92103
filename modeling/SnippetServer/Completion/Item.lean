import SnippetServer.Completion.Candidate
import SnippetServer.Document.Basic

namespace SnippetServer.Completion

open Snippet

/-!
# Completion items

A candidate at a position of a document is an item that the client can insert.  Its edit replaces
exactly the token in front of the cursor, so that the client's own idea of a word cannot take a
neighbour of the other class with it.

* `Edit` — a replacement in a document;
* `Item` — an item;
* `itemsAt` — the items at a position.
-/

/-- A replacement of part of one line. -/
structure Edit where
  /-- The line. -/
  line : Nat
  /-- The columns that are replaced. -/
  span : Span
  /-- What stands there afterwards. -/
  newText : Text
  deriving DecidableEq, Repr

/-- A completion item. -/
structure Item where
  /-- The name that is shown. -/
  label : Text
  /-- The triggers, as they are shown. -/
  detail : Text
  /-- What is shown about the item: the body as a block of code. -/
  documentation : Text
  /-- What the client sorts by. -/
  sortText : Text
  /-- What the client matches against. -/
  filterText : Text
  /-- What is inserted. -/
  insertText : Text
  /-- The edit that inserts it in the place of the token. -/
  edit : Option Edit
  deriving DecidableEq, Repr

/-- The body as a block of code in Markdown. -/
def codeBlock (body : Text) : Text :=
  "```taikou5-script\n".toList ++ body ++ "\n```".toList

/-- The item of a candidate on a line. -/
def Item.ofCandidate (line : Nat) (c : Candidate) : Item :=
  { label := c.label
    detail := c.detail
    documentation := codeBlock c.body
    sortText := c.sortText
    filterText := c.filterText
    insertText := c.body
    edit := c.replacement.map fun span => { line, span, newText := c.body } }

/-- The items at a position of a document.  A line that does not exist is like an empty one. -/
def itemsAt (index : Index) (d : Document) (p : Position) : List Item :=
  (completeLine index ((d.linePrefix? p).getD [])).map (Item.ofCandidate p.line)

/-- Every entry gives an item at every position. -/
@[simp] theorem length_itemsAt (index : Index) (d : Document) (p : Position) :
    (itemsAt index d p).length = index.size := by
  simp [itemsAt]

end SnippetServer.Completion
