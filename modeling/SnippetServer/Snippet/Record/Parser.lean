import SnippetServer.Snippet.Record
import SnippetServer.Text.Blank

namespace SnippetServer.Snippet

/-!
# Reading snippet records

A file is read line by line into a *draft*, the record that the last label line opened.  A draft
counts only once it has a label and a trigger, neither of them blank; a body line before that is
dropped, and so is everything in front of the first label line.  A later trigger line of the same
record replaces the trigger, with a blank one also the state of counting.

* `Line` — what a line is for;
* `Draft` — a record under construction;
* `Record.readLines`, `Record.readAll` — the records of a list of lines and of a file.
-/

/-- What a line of a snippet file is for. -/
inductive Line where
  /-- It opens a record with this label. -/
  | label (name : Text)
  /-- It gives the open record this trigger. -/
  | trigger (text : Text)
  /-- It belongs to the body. -/
  | body (text : Text)
  deriving DecidableEq, Repr

/-- What follows a marker at the start of a line. -/
def afterMarker? (marker line : Text) : Option Text :=
  if marker.isPrefixOf line then some (line.drop marker.length) else none

/-- Labels and triggers are read without the blanks around them, body lines as they are. -/
def Line.ofText (line : Text) : Line :=
  match afterMarker? labelMarker line with
  | some name => .label (Text.trim name)
  | none =>
    match afterMarker? triggerMarker line with
    | some text => .trigger (Text.trim text)
    | none => .body line

/-- What stands behind a marker is the rest of a line that begins with it. -/
theorem afterMarker?_eq_some_iff {marker line rest : Text} :
    afterMarker? marker line = some rest ↔ line = marker ++ rest := by
  unfold afterMarker?
  constructor
  · intro h
    split at h
    · rename_i hp
      obtain ⟨t, rfl⟩ := List.isPrefixOf_iff_prefix.1 hp
      simpa using h
    · simp at h
  · rintro rfl
    simp

/-- A record under construction. -/
structure Draft where
  /-- Its label, empty as long as there is none. -/
  label : Text
  /-- Its trigger, empty as long as there is none. -/
  trigger : Text
  /-- The body lines so far. -/
  body : List Text
  deriving DecidableEq, Repr

namespace Draft

/-- The draft in front of the first label line. -/
def empty : Draft := ⟨[], [], []⟩

/-- Whether the draft counts as a record. -/
def counts (d : Draft) : Bool := !d.label.isEmpty && !d.trigger.isEmpty

/-- The draft with one more body line, if it counts. -/
def addLine (d : Draft) (line : Text) : Draft :=
  if d.counts then { d with body := d.body ++ [line] } else d

/-- The finished record of a draft that counts; blank lines at the end of the body are left out. -/
def finish? (d : Draft) : Option Record :=
  if d.counts then some ⟨d.label, d.trigger, dropTrailing Text.isBlankText d.body⟩ else none

@[simp] theorem counts_empty : empty.counts = false := rfl

@[simp] theorem finish?_empty : empty.finish? = none := rfl

end Draft

/-- A text without one byte-order mark in front. -/
def withoutMark : Text → Text
  | '\ufeff' :: r => r
  | t => t

/-- A text without a byte-order mark is not cut. -/
theorem withoutMark_of_head?_ne {t : Text} (h : t.head? ≠ some '\ufeff') : withoutMark t = t := by
  unfold withoutMark
  split
  · exact absurd rfl h
  · rfl

namespace Record

/-- The records that the lines complete, when a draft is open in front of them. -/
def readFrom : Draft → List Text → List Record
  | d, [] => d.finish?.toList
  | d, line :: lines =>
    match Line.ofText line with
    | .label name => d.finish?.toList ++ readFrom ⟨name, [], []⟩ lines
    | .trigger text => readFrom { d with trigger := text } lines
    | .body text => readFrom (d.addLine text) lines

/-- The records of a list of lines. -/
def readLines (lines : List Text) : List Record := readFrom .empty lines

/-- The records of a snippet file. -/
def readAll (content : Text) : List Record := readLines (Text.fileLines (withoutMark content))

end Record

end SnippetServer.Snippet
