import SnippetServer.Text.Lines

namespace SnippetServer.Snippet

/-!
# Snippet records

A snippet file is a flat list of records.  A line that begins with `#t=` opens a record and gives
its label, a line that begins with `#g=` gives its trigger, and the other lines are its body:

    #t=Show message
    #g=msg
    Message("$1")

* `Record` — one record;
* `Record.bodyText` — what is inserted for it;
* `Record.render` — the written form of a list of records.
-/

/-- One snippet record. -/
structure Record where
  /-- The name that is shown for the snippet. -/
  label : Text
  /-- What is typed to find it. -/
  trigger : Text
  /-- The lines that are inserted. -/
  body : List Text
  deriving DecidableEq, Repr

/-- What opens the line that begins a record. -/
def labelMarker : Text := ['#', 't', '=']

/-- What opens the line that gives a trigger. -/
def triggerMarker : Text := ['#', 'g', '=']

namespace Record

/-- The body as one text, its lines joined by LF. -/
def bodyText (r : Record) : Text := Text.joinWith ['\n'] r.body

/-- The written form of a record, every line of which ends in CR LF. -/
def render (r : Record) : Text :=
  ((labelMarker ++ r.label) :: (triggerMarker ++ r.trigger) :: r.body).flatMap
    fun line => line ++ ['\r', '\n']

/-- The written form of a list of records. -/
def renderAll (rs : List Record) : Text := rs.flatMap render

@[simp] theorem renderAll_nil : renderAll [] = [] := rfl

/-- The text of a list of records begins with that of its first one. -/
@[simp] theorem renderAll_cons (r : Record) (rs : List Record) :
    renderAll (r :: rs) = render r ++ renderAll rs := by
  simp [renderAll]

end Record

end SnippetServer.Snippet
