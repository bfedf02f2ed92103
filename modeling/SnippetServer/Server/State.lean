import SnippetServer.Document.Basic
import SnippetServer.Server.Notification
import SnippetServer.Settings.Basic
import SnippetServer.Snippet.Watcher

namespace SnippetServer.Server

open Snippet

/-!
# The state of a server

* `State` — open documents, settings, snippets and the document that is worked on;
* `State.document?`, `State.putDocument`, `State.dropDocument` — the open documents by URI;
* `State.trace` — what the server tells about its own work when it is asked to.
-/

/-- The state of a server. -/
structure State where
  /-- The open documents. -/
  documents : List (Uri × Document)
  /-- The settings in force. -/
  settings : Settings
  /-- The snippets. -/
  store : Store
  /-- The watcher on the snippet directory. -/
  watcher : Option Watcher
  /-- The document opened or changed last, as long as it is not closed. -/
  active : Option Uri
  /-- Whether the server tells about its own work. -/
  traces : Bool
  deriving DecidableEq, Repr

namespace State

/-- The state in which a server starts. -/
def initial (settings : Settings) (traces : Bool) : State :=
  { documents := []
    settings
    store := Store.new settings.source
    watcher := none
    active := none
    traces }

/-- The open document with this URI. -/
def document? (s : State) (uri : Uri) : Option Document := s.documents.lookup uri

/-- Puts a document in the place of the one with this URI. -/
def putDocument (s : State) (uri : Uri) (d : Document) : State :=
  { s with documents := (uri, d) :: s.documents.filter (·.1 != uri) }

/-- Forgets the document with this URI. -/
def dropDocument (s : State) (uri : Uri) : State :=
  { s with documents := s.documents.filter (·.1 != uri) }

/-- Reads the snippets again. -/
def rebuild (s : State) (tree : FileTree) : State := { s with store := s.store.rebuild tree }

/-- What the server tells about its own work. -/
def trace (s : State) (message : Text) : List Notification :=
  if s.traces then [.log .info ("[DEBUG] ".toList ++ message)] else []

/-- What the server tells after it has read the snippets. -/
def traceCount (s : State) (verb : Text) : List Notification :=
  s.trace (verb ++ [' '] ++ Nat.toDigits 10 s.store.index.size ++ " unique snippets".toList)

/-! ### Open documents by URI -/

/-- No document is open at first. -/
@[simp] theorem document?_initial (settings : Settings) (traces : Bool) (uri : Uri) :
    (initial settings traces).document? uri = none := rfl

/-- A document is open with the text that it has been given. -/
@[simp] theorem document?_putDocument_self (s : State) (uri : Uri) (d : Document) :
    (s.putDocument uri d).document? uri = some d := by
  simp [document?, putDocument]

/-- A closed document is not open. -/
@[simp] theorem document?_dropDocument_self (s : State) (uri : Uri) :
    (s.dropDocument uri).document? uri = none := by
  simp only [document?, dropDocument, List.lookup_eq_none_iff, List.mem_filter]
  rintro x ⟨-, hx⟩
  exact bne_iff_ne.2 (Ne.symm (bne_iff_ne.1 hx))

/-- Closing a document leaves the others as they are. -/
theorem document?_dropDocument_of_ne (s : State) {uri other : Uri} (h : other ≠ uri) :
    (s.dropDocument uri).document? other = s.document? other := by
  simp only [document?, dropDocument]
  induction s.documents with
  | nil => rfl
  | cons x xs ih =>
    by_cases hx : x.1 = uri
    · have hne : (other == x.1) = false := by simp [hx, h]
      rw [List.filter_cons_of_neg (by simp [hx]), ih, List.lookup_cons, hne]
    · rw [List.filter_cons_of_pos (by simp [hx]), List.lookup_cons, List.lookup_cons, ih]

/-- Opening or changing a document leaves the others as they are. -/
theorem document?_putDocument_of_ne (s : State) {uri other : Uri} (d : Document)
    (h : other ≠ uri) : (s.putDocument uri d).document? other = s.document? other := by
  have hne : (other == uri) = false := by simp [h]
  have := s.document?_dropDocument_of_ne h
  simpa [document?, putDocument, dropDocument, List.lookup_cons, hne] using this

end State

end SnippetServer.Server
