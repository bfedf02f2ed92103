import SnippetServer.Completion.Ranking
import SnippetServer.Snippet.Index

namespace SnippetServer.Completion

open Snippet

/-!
# Completion candidates

Every entry of the index is a candidate, whatever is typed; what is typed only decides in which
order an entry shows its triggers.  The client matches what is typed against the filter text and
sorts by the sort key.

* `sortKey` — the rank of an entry in at least six digits;
* `Candidate.ofEntry` — the candidate of an entry;
* `query` — the candidates for a typed text;
* `completeLine` — the candidates for a line up to the cursor; `typedAtEnd` — what is typed there.
-/

/-- The least number of digits of a sort key. -/
def sortKeyWidth : Nat := 6

/-- A number in decimal, with zeros in front up to the least width. -/
def sortKey (n : Nat) : Text :=
  let digits := Nat.toDigits 10 n
  List.replicate (sortKeyWidth - digits.length) '0' ++ digits

/-- One completion candidate. -/
structure Candidate where
  /-- The name that is shown. -/
  label : Text
  /-- The triggers as they are ranked, separated by spaces: what the client matches against. -/
  filterText : Text
  /-- The triggers as they are ranked, separated by commas and spaces: what is shown. -/
  detail : Text
  /-- What the client sorts by. -/
  sortText : Text
  /-- What is inserted. -/
  body : Text
  /-- What the insertion replaces. -/
  replacement : Option Span
  deriving DecidableEq, Repr

/-- The candidate of an entry for a typed text in lower case. -/
def Candidate.ofEntry (typed : Text) (replacement : Option Span) (e : Entry) : Candidate :=
  let ranked := rank typed e.triggers
  { label := e.label
    filterText := Text.joinWith [' '] ranked
    detail := Text.joinWith [',', ' '] ranked
    sortText := sortKey e.rank
    body := e.body
    replacement }

/-- The candidates for a typed text. -/
def query (index : Index) (typed : Text) : List Candidate :=
  index.entries.map (Candidate.ofEntry (Text.lower typed) none)

/-- The candidates for a line up to the cursor: those for the token at its end, which they replace.
They hold for this line only, so a client asks again after every character. -/
def completeLine (index : Index) (line : Text) : List Candidate :=
  match Token.atEnd? line with
  | none => index.entries.map (Candidate.ofEntry [] none)
  | some token => index.entries.map (Candidate.ofEntry (Text.lower token.text) (some token.span))

/-- What is typed at the end of a line: nothing if no token stands there. -/
def typedAtEnd (line : Text) : Text := ((Token.atEnd? line).map Token.text).getD []

/-- What is typed and what is replaced are read from the line; the rest comes from the entries. -/
theorem completeLine_eq (index : Index) (line : Text) :
    completeLine index line = index.entries.map
      (Candidate.ofEntry (Text.lower (typedAtEnd line)) ((Token.atEnd? line).map Token.span)) := by
  unfold completeLine typedAtEnd
  cases Token.atEnd? line with
  | none => rfl
  | some token => rfl

/-- All candidates replace the token at the end of the line. -/
theorem replacement_of_mem_completeLine {index : Index} {line : Text} {c : Candidate}
    (h : c ∈ completeLine index line) : c.replacement = (Token.atEnd? line).map Token.span := by
  rw [completeLine_eq] at h
  obtain ⟨e, -, rfl⟩ := List.mem_map.1 h
  rfl

/-- Every entry is offered, whatever is typed. -/
@[simp] theorem length_query (index : Index) (typed : Text) :
    (query index typed).length = index.size := by
  simp [query, Index.size]

/-- Whatever is typed, every entry is a candidate. -/
@[simp] theorem length_completeLine (index : Index) (line : Text) :
    (completeLine index line).length = index.size := by
  simp [completeLine_eq, Index.size]

end SnippetServer.Completion
