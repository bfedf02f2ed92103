import SnippetServer.Proofs.Completion.Matching
import SnippetServer.Proofs.Completion.SortKeys

namespace SnippetServer.Completion

open Snippet

/-!
# What the typed text decides

Every entry of an index gives one candidate, at its rank.  What is typed decides in which order the
candidate shows the triggers of its entry, and which columns it replaces; all else it takes from the
entry.  An item takes everything from its candidate.

* `Candidate.Shows e c` — `c` is the entry `e` with its triggers in some order;
* `Candidate.Alike c c'` — what no typed text changes;
* `Item.Carries line c item` — the item that a candidate gives on a line;
* `TypedOnlyReorders index` — what this means for all candidates and all items of an index;
* `typed_only_reorders` — it holds for every index.
-/

/-! ### One candidate -/

/-- A candidate shows an entry: it has the triggers in some order, the same one for the eye as for
the client that matches, and but for the replacement everything else from the entry. -/
def Candidate.Shows (e : Entry) (c : Candidate) : Prop :=
  ∃ shown : List Text, shown.Perm e.triggers ∧ c = Candidate.showing shown c.replacement e

/-- Two candidates have in common what no typed text changes. -/
structure Candidate.Alike (c c' : Candidate) : Prop where
  /-- The labels are the same. -/
  label_eq : c.label = c'.label
  /-- The bodies are the same. -/
  body_eq : c.body = c'.body
  /-- The sort keys are the same. -/
  sortText_eq : c.sortText = c'.sortText

/-- The candidate that replaces nothing. -/
def Candidate.cleared (c : Candidate) : Candidate := { c with replacement := none }

/-- An item has everything from a candidate, and replaces its columns on a line. -/
structure Item.Carries (line : Nat) (c : Candidate) (item : Item) : Prop where
  /-- The label is that of the candidate. -/
  label_eq : item.label = c.label
  /-- The triggers are shown as the candidate shows them. -/
  detail_eq : item.detail = c.detail
  /-- The client matches against what the candidate says. -/
  filterText_eq : item.filterText = c.filterText
  /-- The client sorts by what the candidate says. -/
  sortText_eq : item.sortText = c.sortText
  /-- The body is shown as a block of code. -/
  documentation_eq : item.documentation = codeBlock c.body
  /-- The body is inserted. -/
  insertText_eq : item.insertText = c.body
  /-- There is an edit exactly if the candidate replaces something, and it replaces that. -/
  edit_eq : item.edit = c.replacement.map fun span => ⟨line, span, c.body⟩

/-- The candidate of an entry shows it, with the triggers as they are ranked. -/
theorem Candidate.shows_ofEntry (typed : Text) (replacement : Option Span) (e : Entry) :
    Candidate.Shows e (Candidate.ofEntry typed replacement e) :=
  ⟨rank typed e.triggers, (isRanking_rank typed e.triggers).perm, rfl⟩

/-- Candidates of one entry are alike. -/
theorem Candidate.Shows.alike {e : Entry} {c c' : Candidate} (h : Candidate.Shows e c)
    (h' : Candidate.Shows e c') : Candidate.Alike c c' := by
  obtain ⟨shown, -, hc⟩ := h
  obtain ⟨shown', -, hc'⟩ := h'
  -- label, body and key come from the entry on both sides
  constructor
  · rw [hc, hc']
    rfl
  · rw [hc, hc']
    rfl
  · rw [hc, hc']
    rfl

/-- The item of a candidate carries it. -/
theorem Item.carries_ofCandidate (line : Nat) (c : Candidate) :
    Item.Carries line c (Item.ofCandidate line c) :=
  ⟨rfl, rfl, rfl, rfl, rfl, rfl, rfl⟩

/-! ### All candidates of an index -/

/-- Typing only reorders the triggers of the candidates and moves what they replace. -/
structure TypedOnlyReorders (index : Index) : Prop where
  /-- The entries are listed by rank. -/
  ascending : (index.entries.map Entry.rank).Pairwise (· < ·)
  /-- There is one candidate for each entry, in the order of the entries. -/
  shows : ∀ line, List.Forall₂ Candidate.Shows index.entries (completeLine index line)
  /-- There are as many candidates as entries. -/
  length_eq : ∀ line, (completeLine index line).length = index.size
  /-- Two lines give candidates that are alike place by place. -/
  alike : ∀ line line',
    List.Forall₂ Candidate.Alike (completeLine index line) (completeLine index line')
  /-- All candidates replace the token at the end of the line. -/
  replacement_eq : ∀ line, ∀ c ∈ completeLine index line,
    c.replacement = (Token.atEnd? line).map Token.span
  /-- But for what they replace, they are the candidates for what is typed. -/
  cleared_eq : ∀ line,
    (completeLine index line).map Candidate.cleared = query index (typedAtEnd line)
  /-- The items at a position carry the candidates for the line up to it, one each, in order. -/
  carries : ∀ d p, List.Forall₂ (Item.Carries p.line)
    (completeLine index ((d.linePrefix? p).getD [])) (itemsAt index d p)

section

variable (index : Index)

/-- Place by place, the candidates show the entries. -/
theorem forall₂_shows_completeLine (line : Text) :
    List.Forall₂ Candidate.Shows index.entries (completeLine index line) := by
  rw [completeLine_eq, List.forall₂_map_right_iff, List.forall₂_same]
  exact fun e _ => Candidate.shows_ofEntry _ _ e

/-- Whatever is typed, the candidates in one place show one entry. -/
theorem forall₂_alike_completeLine (line line' : Text) :
    List.Forall₂ Candidate.Alike (completeLine index line) (completeLine index line') := by
  rw [completeLine_eq, completeLine_eq, List.forall₂_map_left_iff, List.forall₂_map_right_iff,
    List.forall₂_same]
  exact fun e _ => (Candidate.shows_ofEntry _ _ e).alike (Candidate.shows_ofEntry _ _ e)

/-- A line is completed as what is typed at its end. -/
theorem map_cleared_completeLine (line : Text) :
    (completeLine index line).map Candidate.cleared = query index (typedAtEnd line) := by
  rw [completeLine_eq, query, List.map_map]
  rfl

/-- Place by place, the items at a position carry the candidates for the line up to it. -/
theorem forall₂_carries_itemsAt (d : Document) (p : Position) :
    List.Forall₂ (Item.Carries p.line) (completeLine index ((d.linePrefix? p).getD []))
      (itemsAt index d p) := by
  rw [itemsAt, List.forall₂_map_right_iff, List.forall₂_same]
  exact fun c _ => Item.carries_ofCandidate p.line c

end

/-- **Typing only reorders.**  Whatever is typed, every entry of an index gives its candidate at its
rank, with its label, its body and all its triggers.  The typed text decides the order of the
triggers, as it does in a query, and the columns that are replaced.  The items at a position are
these candidates. -/
theorem typed_only_reorders (order : List Text) (files : List File) :
    TypedOnlyReorders (Index.build order files) where
  ascending := by
    rw [map_rank_entries]
    exact List.pairwise_lt_range
  shows := forall₂_shows_completeLine _
  length_eq := length_completeLine _
  alike := forall₂_alike_completeLine _
  replacement_eq line c := replacement_of_mem_completeLine
  cleared_eq := map_cleared_completeLine _
  carries := forall₂_carries_itemsAt _

end SnippetServer.Completion
