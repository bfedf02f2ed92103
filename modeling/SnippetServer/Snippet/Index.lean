import SnippetServer.Snippet.LoadOrder
import SnippetServer.Snippet.Record.Parser

namespace SnippetServer.Snippet

/-!
# The snippet index

The index has one entry per distinct body, in the order in which the bodies are first met.  The
first record with a body gives the label; the triggers of all records with that body are its
synonyms, in the order in which they are first met and without repeats.

* `Entry` — the label, triggers, rank and body of one entry;
* `Builder.add` — adds one record to an index under construction;
* `Index.build` — the index of a list of files under a load order;
* `Index.get?` — the entry that is kept under a body.
-/

/-- All records that insert the same body. -/
structure Entry where
  /-- The label of the first record with this body. -/
  label : Text
  /-- The triggers of the records with this body, in the order in which they are first met. -/
  triggers : List Text
  /-- The number of entries in front of this one. -/
  rank : Nat
  /-- What is inserted. -/
  body : Text
  deriving DecidableEq, Repr

namespace Entry

/-- The entry that a record with a new body opens. -/
def ofRecord (rank : Nat) (r : Record) : Entry := ⟨r.label, [r.trigger], rank, r.bodyText⟩

/-- The entry with one more synonym, unless it has it already. -/
def addTrigger (e : Entry) (trigger : Text) : Entry :=
  if trigger ∈ e.triggers then e else { e with triggers := e.triggers ++ [trigger] }

end Entry

/-- An index under construction. -/
structure Builder where
  /-- The entries, each under the body that it is looked up by, in the order in which they came. -/
  slots : List (Text × Entry)
  /-- The rank of the next new entry. -/
  next : Nat
  deriving DecidableEq, Repr

namespace Builder

/-- The builder before the first record. -/
def empty : Builder := ⟨[], 0⟩

/-- The builder with one more record: the entry under its body takes its trigger, and without such
an entry a new one is added at the end. -/
def add (b : Builder) (r : Record) : Builder :=
  let body := r.bodyText
  match b.slots.lookup body with
  | some _ =>
    { b with
      slots := b.slots.map fun s => if s.1 = body then (s.1, s.2.addTrigger r.trigger) else s }
  | none => { slots := b.slots ++ [(body, Entry.ofRecord b.next r)], next := b.next + 1 }

end Builder

/-- A snippet index. -/
structure Index where
  /-- The entries by rank, each under the body that it is looked up by. -/
  slots : List (Text × Entry)
  deriving DecidableEq, Repr

namespace Index

/-- The index without entries. -/
def empty : Index := ⟨[]⟩

/-- The entries by rank. -/
def entries (index : Index) : List Entry := index.slots.map Prod.snd

/-- The number of entries. -/
def size (index : Index) : Nat := index.slots.length

/-- The index of a list of records. -/
def ofRecords (rs : List Record) : Index := ⟨(rs.foldl Builder.add Builder.empty).slots⟩

/-- The records of a list of files, in load order. -/
def recordsOf (order : List Text) (files : List File) : List Record :=
  (inLoadOrder order files).flatMap fun f => Record.readAll f.content

/-- The index of a list of files. -/
def build (order : List Text) (files : List File) : Index := ofRecords (recordsOf order files)

/-- The entry that inserts exactly this body. -/
def get? (index : Index) (body : Text) : Option Entry := index.slots.lookup body

@[simp] theorem size_empty : empty.size = 0 := rfl

@[simp] theorem entries_empty : empty.entries = [] := rfl

/-- The size of an index is the number of its entries. -/
@[simp] theorem length_entries (index : Index) : index.entries.length = index.size := by
  simp [entries, size]

/-- Without records the index is empty. -/
@[simp] theorem ofRecords_nil : ofRecords [] = empty := rfl

end Index

end SnippetServer.Snippet
