import SnippetServer.Text.Order

namespace SnippetServer.Snippet

/-!
# Load order

Which of two records with the same body gives the label, and which body comes first, depends on
the order in which files are read.  A *load order* is a list of needles: files whose name contains
the first needle are read first, then those with the second one, and so on; files with none of them
are read last.  Among files of one priority the order is by name.

* `File` — the name and the text of a snippet file;
* `priority` — the position of the first needle in a name;
* `inLoadOrder` — the files in the order in which they are read.
-/

/-- The name and the text of a snippet file. -/
structure File where
  /-- Its name, without any directory. -/
  name : Text
  /-- Its text. -/
  content : Text
  deriving DecidableEq, Repr

/-- The load order of a server that is told none. -/
def defaultLoadOrder : List Text :=
  [['f', 'a', 's', 't'], ['s', 'c', 'r', 'i', 'p', 't'],
    ['k', 'e', 'y', 'w', 'o', 'r', 'd', 's']]

/-- The position of the first needle that a name contains; the number of needles if it has none. -/
def priority (order : List Text) (name : Text) : Nat :=
  order.findIdx fun needle => Text.occursIn needle name

/-- Whether the first file is read no later than the second one. -/
def File.loadsBefore (order : List Text) (a b : File) : Bool :=
  priority order a.name < priority order b.name ||
    (priority order a.name == priority order b.name && Text.precedes a.name b.name)

/-- The files in the order in which they are read; files of one name keep their order. -/
def inLoadOrder (order : List Text) (files : List File) : List File :=
  files.mergeSort (File.loadsBefore order)

end SnippetServer.Snippet
