import SnippetServer.FileTree.Basic
import SnippetServer.Snippet.Index
import SnippetServer.Text.Quoted

namespace SnippetServer.Snippet

/-!
# Snippet directories

Snippets come from the files of one directory whose names are UTF-8 and end in a given extension.
A file that cannot be read, or is not UTF-8, is left out, and so is a directory with such a name.

* `Source` — which directory and which files, and their load order;
* `Source.accepts` — whether a name is that of a snippet file;
* `Source.acceptsPath` — whether a change of this path concerns the snippets;
* `Source.files` — the snippet files;
* `Source.load` — the index of a directory, empty if there is none;
* `Source.opened` — the places that are opened for it.
-/

/-- Where snippets come from. -/
structure Source where
  /-- The directory. -/
  directory : Path
  /-- What the names of its snippet files end in. -/
  extension : Text
  /-- The order in which the files are read. -/
  loadOrder : List Text
  deriving DecidableEq, Repr

/-- Why snippets are not to be had. -/
inductive SourceError where
  /-- The directory cannot be listed. -/
  | unavailable (directory : Path) (cause : SystemError)
  /-- The directory cannot be watched; `watched` is its path as the system got it. -/
  | unwatched (directory watched : Path) (cause : SystemError)
  deriving DecidableEq, Repr

/-- The text that is shown for an error. -/
def SourceError.message : SourceError → Text
  | .unavailable directory cause =>
    "snippet directory ".toList ++ directory.display ++ " is unavailable: ".toList ++
      cause.message
  | .unwatched directory watched cause =>
    "failed to watch snippet directory ".toList ++ directory.display ++ ": ".toList ++
      cause.message ++ " about [".toList ++ Text.quotedPath watched.display ++ "]".toList

/-- What the names of snippet files end in unless something else is asked for. -/
def defaultExtension : Text := ['.', 's', 'n', 'i', 'p', 'p', 'e', 't']

namespace Source

/-- The source of a server that is told nothing but the directory. -/
def ofDirectory (directory : Path) : Source :=
  { directory, extension := defaultExtension, loadOrder := defaultLoadOrder }

/-- The text of a name that snippet files can have. -/
def acceptedName? (source : Source) (name : Bytes) : Option Text :=
  (Text.decode? name).filter fun t => source.extension.isSuffixOf t

/-- Whether a name is that of a snippet file. -/
def accepts (source : Source) (name : Bytes) : Bool := (source.acceptedName? name).isSome

/-- Whether a change of this path concerns the snippets. -/
def acceptsPath (source : Source) (path : Path) : Bool := path.fileName?.any source.accepts

/-- The snippet file that a name in the directory stands for. -/
def file? (source : Source) (tree : FileTree) (name : Bytes) : Option File := do
  let text ← source.acceptedName? name
  let content ← tree.readFile? (source.directory.join ⟨name⟩)
  some ⟨text, ← Text.decode? content⟩

/-- The snippet files of the directory, in the order in which it lists them. -/
def files (source : Source) (tree : FileTree) : Except SourceError (List File) :=
  match tree.listing source.directory with
  | .ok names => .ok (names.filterMap (source.file? tree))
  | .error cause => .error (.unavailable source.directory cause)

/-- The index of the directory; that of a directory which cannot be listed is empty. -/
def load (source : Source) (tree : FileTree) : Index :=
  match source.files tree with
  | .ok files => Index.build source.loadOrder files
  | .error _ => Index.empty

/-- The places that are opened when the files are read: that of the directory, and what stands under
the names of snippet files, be it a file or not. -/
def opened (source : Source) (tree : FileTree) : List Place :=
  match tree.resolve source.directory with
  | .ok place =>
    if tree.isDirectory place then
      place :: ((tree.namesIn place).filter source.accepts).filterMap fun name =>
        (tree.resolve (source.directory.join ⟨name⟩)).toOption
    else []
  | .error _ => []

end Source

end SnippetServer.Snippet
