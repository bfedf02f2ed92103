import SnippetServer.Path

namespace SnippetServer

/-!
# File trees

What the library reads of a file system, as a value: directories, files and symbolic links by the
names that lead to them from the root.

* `FileTree` — a file tree;
* `FileTree.resolve` — the place that a path names, following links;
* `FileTree.readFile?`, `FileTree.listing` — the content of a file, the names in a directory;
* `FileTree.put`, `FileTree.erase` — changes.
-/

/-- Why the system refuses an operation. -/
inductive SystemError where
  /-- Something named does not exist. -/
  | notFound
  /-- Something is used as a directory and is none. -/
  | notDirectory
  /-- Links lead on without end. -/
  | tooManyLinks
  /-- A path, or a name in it, is too long. -/
  | nameTooLong
  /-- A path to a file or a directory holds a NUL. -/
  | nulInPath
  /-- A path to be watched holds a NUL. -/
  | nulInWatchedPath
  /-- An argument of a program holds a NUL. -/
  | nulInArgument
  /-- An argument of a program is too long. -/
  | argumentTooLong
  /-- The operation is not allowed. -/
  | denied
  /-- The operation does not exist on this system. -/
  | unsupported
  /-- Any other reason; the system has its own text for it. -/
  | other (message : Text)
  deriving DecidableEq, Repr

/-- The text that is shown for a refused operation. -/
def SystemError.message : SystemError → Text
  | .notFound => "No such file or directory (os error 2)".toList
  | .notDirectory => "Not a directory (os error 20)".toList
  | .tooManyLinks => "Too many levels of symbolic links (os error 40)".toList
  | .nameTooLong => "File name too long (os error 36)".toList
  | .nulInPath => "file name contained an unexpected NUL byte".toList
  | .nulInWatchedPath => "data provided contains a nul byte".toList
  | .nulInArgument => "nul byte found in provided data".toList
  | .argumentTooLong => "Argument list too long (os error 7)".toList
  | .denied => "Permission denied (os error 13)".toList
  | .unsupported => "Operation not supported (os error 95)".toList
  | .other message => message

/-- How a process ends. -/
inductive Ending where
  /-- It exits with a code. -/
  | exited (code : Int32)
  /-- A signal kills it. -/
  | killed
  deriving DecidableEq, Repr

/-- What a runnable file does: it prints its arguments one a line if it `echoes`, then two files
that stand next to it. -/
structure Program where
  /-- Whether it prints its arguments. -/
  echoes : Bool
  /-- How it ends. -/
  ending : Ending
  deriving DecidableEq, Repr

/-- A place in a file tree: the names that lead to it from the root. -/
abbrev Place := List Bytes

/-- What can stand at a place. -/
inductive Node where
  /-- A directory. -/
  | directory
  /-- A file with its content, and what it does if it can be run. -/
  | file (content : Bytes) (program : Option Program)
  /-- A symbolic link. -/
  | link (target : Path)
  deriving DecidableEq, Repr

/-- A file tree. -/
structure FileTree where
  /-- What stands at the places other than the root. -/
  nodes : List (Place × Node)
  /-- Where relative paths start. -/
  home : Place
  deriving DecidableEq, Repr

namespace FileTree

/-- What stands at a place. -/
def node? (tree : FileTree) (place : Place) : Option Node :=
  if place.isEmpty then some .directory else tree.nodes.lookup place

/-- Whether a directory stands at a place. -/
def isDirectory (tree : FileTree) (place : Place) : Bool := tree.node? place == some .directory

/-! ### Following paths -/

/-- The most bytes that a name has. -/
def longestName : Nat := 255

/-- The place that the pieces of a path lead to from a place, up to the first link: `onLink` takes
over with the place where the link starts, and its pieces and those that are left. -/
def walkUntilLink (tree : FileTree) (onLink : Place → List Bytes → Except SystemError Place)
    (place : Place) : List Bytes → Except SystemError Place
  | [] => .ok place
  | name :: rest =>
    if !tree.isDirectory place then .error .notDirectory
    else if name = [] ∨ name = [Path.dot] then walkUntilLink tree onLink place rest
    else if name = [Path.dot, Path.dot] then walkUntilLink tree onLink place.dropLast rest
    else if longestName < name.length then .error .nameTooLong
    else match tree.node? (place ++ [name]) with
      | none => .error .notFound
      | some (.link target) =>
        onLink (if target.isAbsolute then [] else place) (target.pieces ++ rest)
      | some _ => walkUntilLink tree onLink (place ++ [name]) rest

/-- The place that the pieces of a path lead to from a place, following at most `links` links. -/
def walk (tree : FileTree) : (links : Nat) → Place → List Bytes → Except SystemError Place
  | 0 => walkUntilLink tree fun _ _ => .error .tooManyLinks
  | links + 1 => walkUntilLink tree (walk tree links)

/-- The most links that one path may go through. -/
def maxLinks : Nat := 40

/-- The most bytes that a path has. -/
def longestPath : Nat := 4095

/-- Where a path starts. -/
def origin (tree : FileTree) (path : Path) : Place := if path.isAbsolute then [] else tree.home

/-- The place that a path names. -/
def resolve (tree : FileTree) (path : Path) : Except SystemError Place :=
  if path.hasNul then .error .nulInPath
  else if path.bytes.isEmpty then .error .notFound
  else if longestPath < path.bytes.length then .error .nameTooLong
  else tree.walk maxLinks (tree.origin path) path.pieces

/-- Whether a path names anything. -/
def contains (tree : FileTree) (path : Path) : Bool := (tree.resolve path).toBool

/-- The place that a path names in an existing directory, whether or not something stands there.  A
link that stands there is not followed. -/
def target? (tree : FileTree) (path : Path) : Option Place := do
  let last ← path.names.getLast?
  let place ← (tree.walk maxLinks (tree.origin path) path.names.dropLast).toOption
  some (place ++ [last])

/-! ### Reading -/

/-- The names in a directory, in the order of the tree. -/
def namesIn (tree : FileTree) (place : Place) : List Bytes :=
  tree.nodes.filterMap fun (p, _) =>
    match p.getLast? with
    | some name => if p.dropLast = place then some name else none
    | none => none

/-- The names in the directory that a path names. -/
def listing (tree : FileTree) (path : Path) : Except SystemError (List Bytes) := do
  let place ← tree.resolve path
  if tree.isDirectory place then .ok (tree.namesIn place) else .error .notDirectory

/-- The content of the file that a path names. -/
def readFile? (tree : FileTree) (path : Path) : Option Bytes := do
  match tree.node? (← (tree.resolve path).toOption) with
  | some (.file content _) => some content
  | _ => none

/-! ### Changing -/

/-- The tree with nothing at a place, nor below it. -/
def erase (tree : FileTree) (place : Place) : FileTree :=
  { tree with nodes := tree.nodes.filter fun (p, _) => !place.isPrefixOf p }

/-- The tree with a node at a place, in the stead of what stood there. -/
def put (tree : FileTree) (place : Place) (node : Node) : FileTree :=
  let cleared := tree.erase place
  { cleared with nodes := cleared.nodes ++ [(place, node)] }

/-- The root is a directory, whatever the tree holds. -/
@[simp] theorem node?_root (tree : FileTree) : tree.node? [] = some .directory := rfl

end FileTree

end SnippetServer
