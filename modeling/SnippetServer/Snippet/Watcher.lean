import SnippetServer.FileTree.Change
import SnippetServer.Snippet.Store

namespace SnippetServer.Snippet

/-!
# Watchers

A watcher is set on a directory, or on a single file, and keeps to what stood there when it was set,
wherever that is moved.  It is told what happens there, gathers the paths that are concerned, and
after a while it looks at them: if one of them concerns the snippets, they are read again.  Reading
opens files, which is something that happens as well.

* `Watcher.start` — a watcher on the directory of a source;
* `Watcher.note`, `Watcher.noteReading` — the watcher after something has happened;
* `Watcher.settle` — the store and the watcher after a look at the gathered paths.
-/

/-- A watcher on a directory, or on a single file. -/
structure Watcher where
  /-- The path under which changes are reported. -/
  path : Path
  /-- Where that stands now which is watched; nothing once it is gone. -/
  place : Option Place
  /-- The paths gathered since the last look at them. -/
  gathered : List Path
  deriving DecidableEq, Repr

namespace Watcher

/-- A watcher on what the directory of a source names at this moment. -/
def start (source : Source) (tree : FileTree) : Except SourceError Watcher :=
  let home : Path := ⟨(tree.home.flatMap (Path.slash :: ·))⟩
  let path := home.join source.directory
  if path.hasNul then .error (.unwatched source.directory path .nulInWatchedPath)
  else match tree.resolve path with
    | .ok place => .ok ⟨path, some place, []⟩
    | .error cause => .error (.unwatched source.directory path cause)

/-! ### What happens -/

/-- The path under which a place is reported, if it is watched: what is watched itself, or something
right inside it. -/
def path? (w : Watcher) (concerned : Place) : Option Path := do
  let place ← w.place
  if concerned = place then some w.path
  else
    let name ← concerned.getLast?
    if concerned.dropLast = place then some (w.path.join ⟨name⟩) else none

/-- The watcher with the path of a place gathered, if it is watched. -/
def report (w : Watcher) (concerned : Place) : Watcher :=
  { w with gathered := w.gathered ++ (w.path? concerned).toList }

/-- Where a place is after something has been moved, in the stead of what stood at the target. -/
def movedPlace? (source target place : Place) : Option Place :=
  if source.isPrefixOf place then some (target ++ place.drop source.length)
  else if target.isPrefixOf place then none
  else some place

/-- The watcher after something has happened. -/
def note (w : Watcher) : Change → Watcher
  | .touched p => w.report p
  | .removed p =>
    { w.report p with place := w.place.filter fun place => !p.isPrefixOf place }
  | .moved source target =>
    { (w.report source).report target with place := w.place.bind (movedPlace? source target) }

/-- The watcher after the files of a source have been read. -/
def noteReading (w : Watcher) (source : Source) (tree : FileTree) : Watcher :=
  (source.opened tree).foldl report w

/-! ### Looks at what has been gathered -/

/-- The store and the watcher after a look at the gathered paths. -/
def settle (w : Watcher) (store : Store) (tree : FileTree) : Store × Watcher :=
  let done := { w with gathered := [] }
  (store.afterBatch tree w.gathered,
    if w.gathered.any store.source.acceptsPath then done.noteReading store.source tree else done)

/-- A report does not change which directory is watched. -/
@[simp] theorem report_path (w : Watcher) (p : Place) : (w.report p).path = w.path := rfl

/-- A report does not change where the directory stands. -/
@[simp] theorem report_place (w : Watcher) (p : Place) : (w.report p).place = w.place := rfl

/-- No change of the tree changes which directory is watched. -/
@[simp] theorem note_path (w : Watcher) (c : Change) : (w.note c).path = w.path := by
  cases c <;> rfl

end Watcher

end SnippetServer.Snippet
