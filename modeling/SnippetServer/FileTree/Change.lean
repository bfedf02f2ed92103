import SnippetServer.FileTree.Basic

namespace SnippetServer

/-!
# What happens in a file tree

Whoever watches a directory is told what happens in it, one place after the other.  Who only looks
at a file system from time to time can tell it from two looks.

* `Change` — what can happen;
* `FileTree.changesBetween` — what has happened between two looks.
-/

/-- Something that has happened in a file tree. -/
inductive Change where
  /-- What stands at a place is new, has been written or has been opened. -/
  | touched (place : Place)
  /-- What stood at a place is gone. -/
  | removed (place : Place)
  /-- What stood at a place stands at another one, with all that is below it. -/
  | moved (source target : Place)
  deriving DecidableEq, Repr

namespace FileTree

/-- The places of a tree at which another one has something else or nothing. -/
def differing (tree other : FileTree) : List Place :=
  tree.nodes.filterMap fun (place, node) =>
    if other.node? place = some node then none else some place

/-- What has happened between two looks: something is gone, or is new or has been written. -/
def changesBetween (before after : FileTree) : List Change :=
  (((before.differing after).filter fun p => (after.node? p).isNone).map .removed) ++
    (after.differing before).map .touched

end FileTree

end SnippetServer
