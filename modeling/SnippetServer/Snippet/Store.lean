import SnippetServer.Snippet.Source

namespace SnippetServer.Snippet

/-!
# The snippet store

The store holds the source and the index that was published last.  A rebuild reads the source as it
is then and publishes the result; the number of indexes published so far is the generation.

* `Store.publish`, `Store.rebuild` — publish an index;
* `Store.afterBatch` — the store after a batch of changed paths.
-/

/-- The source and the index published last. -/
structure Store where
  /-- Where snippets come from. -/
  source : Source
  /-- The index published last. -/
  index : Index
  /-- The number of indexes published so far. -/
  generation : Nat
  deriving DecidableEq, Repr

namespace Store

/-- A store that has not published anything. -/
def new (source : Source) : Store := { source, index := Index.empty, generation := 0 }

/-- Takes another source, which the next rebuild reads. -/
def setSource (store : Store) (source : Source) : Store := { store with source }

/-- Publishes an index in the place of the current one. -/
def publish (store : Store) (index : Index) : Store :=
  { store with index, generation := store.generation + 1 }

/-- Reads the source and publishes the result. -/
def rebuild (store : Store) (tree : FileTree) : Store := store.publish (store.source.load tree)

/-- The store after a batch of changed paths: rebuilt if one of them concerns the snippets. -/
def afterBatch (store : Store) (tree : FileTree) (paths : List Path) : Store :=
  if paths.any store.source.acceptsPath then store.rebuild tree else store

/-- A published index is the one that is served. -/
@[simp] theorem publish_index (store : Store) (index : Index) :
    (store.publish index).index = index := rfl

/-- Publishing an index makes it the next generation. -/
@[simp] theorem publish_generation (store : Store) (index : Index) :
    (store.publish index).generation = store.generation + 1 := rfl

/-- Publishing an index leaves the source as it is. -/
@[simp] theorem publish_source (store : Store) (index : Index) :
    (store.publish index).source = store.source := rfl

/-- What is served after a rebuild is what the source loads. -/
@[simp] theorem rebuild_index (store : Store) (tree : FileTree) :
    (store.rebuild tree).index = store.source.load tree := rfl

/-- Another source alone does not change what is served. -/
@[simp] theorem setSource_index (store : Store) (source : Source) :
    (store.setSource source).index = store.index := rfl

end Store

end SnippetServer.Snippet
