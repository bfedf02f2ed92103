import SnippetServer.Proofs.Snippet.ChangedPaths
import SnippetServer.Server.Handlers

namespace SnippetServer.Server

open Snippet

/-!
# The reload filter

Paths that have changed come from the client or from the watcher, and a rebuild reads the directory
of the store.  What is read and what makes the server read again are told by the same names.

* `ReloadsWhatItLoads s` — the filter and the loader of a server in the state `s` select the same
  files, and so do the two ways in which it is told of changes;
* `reloads_what_it_loads` — they do in every state, so for every source.
-/

namespace State

variable {s : State} {tree : FileTree}

/-- A server looks at the URIs of which it is told as at the paths that they name, and at nothing
else. -/
theorem any_concerns_iff {uris : List Uri} :
    uris.any s.concerns = true ↔ s.store.source.IsConcerned (uris.filterMap Uri.toPath?) := by
  rw [← Source.any_acceptsPath_iff, List.any_filterMap]
  rfl

/-- A watcher that has been told of paths which concern the snippets has them read. -/
theorem store_afterChanges {watcher : Watcher} (h : s.watcher = some watcher)
    (changes : List Change) : (s.afterChanges tree changes).store =
      s.store.afterBatch tree (changes.foldl Watcher.note watcher).gathered := by
  rw [afterChanges, h]
  rfl

end State

/-- The filter for changed paths selects the entries that the loader reads, however the directory is
written, and changes of such entries, and of no others, have the directory read again. -/
structure ReloadsWhatItLoads (s : State) : Prop where
  /-- However a directory is written, the path of an entry ends in its name. -/
  endsIn_join : ∀ (directory : Path) (name : Bytes), Path.IsEntryName name →
    (directory.join ⟨name⟩).EndsIn name
  /-- The path of an entry passes the filter if its name is UTF-8 and ends in the extension. -/
  accepts_iff : ∀ (directory : Path) (name : Bytes), Path.IsEntryName name →
    (s.store.source.acceptsPath (directory.join ⟨name⟩) = true ↔
      s.store.source.IsSnippetName name)
  /-- An entry is loaded exactly if its path passes the filter and what stands there can be read as
  a text. -/
  loads_iff : ∀ (directory : Path) (tree : FileTree) (name : Bytes) (f : File),
    Path.IsEntryName name →
      ((s.store.source.withDirectory directory).file? tree name = some f ↔
        s.store.source.acceptsPath (directory.join ⟨name⟩) = true ∧ Text.encode f.name = name ∧
          ∃ bytes, tree.readFile? (directory.join ⟨name⟩) = some bytes ∧
            Text.decode? bytes = some f.content)
  /-- Besides the directory itself the loader opens what stands under the paths that pass, be it a
  text or not, and nothing else. -/
  opened_eq : ∀ (directory : Path) (tree : FileTree) (place : Place),
    tree.resolve directory = .ok place → tree.isDirectory place = true →
      (∀ name ∈ tree.namesIn place, Path.IsEntryName name) →
        (s.store.source.withDirectory directory).opened tree =
          place :: ((tree.namesIn place).filter fun name =>
            s.store.source.acceptsPath (directory.join ⟨name⟩)).filterMap fun name =>
              (tree.resolve (directory.join ⟨name⟩)).toOption
  /-- Every file that is loaded has a name that passes. -/
  found_isSnippetName : ∀ (directory : Path) (tree : FileTree),
    ∀ f ∈ (s.store.source.withDirectory directory).found tree,
      s.store.source.IsSnippetName (Text.encode f.name)
  /-- A notification that names such a file has the directory read again. -/
  notice_reloads : ∀ (tree : FileTree) (uris : List Uri),
    s.store.source.IsConcerned (uris.filterMap Uri.toPath?) →
      s.tell tree (.didChangeFiles uris) =
        (s.rebuild tree, (s.rebuild tree).traceCount "Reloaded".toList)
  /-- One that names no such file changes nothing. -/
  notice_ignored : ∀ (tree : FileTree) (uris : List Uri),
    ¬ s.store.source.IsConcerned (uris.filterMap Uri.toPath?) →
      s.tell tree (.didChangeFiles uris) = (s, [])
  /-- A change of such an entry in the watched directory has the directory read again. -/
  watcher_reloads : ∀ (tree : FileTree) (watcher : Watcher) (place : Place)
    (changes : List Change) (names : List (List Bytes)),
    s.watcher = some watcher → watcher.place = some place →
      List.Forall₂ (OnEntries place) changes names →
        (∃ name ∈ names.flatten, Path.IsEntryName name ∧ s.store.source.IsSnippetName name) →
          (s.afterChanges tree changes).store = s.store.rebuild tree
  /-- Changes of other entries leave the store as it is, if nothing else is to be looked at. -/
  watcher_ignored : ∀ (tree : FileTree) (watcher : Watcher) (place : Place)
    (changes : List Change) (names : List (List Bytes)),
    s.watcher = some watcher → watcher.place = some place → watcher.gathered = [] →
      List.Forall₂ (OnEntries place) changes names →
        (∀ name ∈ names.flatten,
          Path.IsEntryName name ∧ ¬ s.store.source.IsSnippetName name) →
          (s.afterChanges tree changes).store = s.store

/-- **The reload filter and the loader agree.**  Whatever the source, a changed path concerns the
snippets exactly if it ends in a name that the loader reads.  So no change of what is or could be in
the index is missed, and no change of another entry has the directory read again. -/
theorem reloads_what_it_loads (s : State) : ReloadsWhatItLoads s where
  endsIn_join directory name := Path.endsIn_join directory
  accepts_iff directory name h := Source.acceptsPath_iff_of_endsIn (Path.endsIn_join directory h)
  loads_iff directory tree name f h := Source.file?_withDirectory_iff directory h
  opened_eq directory tree place := Source.opened_withDirectory
  found_isSnippetName := by
    intro directory tree f hf
    -- the names do not depend on the directory
    have hname := Source.isSnippetName_of_mem_found hf
    exact hname
  notice_reloads tree uris h := if_pos (State.any_concerns_iff.2 h)
  notice_ignored tree uris h := if_neg fun hany => h (State.any_concerns_iff.1 hany)
  watcher_reloads := by
    rintro tree watcher place changes names hwatcher hplace hchanges ⟨name, hname, hentry, hsnippet⟩
    rw [State.store_afterChanges hwatcher, Watcher.foldl_note hplace hchanges]
    refine Store.afterBatch_of_concerned ⟨watcher.path.join ⟨name⟩, ?_, name, ?_, hsnippet⟩
    · exact List.mem_append_right _ (List.mem_map_of_mem hname)
    · exact Path.endsIn_join watcher.path hentry
  watcher_ignored := by
    intro tree watcher place changes names hwatcher hplace hgathered hchanges hnames
    rw [State.store_afterChanges hwatcher, Watcher.foldl_note hplace hchanges]
    refine Store.afterBatch_of_not_concerned ?_
    rintro ⟨path, hpath, name, hends, hsnippet⟩
    -- nothing was gathered before, so the path is that of one of the entries
    rw [Watcher.gather, hgathered, List.nil_append] at hpath
    obtain ⟨entry, hentry, rfl⟩ := List.mem_map.1 hpath
    obtain ⟨hisEntry, hother⟩ := hnames entry hentry
    have hsame := Path.fileName?_eq_some_iff.2 hends
    rw [Path.fileName?_eq_some_iff.2 (Path.endsIn_join watcher.path hisEntry)] at hsame
    exact hother (Option.some.inj hsame ▸ hsnippet)

namespace StrangeDirectory

/-- A directory whose path is not UTF-8 and ends in a dot. -/
def directory : Path := ⟨[0x2F, 0xFF, 0x2F, 0x2E]⟩

/-- A server that watches the directory. -/
def state : State :=
  { State.initial (.ofCommandLine (Path.ofText ['/']) (some directory) none) false with
    watcher := some ⟨directory, some [[0xFF]], []⟩ }

/-- A tree in which nothing is left. -/
def tree : FileTree where
  home := []
  nodes := []

/-- The name of a snippet file. -/
def snippetName : Bytes := Text.encode "a.snippet".toList

/-- A name with the same end that is not UTF-8. -/
def otherName : Bytes := 0xFF :: Text.encode ".snippet".toList

end StrangeDirectory

open StrangeDirectory in
/-- An entry whose name is not UTF-8 can go unnoticed, but not if it gets the name of a snippet file
first. -/
theorem reloads_what_it_loads_strange_directory :
    (state.afterChanges tree [.removed ([[0xFF]] ++ [otherName])]).store = state.store ∧
      (state.afterChanges tree [.moved ([[0xFF]] ++ [otherName]) ([[0xFF]] ++ [snippetName]),
        .removed ([[0xFF]] ++ [snippetName])]).store = state.store.rebuild tree ∧
      state.store.rebuild tree ≠ state.store := by
  have hother : Path.IsEntryName otherName := ⟨by decide, by decide, by decide, by decide⟩
  have hname : Path.IsEntryName snippetName := ⟨by decide, by decide, by decide, by decide⟩
  have hignored : ¬ state.store.source.IsSnippetName otherName := fun h =>
    absurd (Source.accepts_iff.2 h) (by decide)
  have hsnippet : state.store.source.IsSnippetName snippetName :=
    ⟨"a.snippet".toList, rfl, by decide⟩
  refine ⟨?_, ?_, ?_⟩
  · refine (reloads_what_it_loads state).watcher_ignored tree _ _ _ [[otherName]] rfl rfl rfl
      (.cons (.removed otherName) .nil) ?_
    simpa using ⟨hother, hignored⟩
  · refine (reloads_what_it_loads state).watcher_reloads tree _ _ _
      [[otherName, snippetName], [snippetName]] rfl rfl
      (.cons (.moved otherName snippetName) (.cons (.removed snippetName) .nil)) ?_
    exact ⟨snippetName, by simp, hname, hsnippet⟩
  · intro h
    -- every rebuild is counted, so that one can be told from none
    have hgeneration : state.store.generation + 1 = state.store.generation :=
      congrArg Store.generation h
    omega

end SnippetServer.Server
