import SnippetServer.Proofs.Path
import SnippetServer.Proofs.Snippet.Directory
import SnippetServer.Snippet.Watcher

namespace SnippetServer.Snippet

/-!
# Changed paths and loaded files

The files of a directory are selected by their names, while a change is told by a whole path.  Both
ask for the same names, so a change concerns the snippets exactly if the loader reads the entry in
which its path ends.

* `Source.IsSnippetName source name` — the names that are asked for: UTF-8, with the extension at
  the end; `acceptsPath_iff` — a path concerns the snippets if it ends in one;
* `file?_withDirectory_iff`, `opened_withDirectory` — the loader reads the entries whose paths
  concern the snippets;
* `Source.IsConcerned source paths` — what makes a batch of paths rebuild a store;
* `OnEntries place change names` — a change of entries of a directory, and `foldl_note` — what a
  watcher on the directory gathers from such changes.
-/

namespace Source

/-- A name that snippet files can have: a text in UTF-8 that ends in the extension. -/
def IsSnippetName (source : Source) (name : Bytes) : Prop :=
  ∃ t, Text.encode t = name ∧ source.extension <:+ t

/-- Some path ends in the name of a snippet file. -/
def IsConcerned (source : Source) (paths : List Path) : Prop :=
  ∃ path ∈ paths, ∃ name, path.EndsIn name ∧ source.IsSnippetName name

/-- The source with another directory. -/
def withDirectory (source : Source) (directory : Path) : Source := { source with directory }

section

variable {source : Source} {tree : FileTree} {path directory : Path} {name : Bytes} {f : File}

/-! ### The filter -/

/-- The filter asks a name for nothing but UTF-8 and the extension. -/
theorem accepts_iff : source.accepts name = true ↔ source.IsSnippetName name := by
  rw [accepts, Option.isSome_iff_exists]
  simp only [acceptedName?_eq_some_iff, Text.decode?_eq_some_iff]
  rfl

/-- A path concerns the snippets exactly if it ends in the name of a snippet file. -/
theorem acceptsPath_iff :
    source.acceptsPath path = true ↔ ∃ name, path.EndsIn name ∧ source.IsSnippetName name := by
  rw [acceptsPath, Option.any_eq_true]
  simp only [Path.fileName?_eq_some_iff, accepts_iff]

/-- Once the name at its end is known, it alone decides. -/
theorem acceptsPath_iff_of_endsIn (h : path.EndsIn name) :
    source.acceptsPath path = true ↔ source.IsSnippetName name := by
  rw [acceptsPath, Path.fileName?_eq_some_iff.2 h, Option.any_some, accepts_iff]

/-- A batch of paths concerns the snippets if one of them does. -/
theorem any_acceptsPath_iff {paths : List Path} :
    paths.any source.acceptsPath = true ↔ source.IsConcerned paths := by
  rw [List.any_eq_true]
  simp only [acceptsPath_iff]
  rfl

/-! ### The loader -/

/-- The loader asks the name for what the filter asks the path. -/
theorem file?_withDirectory_iff (directory : Path) (h : Path.IsEntryName name) :
    (source.withDirectory directory).file? tree name = some f ↔
      source.acceptsPath (directory.join ⟨name⟩) = true ∧ Text.encode f.name = name ∧
        ∃ bytes, tree.readFile? (directory.join ⟨name⟩) = some bytes ∧
          Text.decode? bytes = some f.content := by
  rw [file?_eq_some_iff, acceptsPath_iff_of_endsIn (Path.endsIn_join directory h)]
  constructor
  · intro hf
    have hname := Text.decode?_eq_some_iff.1 hf.name_eq
    exact ⟨⟨f.name, hname, hf.extension_suffix⟩, hname, hf.content_eq⟩
  · rintro ⟨⟨t, ht, hsuffix⟩, hname, hcontent⟩
    -- both texts have the bytes of the name
    have hsame : t = f.name := by
      have hdecode := Text.decode?_eq_some_iff.2 ht
      rw [Text.decode?_eq_some_iff.2 hname] at hdecode
      exact (Option.some.inj hdecode).symm
    exact ⟨Text.decode?_eq_some_iff.2 hname, hsame ▸ hsuffix, hcontent⟩

/-- The entries that are opened are those whose paths concern the snippets. -/
theorem opened_withDirectory {place : Place} (hplace : tree.resolve directory = .ok place)
    (hdirectory : tree.isDirectory place = true)
    (hnames : ∀ name ∈ tree.namesIn place, Path.IsEntryName name) :
    (source.withDirectory directory).opened tree =
      place :: ((tree.namesIn place).filter fun name =>
        source.acceptsPath (directory.join ⟨name⟩)).filterMap fun name =>
          (tree.resolve (directory.join ⟨name⟩)).toOption := by
  -- the name decides, and it stands at the end of the joined path
  have hfilter : (tree.namesIn place).filter (source.withDirectory directory).accepts =
      (tree.namesIn place).filter fun name => source.acceptsPath (directory.join ⟨name⟩) := by
    refine List.filter_congr fun name hname => ?_
    rw [Bool.eq_iff_iff, acceptsPath_iff_of_endsIn (Path.endsIn_join directory (hnames name hname))]
    exact accepts_iff
  rw [opened, show (source.withDirectory directory).directory = directory from rfl, hplace]
  simp only [hdirectory, if_true, hfilter]

/-- Every file that is loaded has the name of a snippet file. -/
theorem isSnippetName_of_mem_found (h : f ∈ source.found tree) :
    source.IsSnippetName (Text.encode f.name) := by
  obtain ⟨entries, -, entry, -, hf⟩ := mem_found.1 h
  exact ⟨f.name, rfl, hf.extension_suffix⟩

end

end Source

/-! ### Batches of paths -/

section

variable {store : Store} {tree : FileTree} {paths : List Path}

/-- A batch that concerns the snippets rebuilds the store. -/
theorem Store.afterBatch_of_concerned (h : store.source.IsConcerned paths) :
    store.afterBatch tree paths = store.rebuild tree :=
  if_pos (Source.any_acceptsPath_iff.2 h)

/-- Any other batch leaves the store as it is. -/
theorem Store.afterBatch_of_not_concerned (h : ¬ store.source.IsConcerned paths) :
    store.afterBatch tree paths = store :=
  if_neg fun hany => h (Source.any_acceptsPath_iff.1 hany)

end

/-! ### What a watcher gathers -/

/-- A change that concerns only entries of a directory, and the names of those. -/
inductive OnEntries (place : Place) : Change → List Bytes → Prop where
  /-- An entry is new, has been written or has been opened. -/
  | touched (name : Bytes) : OnEntries place (.touched (place ++ [name])) [name]
  /-- An entry is gone. -/
  | removed (name : Bytes) : OnEntries place (.removed (place ++ [name])) [name]
  /-- An entry has got another name. -/
  | moved (old new : Bytes) :
    OnEntries place (.moved (place ++ [old]) (place ++ [new])) [old, new]

section

variable {w : Watcher} {place : Place}

/-- The watcher with more paths gathered. -/
def Watcher.gather (w : Watcher) (paths : List Path) : Watcher :=
  { w with gathered := w.gathered ++ paths }

/-- A report about an entry is gathered under the path by which the directory is watched. -/
theorem Watcher.report_entry (h : w.place = some place) (name : Bytes) :
    w.report (place ++ [name]) = w.gather [w.path.join ⟨name⟩] := by
  -- an entry is not the directory itself
  have hne : ¬ place ++ [name] = place := by simp
  have hpath : w.path? (place ++ [name]) = some (w.path.join ⟨name⟩) := by
    rw [Watcher.path?, h, Option.bind_eq_bind, Option.bind_some, if_neg hne,
      List.getLast?_concat, Option.bind_eq_bind, Option.bind_some, List.dropLast_concat, if_pos rfl]
  rw [Watcher.report, hpath]
  rfl

/-- No entry of a directory stands above it. -/
theorem isPrefixOf_entry (place : Place) (name : Bytes) :
    (place ++ [name]).isPrefixOf place = false := by
  rw [Bool.eq_false_iff, ne_eq, List.isPrefixOf_iff_prefix]
  intro h
  have hlength : (place ++ [name]).length ≤ place.length := h.length_le
  rw [List.length_append, List.length_singleton] at hlength
  omega

/-- **Step.**  A change of entries is gathered under the path of the directory joined with their
names, and the directory is watched on. -/
theorem Watcher.note_of_onEntries (hplace : w.place = some place) {change : Change}
    {names : List Bytes} (h : OnEntries place change names) :
    w.note change = w.gather (names.map fun name => w.path.join ⟨name⟩) := by
  cases h with
  | touched name => exact report_entry hplace name
  | removed name =>
    -- the directory is not below its entry, so it is still there
    have hkept : w.place.filter (fun p => !(place ++ [name]).isPrefixOf p) = w.place := by
      rw [hplace, Option.filter_some, isPrefixOf_entry]
      rfl
    rw [note, report_entry hplace, hkept]
    rfl
  | moved old new =>
    have hkept : w.place.bind (movedPlace? (place ++ [old]) (place ++ [new])) = w.place := by
      rw [hplace, Option.bind_some, movedPlace?, isPrefixOf_entry, isPrefixOf_entry]
      rfl
    have hnew := report_entry (w := w.gather [w.path.join ⟨old⟩]) hplace new
    rw [note, report_entry hplace, hnew, hkept]
    simp [gather]

/-- **Run.**  So are several changes, one after the other. -/
theorem Watcher.foldl_note (hplace : w.place = some place) {changes : List Change}
    {names : List (List Bytes)} (h : List.Forall₂ (OnEntries place) changes names) :
    changes.foldl note w = w.gather (names.flatten.map fun name => w.path.join ⟨name⟩) := by
  -- the watcher changes with every change, but not its place
  induction h generalizing w with
  | nil => simp [gather]
  | @cons change first changes more hchange _ ih =>
    have hrest := ih (w := w.gather (first.map fun name => w.path.join ⟨name⟩)) hplace
    rw [List.foldl_cons, note_of_onEntries hplace hchange, hrest]
    simp [gather]

end

end SnippetServer.Snippet
