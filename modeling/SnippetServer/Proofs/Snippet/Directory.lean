import SnippetServer.Proofs.Snippet.LoadOrder
import SnippetServer.Proofs.Text.Decoding
import SnippetServer.Snippet.Source
import Mathlib.Data.List.Nodup

namespace SnippetServer.Snippet

/-!
# What an index depends on

A directory lists its entries in any order, and not all of them are snippet files that can be read.
The index depends only on which files can: on their names and texts, but neither on the order in
which they are listed nor on what else is.

* `Source.Loads source tree f` — the directory has an entry that can be loaded as the file `f`;
* `Source.found source tree` — the files that are loaded, in the order in which they are listed;
* `load_eq_of_loads_iff` — two directories with the same loadable files give the same index.
-/

namespace Source

section

variable {source : Source} {tree tree' : FileTree} {f : File}

/-! ### Loadable files -/

/-- An entry of the directory can be loaded as a file: its name is UTF-8 and ends in the extension,
and what stands under it can be read and is UTF-8. -/
structure LoadsAs (source : Source) (tree : FileTree) (entry : Bytes) (f : File) : Prop where
  /-- The name of the entry is that of the file. -/
  name_eq : Text.decode? entry = some f.name
  /-- It ends in the extension. -/
  extension_suffix : source.extension <:+ f.name
  /-- What can be read under it is the text of the file. -/
  content_eq : ∃ bytes, tree.readFile? (source.directory.join ⟨entry⟩) = some bytes ∧
    Text.decode? bytes = some f.content

/-- The directory lists an entry that can be loaded as the file `f`. -/
def Loads (source : Source) (tree : FileTree) (f : File) : Prop :=
  ∃ entries, tree.listing source.directory = .ok entries ∧ ∃ entry ∈ entries,
    source.LoadsAs tree entry f

/-- No two entries of the directory have the same name. -/
def ListsOnce (source : Source) (tree : FileTree) : Prop :=
  ∀ entries, tree.listing source.directory = .ok entries → entries.Nodup

/-- A name is accepted if it is UTF-8 and ends in the extension. -/
theorem acceptedName?_eq_some_iff {entry : Bytes} {name : Text} :
    source.acceptedName? entry = some name ↔
      Text.decode? entry = some name ∧ source.extension <:+ name := by
  rw [acceptedName?, Option.filter_eq_some_iff, List.isSuffixOf_iff_suffix]

/-- An entry is loaded as a file exactly if it can be. -/
theorem file?_eq_some_iff {entry : Bytes} :
    source.file? tree entry = some f ↔ source.LoadsAs tree entry f := by
  constructor
  · intro h
    -- the name, the bytes and their text are asked for in this order
    unfold file? at h
    obtain ⟨name, hname, h⟩ := Option.bind_eq_some_iff.1 h
    obtain ⟨bytes, hbytes, h⟩ := Option.bind_eq_some_iff.1 h
    obtain ⟨content, hcontent, h⟩ := Option.bind_eq_some_iff.1 h
    obtain rfl := Option.some.inj h
    obtain ⟨hdecode, hsuffix⟩ := acceptedName?_eq_some_iff.1 hname
    exact ⟨hdecode, hsuffix, bytes, hbytes, hcontent⟩
  · rintro ⟨hdecode, hsuffix, bytes, hbytes, hcontent⟩
    have hname := acceptedName?_eq_some_iff.2 ⟨hdecode, hsuffix⟩
    unfold file?
    rw [hname, Option.bind_eq_bind, Option.bind_some, hbytes, Option.bind_eq_bind,
      Option.bind_some, hcontent]
    rfl

/-! ### The files that are loaded -/

/-- The files that are loaded, in the order in which they are listed; none if the directory cannot
be listed. -/
def found (source : Source) (tree : FileTree) : List File := (source.files tree).toOption.getD []

/-- A directory that cannot be listed is like one without files. -/
theorem load_eq_build (source : Source) (tree : FileTree) :
    source.load tree = Index.build source.loadOrder (source.found tree) := by
  unfold load found
  cases source.files tree with
  | ok files => rfl
  | error cause => simp [Except.toOption, Index.build, Index.recordsOf, inLoadOrder]

/-- The files of a directory that is listed are those of its entries that can be loaded. -/
theorem found_of_listing {entries : List Bytes}
    (h : tree.listing source.directory = .ok entries) :
    source.found tree = entries.filterMap (source.file? tree) := by
  rw [found, files, h]
  rfl

/-- A directory that cannot be listed has no files. -/
theorem found_of_error {cause : SystemError}
    (h : tree.listing source.directory = .error cause) : source.found tree = [] := by
  rw [found, files, h]
  rfl

/-- The files that are found are those that can be loaded. -/
theorem mem_found : f ∈ source.found tree ↔ source.Loads tree f := by
  unfold Loads
  cases h : tree.listing source.directory with
  | error cause => simp [found_of_error h]
  | ok entries => simp [found_of_listing h, file?_eq_some_iff]

/-- Names that differ as byte strings differ as texts, so the files have distinct names too. -/
theorem nodup_names_found (h : source.ListsOnce tree) :
    ((source.found tree).map File.name).Nodup := by
  cases hl : tree.listing source.directory with
  | error cause => simp [found_of_error hl]
  | ok entries =>
    rw [found_of_listing hl, List.Nodup, List.pairwise_map]
    refine List.Pairwise.filterMap _ ?_ (h entries hl)
    -- two entries with files of one name would have the same bytes
    intro entry entry' hne a ha b hb hname
    have hdecode := (file?_eq_some_iff.1 ha).name_eq
    have hdecode' := (file?_eq_some_iff.1 hb).name_eq
    rw [← hname] at hdecode'
    exact hne (Text.decode?_injective hdecode hdecode')

/-- Directories with the same loadable files find them, in one order or another. -/
theorem found_perm (h : source.ListsOnce tree) (h' : source.ListsOnce tree')
    (hsame : ∀ f, source.Loads tree f ↔ source.Loads tree' f) :
    (source.found tree).Perm (source.found tree') := by
  have hnodup := List.Nodup.of_map _ (nodup_names_found h)
  have hnodup' := List.Nodup.of_map _ (nodup_names_found h')
  rw [List.perm_ext_iff_of_nodup hnodup hnodup']
  intro f
  rw [mem_found, mem_found, hsame f]

/-- **The index depends on the loadable files only.**  Two directories, or one directory at two
times, that have the same loadable files give the same index, whatever the order in which they list
them and whatever else they list. -/
theorem load_eq_of_loads_iff (h : source.ListsOnce tree) (h' : source.ListsOnce tree')
    (hsame : ∀ f, source.Loads tree f ↔ source.Loads tree' f) :
    source.load tree = source.load tree' := by
  have hperm := found_perm h h' hsame
  have hrecords : Index.recordsOf source.loadOrder (source.found tree) =
      Index.recordsOf source.loadOrder (source.found tree') := by
    unfold Index.recordsOf
    rw [inLoadOrder_eq_of_perm (nodup_names_found h) hperm]
  rw [load_eq_build, load_eq_build, Index.build, Index.build, hrecords]

end

namespace MixedListings

/-- The files of the root whose names end in `.s`. -/
def source : Source := ⟨Path.ofText ['/'], ['.', 's'], [['z']]⟩

/-- A snippet file. -/
def first : Place × Node :=
  ([Text.encode "a.s".toList], .file (Text.encode "#t=A\n#g=a\nx".toList) none)

/-- Another one, with a record of the same body. -/
def second : Place × Node :=
  ([Text.encode "z.s".toList], .file (Text.encode "#t=Z\n#g=z\nx".toList) none)

/-- Both files among an entry whose name is not UTF-8, a file that is not UTF-8 and a link that
leads nowhere. -/
def tree : FileTree where
  home := []
  nodes := [first, ([[0xFF, 0x2E, 0x73]], .file [] none),
    ([Text.encode "b.s".toList], .file [0xFF] none), second,
    ([Text.encode "c.s".toList], .link (Path.ofText ['n']))]

/-- Both files in the other order, among a directory with the name of a snippet file and a file
with another name. -/
def otherTree : FileTree where
  home := []
  nodes := [second, ([Text.encode "d.s".toList], .directory), first,
    ([Text.encode "e".toList], .file [] none)]

end MixedListings

open MixedListings in
/-- Both listings of the two files give one index. -/
theorem load_eq_of_loads_iff_mixed :
    source.ListsOnce tree ∧ source.ListsOnce otherTree ∧
      (∀ f, source.Loads tree f ↔ source.Loads otherTree f) ∧
      source.load tree = source.load otherTree := by
  have hlisting : tree.listing source.directory = .ok (tree.nodes.flatMap Prod.fst) := rfl
  have hlisting' : otherTree.listing source.directory =
      .ok (otherTree.nodes.flatMap Prod.fst) := rfl
  have h : source.ListsOnce tree := by
    intro entries he
    obtain rfl := Except.ok.inj (hlisting.symm.trans he)
    decide
  have h' : source.ListsOnce otherTree := by
    intro entries he
    obtain rfl := Except.ok.inj (hlisting'.symm.trans he)
    decide
  have hfound : source.found tree = [⟨"a.s".toList, "#t=A\n#g=a\nx".toList⟩,
    ⟨"z.s".toList, "#t=Z\n#g=z\nx".toList⟩] := rfl
  have hfound' : source.found otherTree = [⟨"z.s".toList, "#t=Z\n#g=z\nx".toList⟩,
    ⟨"a.s".toList, "#t=A\n#g=a\nx".toList⟩] := rfl
  have hsame : ∀ f, source.Loads tree f ↔ source.Loads otherTree f := by
    intro f
    rw [← mem_found, ← mem_found, hfound, hfound', List.mem_pair, List.mem_pair]
    exact or_comm
  exact ⟨h, h', hsame, load_eq_of_loads_iff h h' hsame⟩

end Source

end SnippetServer.Snippet
