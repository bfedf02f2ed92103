import SnippetServer.Proofs.Sorting
import SnippetServer.Snippet.LoadOrder

namespace SnippetServer.Snippet

/-!
# The load order is a stable sort

Files are read by priority and, among files of one priority, by name.  The order is total on
names, so two files tie only if they have the same name; such files keep their order.

* `loadsBefore_iff` — the order of two files;
* `IsLoadOrder order files sorted` — the files, stably sorted by priority and name;
* `isLoadOrder_inLoadOrder` — that is how they are read;
* `inLoadOrder_eq_insertionSort` — the load order as one that can be computed file by file;
* `inLoadOrder_eq_of_perm` — if no two files have the same name, it does not matter in which order
  they are listed.
-/

variable {order : List Text} {a b : File}

/-! ### The order of two files -/

/-- When a file comes no later than another one. -/
theorem loadsBefore_iff : File.loadsBefore order a b = true ↔
    priority order a.name < priority order b.name ∨
      (priority order a.name = priority order b.name ∧ Text.precedes a.name b.name = true) := by
  simp [File.loadsBefore]

/-- Files are read by priority, and by name among files of one priority. -/
theorem loadsBefore_eq (order : List Text) : File.loadsBefore order =
    byKeyThen (fun f => priority order f.name) fun a b => Text.precedes a.name b.name := rfl

/-- The order of files is transitive. -/
theorem loadsBefore_trans (order : List Text) (a b c : File)
    (hab : File.loadsBefore order a b = true) (hbc : File.loadsBefore order b c = true) :
    File.loadsBefore order a c = true := by
  rw [loadsBefore_eq] at hab hbc ⊢
  exact byKeyThen_trans (fun a b c => Text.precedes_trans a.name b.name c.name) a b c hab hbc

/-- Of two files one comes no later than the other. -/
theorem loadsBefore_total (order : List Text) (a b : File) :
    (File.loadsBefore order a b || File.loadsBefore order b a) = true := by
  rw [loadsBefore_eq]
  exact byKeyThen_total (fun a b => Text.precedes_total a.name b.name) a b

/-- Two files of one name tie. -/
theorem loadsBefore_of_name_eq (h : a.name = b.name) : File.loadsBefore order a b = true :=
  loadsBefore_iff.2 (Or.inr ⟨by rw [h], by rw [h]; exact Text.precedes_refl _⟩)

/-- Two files that may be read in either order have the same name. -/
theorem name_eq_of_loadsBefore (hab : File.loadsBefore order a b = true)
    (hba : File.loadsBefore order b a = true) : a.name = b.name := by
  rw [loadsBefore_eq] at hab hba
  obtain ⟨hname, hname'⟩ := byKeyThen_antisymm hab hba
  exact Text.precedes_antisymm _ _ hname hname'

/-! ### The order of all files -/

/-- The files, stably sorted by priority and name.  A priority belongs to a name, so only files of
one name tie. -/
structure IsLoadOrder (order : List Text) (files sorted : List File) : Prop where
  /-- No file is lost or made up. -/
  perm : sorted.Perm files
  /-- Lower priorities come first, and then smaller names. -/
  ordered : sorted.Pairwise fun a b => priority order a.name < priority order b.name ∨
    (priority order a.name = priority order b.name ∧ Text.precedes a.name b.name = true)
  /-- Files of one name keep their order. -/
  stable : ∀ name, (sorted.filter fun f => f.name = name) = files.filter fun f => f.name = name

/-- The load order, one file after another. -/
theorem inLoadOrder_eq_insertionSort (order : List Text) (files : List File) :
    inLoadOrder order files = files.insertionSort fun a b => File.loadsBefore order a b = true :=
  mergeSort_eq_insertionSort (loadsBefore_trans order) (loadsBefore_total order) files

/-- Files of one name may be read in any order, so sorting does not move them past each other. -/
theorem filter_name_inLoadOrder (order : List Text) (files : List File) (name : Text) :
    ((inLoadOrder order files).filter fun f => f.name = name) =
      files.filter fun f => f.name = name := by
  refine filter_mergeSort (loadsBefore_trans order) (loadsBefore_total order) files ?_
  intro a b ha hb
  exact loadsBefore_of_name_eq ((of_decide_eq_true ha).trans (of_decide_eq_true hb).symm)

/-- **The load order.**  Files are read in the order of a stable sort by priority and name. -/
theorem isLoadOrder_inLoadOrder (order : List Text) (files : List File) :
    IsLoadOrder order files (inLoadOrder order files) where
  perm := List.mergeSort_perm files _
  ordered := by
    have h := List.pairwise_mergeSort (loadsBefore_trans order) (loadsBefore_total order) files
    exact h.imp loadsBefore_iff.1
  stable := filter_name_inLoadOrder order files

/-- Among files of distinct names none tie, so there is one load order only. -/
theorem inLoadOrder_eq_of_perm {files files' : List File} (hn : (files.map File.name).Nodup)
    (h : files.Perm files') : inLoadOrder order files = inLoadOrder order files' := by
  have hperm : (inLoadOrder order files).Perm files := (isLoadOrder_inLoadOrder order files).perm
  have hperm' : (inLoadOrder order files').Perm files' :=
    (isLoadOrder_inLoadOrder order files').perm
  have hsorted := List.pairwise_mergeSort (loadsBefore_trans order) (loadsBefore_total order)
  refine List.Perm.eq_of_pairwise ?_ (hsorted files) (hsorted files')
    (hperm.trans (h.trans hperm'.symm))
  -- files that tie have one name, so they are the same file
  intro a b ha hb hab hba
  have ha' : a ∈ files := hperm.subset ha
  have hb' : b ∈ files := h.symm.subset (hperm'.subset hb)
  exact List.inj_on_of_nodup_map hn ha' hb' (name_eq_of_loadsBefore hab hba)

end SnippetServer.Snippet
