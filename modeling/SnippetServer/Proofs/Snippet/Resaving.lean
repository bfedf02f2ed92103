import SnippetServer.Proofs.Snippet.Summary
import SnippetServer.Proofs.Text.Lines
import Mathlib.Data.List.Forall2

namespace SnippetServer.Snippet

/-!
# Saving snippet files again

Editors differ in how they end lines and in whether they put a byte-order mark in front.  A file
that one of them saves again holds the same records, so it gives the same entries, and bodies that
differ only in the line ends of their files are one body.

* `Resaved t t'` — what an editor can make of a text; `Record.readAll_resaved` says that the
  records stay;
* `recordsOf_eq_of_map_eq` — of a file only the name and the records count;
* `index_of_resaved` — the records and the index after files have been saved again.
-/

/-! ### The records of a text that is saved again -/

/-- Taking off the mark adds no character. -/
theorem withoutMark_subset (t : Text) : withoutMark t ⊆ t := by
  unfold withoutMark
  split
  · exact List.subset_cons_self _ _
  · exact List.Subset.refl t

/-- A byte-order mark is no line end, so it stays in front. -/
theorem addsReturns_withoutMark {t t' : Text} (h : Text.AddsReturns t t') :
    Text.AddsReturns (withoutMark t) (withoutMark t') := by
  cases h with
  | nil => exact .nil
  | @keep t t' c h =>
    by_cases hc : c = '\ufeff'
    · subst hc
      exact h
    · -- any other first character stays, with or without CRs behind it
      have hkept : ∀ s : Text, withoutMark (c :: s) = c :: s := fun s =>
        withoutMark_of_head?_ne fun heq => hc (Option.some.inj heq)
      rw [hkept, hkept]
      exact .keep c h
  | put h => exact .put h

/-- What an editor can make of a text: it puts CRs before LFs if the text holds no CR, and then a
byte-order mark in front if there is none; it may leave out either. -/
def Resaved (t t' : Text) : Prop :=
  ∃ s, (s = t ∨ '\r' ∉ t ∧ Text.AddsReturns t s) ∧
    (t' = s ∨ s.head? ≠ some '\ufeff' ∧ t' = '\ufeff' :: s)

namespace Record

/-- CRs before LFs leave the records of a text that had none. -/
theorem readAll_addsReturns {t t' : Text} (hcr : '\r' ∉ t) (h : Text.AddsReturns t t') :
    readAll t' = readAll t := by
  have hcr' : '\r' ∉ withoutMark t := fun hmem => hcr (withoutMark_subset t hmem)
  have hlines := (Text.hasLines_fileLines _).addsReturns hcr' (addsReturns_withoutMark h)
  rw [readAll, hlines.fileLines_eq, readAll]

/-- A mark in front leaves the records of a text that had none. -/
theorem readAll_mark {t : Text} (h : t.head? ≠ some '\ufeff') :
    readAll ('\ufeff' :: t) = readAll t := by
  rw [readAll, readAll, withoutMark_of_head?_ne h]
  rfl

/-- Whatever an editor makes of a text when it saves it again, the records stay. -/
theorem readAll_resaved {t t' : Text} (h : Resaved t t') : readAll t' = readAll t := by
  obtain ⟨s, hs, ht⟩ := h
  have hreturns : readAll s = readAll t := by
    rcases hs with rfl | ⟨hcr, hs⟩
    · rfl
    · exact readAll_addsReturns hcr hs
  rcases ht with rfl | ⟨hmark, rfl⟩
  · exact hreturns
  · rw [readAll_mark hmark, hreturns]

end Record

/-! ### The index of files that are saved again -/

/-- The name of a file and its records. -/
def File.contribution (f : File) : Text × List Record := (f.name, Record.readAll f.content)

namespace Index

/-- Of a file only the name and the records count: the name for the place where it is read, the
records for what is read there. -/
theorem recordsOf_eq_of_map_eq (order : List Text) {files files' : List File}
    (h : files'.map File.contribution = files.map File.contribution) :
    recordsOf order files' = recordsOf order files := by
  -- the order of two files can be told from their contributions
  have hsort : ∀ fs : List File, (inLoadOrder order fs).map File.contribution =
      (fs.map File.contribution).mergeSort
        fun p q => File.loadsBefore order ⟨p.1, []⟩ ⟨q.1, []⟩ :=
    fun fs => List.map_mergeSort fun _ _ _ _ => rfl
  have hrecords : ∀ fs : List File, recordsOf order fs =
      ((inLoadOrder order fs).map File.contribution).flatMap Prod.snd := by
    intro fs
    rw [recordsOf, List.flatMap_map]
    rfl
  rw [hrecords, hrecords, hsort, hsort, h]

/-- A file whose records are those of another one adds no body. -/
theorem bodies_perm_of_readAll_eq (order : List Text) {files : List File} {f copy : File}
    (hf : f ∈ files) (h : Record.readAll copy.content = Record.readAll f.content) :
    ((build order (copy :: files)).entries.map Entry.body).Perm
      ((build order files).entries.map Entry.body) := by
  -- the copy may be read first, so only the sets of records are the same
  have hrecords : ∀ r, r ∈ recordsOf order (copy :: files) ↔ r ∈ recordsOf order files := by
    intro r
    rw [mem_recordsOf, mem_recordsOf, List.exists_mem_cons_iff, h]
    exact or_iff_right_of_imp fun hr => ⟨f, hf, hr⟩
  rw [build, build, map_body_ofRecords, map_body_ofRecords,
    List.perm_ext_iff_of_nodup (Record.nodup_bodies _) (Record.nodup_bodies _)]
  intro body
  simp only [Record.mem_bodies, hrecords]

end Index

/-- A file has been saved again, under its name. -/
def File.Resaved (f f' : File) : Prop := f'.name = f.name ∧ Snippet.Resaved f.content f'.content

/-- A file that has been saved again has its name and its records still. -/
theorem File.Resaved.contribution_eq {f f' : File} (h : f.Resaved f') :
    f'.contribution = f.contribution := by
  rw [contribution, contribution, h.1, Record.readAll_resaved h.2]

/-- **How a file is saved does not matter.**  Neither CRs before LFs nor a byte-order mark change
the records of a text that had none.  So whichever files are saved again, the index is the same, and
a copy of a file that is saved in another way adds no entry. -/
theorem index_of_resaved :
    (∀ t t' : Text, '\r' ∉ t → Text.AddsReturns t t' → Record.readAll t' = Record.readAll t) ∧
    (∀ t : Text, t.head? ≠ some '\ufeff' →
      Record.readAll ('\ufeff' :: t) = Record.readAll t) ∧
    (∀ (order : List Text) (files files' : List File), List.Forall₂ File.Resaved files files' →
      Index.build order files' = Index.build order files) ∧
    ∀ (order : List Text) (files : List File) (f copy : File), f ∈ files →
      Resaved f.content copy.content →
        ((Index.build order (copy :: files)).entries.map Entry.body).Perm
          ((Index.build order files).entries.map Entry.body) := by
  refine ⟨fun t t' => Record.readAll_addsReturns, fun t => Record.readAll_mark, ?_, ?_⟩
  · -- file by file, the names and the records are the same
    intro order files files' h
    have hmap : files'.map File.contribution = files.map File.contribution := by
      rw [← List.forall₂_eq_eq_eq, List.forall₂_map_left_iff, List.forall₂_map_right_iff]
      exact h.flip.imp fun _ _ => File.Resaved.contribution_eq
    rw [Index.build, Index.build, Index.recordsOf_eq_of_map_eq order hmap]
  · intro order files f copy hf h
    exact Index.bodies_perm_of_readAll_eq order hf (Record.readAll_resaved h)

namespace ResavedCorpus

/-- Two records with blank lines between them; the last line is not ended. -/
def plain : Text := "#t=A\n#g=a\nx\n \n\n#t=B\n#g=b\nx".toList

/-- Some of its lines end in CR LF. -/
def mixed : Text := "#t=A\r\n#g=a\nx\r\n \n\r\n#t=B\n#g=b\nx".toList

/-- Two files with these records. -/
def files : List File := [⟨"b".toList, plain⟩, ⟨"a".toList, plain⟩]

/-- One of them has been saved again, with a mark in front. -/
def saved : List File := [⟨"b".toList, '\ufeff' :: mixed⟩, ⟨"a".toList, plain⟩]

/-- A copy under another name, with a mark in front. -/
def copy : File := ⟨"fast".toList, '\ufeff' :: plain⟩

/-- The text with some CRs and a mark is what an editor can make of the plain one. -/
theorem resaved_plain : Resaved plain ('\ufeff' :: mixed) :=
  ⟨mixed, Or.inr (by decide), Or.inr (by decide)⟩

end ResavedCorpus

open ResavedCorpus in
/-- Lines that end in different ways, a mark and a copy: the index has one entry all the time. -/
theorem index_of_resaved_corpus :
    '\r' ∉ plain ∧ Text.AddsReturns plain mixed ∧ mixed.head? ≠ some '\ufeff' ∧
      Record.readAll mixed = Record.readAll plain ∧
      Record.readAll ('\ufeff' :: mixed) = Record.readAll mixed ∧
      Index.build defaultLoadOrder saved = Index.build defaultLoadOrder files ∧
      ((Index.build defaultLoadOrder (copy :: files)).entries.map Entry.body).Perm
        ((Index.build defaultLoadOrder files).entries.map Entry.body) ∧
      (Index.build defaultLoadOrder files).size = 1 := by
  have hcr : '\r' ∉ plain := by decide
  have hadds : Text.AddsReturns plain mixed := by decide
  have hmark : mixed.head? ≠ some '\ufeff' := by decide
  have hfiles : List.Forall₂ File.Resaved files saved :=
    .cons ⟨rfl, resaved_plain⟩ (.cons ⟨rfl, plain, Or.inl rfl, Or.inl rfl⟩ .nil)
  have hcopy : Resaved plain copy.content := ⟨plain, Or.inl rfl, Or.inr ⟨by decide, rfl⟩⟩
  obtain ⟨hreturns, hmarked, hindex, hbodies⟩ := index_of_resaved
  refine ⟨hcr, hadds, hmark, hreturns plain mixed hcr hadds, hmarked mixed hmark,
    hindex defaultLoadOrder files saved hfiles,
    hbodies defaultLoadOrder files ⟨"a".toList, plain⟩ copy (by decide) hcopy, ?_⟩
  rw [Index.build, Index.recordsOf, inLoadOrder_eq_insertionSort]
  rfl

end SnippetServer.Snippet
