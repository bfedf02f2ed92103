import SnippetServer.Proofs.Snippet.LoadOrder
import SnippetServer.Proofs.Snippet.Section
import SnippetServer.Snippet.Index
import Mathlib.Data.List.Basic

namespace SnippetServer.Snippet

/-!
# Splitting snippet files

A label line closes whatever was open before it.  So a file that is split in front of a label line
gives the same records in two parts, and an index does not tell where one file ends and the next
one begins.

* `Record.readFrom_append_label` — a reader that comes to a label line starts anew;
* `Record.readAll_append` — the records of a file that is split;
* `TakePlace order others whole first second` — two files stand where one file stood in load order;
  `inLoadOrder_of_takePlace` says what that does to the load order;
* `index_of_parts` — the records and the index after a split.
-/

/-! ### Reading up to a label line -/

/-- A text that begins with the marker of a label begins with a label line. -/
theorem fileLines_of_labelMarker {t : Text} (h : labelMarker <+: t) :
    ∃ head lines, Text.fileLines t = (labelMarker ++ head) :: lines := by
  obtain ⟨r, rfl⟩ := h
  have hmarker : '\n' ∉ labelMarker := by decide
  by_cases hlf : '\n' ∈ r
  · obtain ⟨head, rest, rfl, hhead⟩ := List.eq_append_cons_of_mem hlf
    have hline : '\n' ∉ labelMarker ++ head := by
      rw [List.mem_append, not_or]
      exact ⟨hmarker, hhead⟩
    rw [← List.append_assoc, Text.fileLines_append_lf hline]
    -- the line may lose a CR, but not one of the marker
    rcases Text.dropCR_cases head with hcr | ⟨hcr, hne⟩
    · refine ⟨Text.dropCR head, Text.fileLines rest, ?_⟩
      rw [hcr, ← List.append_assoc, Text.dropCR_concat_cr, Text.dropCR_concat_cr]
    · refine ⟨head, Text.fileLines rest, ?_⟩
      rw [Text.dropCR_of_ne]
      rw [List.getLast?_append]
      cases hl : head.getLast? with
      | none => decide
      | some c => simpa [hl] using hne
  · refine ⟨r, [], Text.fileLines_of_not_mem (by simp [labelMarker]) ?_⟩
    rw [List.mem_append, not_or]
    exact ⟨hmarker, hlf⟩

/-- A text that is not empty keeps what stands behind it when its byte-order mark is removed. -/
theorem withoutMark_append {a : Text} (h : a ≠ []) (b : Text) :
    withoutMark (a ++ b) = withoutMark a ++ b := by
  cases a with
  | nil => exact absurd rfl h
  | cons c r =>
    by_cases hc : c = '\ufeff'
    · rw [hc]
      rfl
    · have hkept : ∀ t : Text, withoutMark (c :: t) = c :: t := fun t =>
        withoutMark_of_head?_ne fun h => hc (Option.some.inj h)
      rw [List.cons_append, hkept, hkept, List.cons_append]

/-- A text loses at most its first character, which is no LF, so it still ends where it did. -/
theorem endsLine_withoutMark {a : Text} (h : Text.EndsLine a) : Text.EndsLine (withoutMark a) := by
  unfold withoutMark
  split
  · rename_i r
    -- what stands behind the mark ends as the whole does, or is nothing
    rcases h with h | h
    · simp at h
    · cases r with
      | nil => exact Or.inl rfl
      | cons c r => exact Or.inr (by simpa [List.getLast?_cons_cons] using h)
  · exact h

namespace Record

/-- A label line finishes the draft in front of it, whatever came before, and nothing of it is left
behind the line. -/
theorem readFrom_append_label (d : Draft) (lines : List Text) (head : Text) (more : List Text) :
    readFrom d (lines ++ (labelMarker ++ head) :: more) =
      readFrom d lines ++ readLines ((labelMarker ++ head) :: more) := by
  -- line by line, with the records that come out on the way on both sides
  induction lines generalizing d with
  | nil =>
    rw [List.nil_append, readLines, readFrom, readFrom, readFrom, ofText_label]
    rfl
  | cons line lines ih =>
    rw [List.cons_append, readFrom, readFrom]
    cases Line.ofText line with
    | label name =>
      dsimp only
      rw [ih, List.append_assoc]
    | trigger text => exact ih _
    | body text => exact ih _

/-- A file that is split in front of a label line gives the records of its parts. -/
theorem readAll_append {a b : Text} (ha : Text.EndsLine a) (hb : labelMarker <+: b) :
    readAll (a ++ b) = readAll a ++ readAll b := by
  obtain ⟨r, rfl⟩ := hb
  cases a with
  | nil => rfl
  | cons c t =>
    -- only the first part can begin with a byte-order mark
    have hmark : withoutMark (labelMarker ++ r) = labelMarker ++ r := rfl
    obtain ⟨head, lines, hlines⟩ := fileLines_of_labelMarker (List.prefix_append labelMarker r)
    rw [readAll, readAll, readAll, withoutMark_append (List.cons_ne_nil c t), hmark,
      Text.fileLines_append (endsLine_withoutMark ha), hlines]
    exact readFrom_append_label .empty _ head lines

end Record

/-! ### Two files in the place of one -/

/-- In load order two files stand where one file stood: the first one right in front of the second
one, and every other file on the same side of both. -/
structure TakePlace (order : List Text) (others : List File) (whole first second : File) :
    Prop where
  /-- The first part is read before the second one. -/
  first_second : File.loadsBefore order first second = true
  /-- What was read before the whole file is read before the first part. -/
  before_first : ∀ f ∈ others,
    File.loadsBefore order f whole = true → File.loadsBefore order f first = true
  /-- What was read after the whole file is read after the second part. -/
  after_second : ∀ f ∈ others,
    File.loadsBefore order whole f = true → File.loadsBefore order second f = true

section

variable {order : List Text} {files parts others : List File} {whole first second : File}

/-- Files of distinct names that stand in load order are read as they stand. -/
theorem inLoadOrder_eq_of_pairwise {sorted : List File} (hn : (files.map File.name).Nodup)
    (hperm : files.Perm sorted)
    (hsorted : sorted.Pairwise fun f g => File.loadsBefore order f g = true) :
    inLoadOrder order files = sorted := by
  rw [inLoadOrder_eq_of_perm hn hperm]
  exact List.mergeSort_of_pairwise hsorted

/-- The load order stays what it was, with the two files in the place of the one. -/
theorem inLoadOrder_of_takePlace (hfiles : files.Perm (whole :: others))
    (hparts : parts.Perm (first :: second :: others)) (hn : (parts.map File.name).Nodup)
    (h : TakePlace order others whole first second) :
    ∃ front back, inLoadOrder order files = front ++ whole :: back ∧
      inLoadOrder order parts = front ++ first :: second :: back := by
  have hperm : (inLoadOrder order files).Perm files := (isLoadOrder_inLoadOrder order files).perm
  have hsorted : (inLoadOrder order files).Pairwise fun f g => File.loadsBefore order f g = true :=
    List.pairwise_mergeSort (loadsBefore_trans order) (loadsBefore_total order) files
  have hmem : whole ∈ inLoadOrder order files :=
    (hperm.trans hfiles).mem_iff.2 List.mem_cons_self
  obtain ⟨front, back, hcut⟩ := List.append_of_mem hmem
  refine ⟨front, back, hcut, ?_⟩
  -- the files in front and behind are the other ones
  have hothers : (front ++ back).Perm others := by
    rw [hcut] at hperm
    exact (List.perm_middle.symm.trans (hperm.trans hfiles)).cons_inv
  have hfront : ∀ f ∈ front, f ∈ others := fun f hf =>
    hothers.subset (List.mem_append_left back hf)
  have hback : ∀ f ∈ back, f ∈ others := fun f hf =>
    hothers.subset (List.mem_append_right front hf)
  rw [hcut, List.pairwise_append, List.pairwise_cons] at hsorted
  obtain ⟨hff, ⟨hwb, hbb⟩, hfb⟩ := hsorted
  have hsecond : ∀ g ∈ back, File.loadsBefore order second g = true := fun g hg =>
    h.after_second g (hback g hg) (hwb g hg)
  have hfirst : ∀ f ∈ front, File.loadsBefore order f first = true := fun f hf =>
    h.before_first f (hfront f hf) (hfb f hf whole List.mem_cons_self)
  refine inLoadOrder_eq_of_pairwise hn ?_ ?_
  · have hmiddle : (front ++ first :: second :: back).Perm (first :: second :: (front ++ back)) :=
      List.perm_middle.trans (List.perm_middle.cons first)
    exact hparts.trans (((hothers.symm.cons second).cons first).trans hmiddle.symm)
  · -- the new list is in order: its parts are, and the two files fit between them
    rw [List.pairwise_append, List.pairwise_cons, List.pairwise_cons]
    refine ⟨hff, ⟨?_, hsecond, hbb⟩, ?_⟩
    · intro g hg
      rcases List.mem_cons.1 hg with rfl | hg
      · exact h.first_second
      · exact loadsBefore_trans order _ _ _ h.first_second (hsecond g hg)
    · intro f hf g hg
      rcases List.mem_cons.1 hg with rfl | hg
      · exact hfirst f hf
      rcases List.mem_cons.1 hg with rfl | hg
      · exact loadsBefore_trans order _ _ _ (hfirst f hf) h.first_second
      · exact hfb f hf g (List.mem_cons_of_mem whole hg)

end

/-! ### The index of a split file -/

/-- Files that give the same records in load order give the same index. -/
theorem Index.build_eq_of_readAll {order : List Text} {files parts front back : List File}
    {whole first second : File} (hfiles : inLoadOrder order files = front ++ whole :: back)
    (hparts : inLoadOrder order parts = front ++ first :: second :: back)
    (h : Record.readAll whole.content =
      Record.readAll first.content ++ Record.readAll second.content) :
    build order parts = build order files := by
  rw [build, build, recordsOf, recordsOf, hfiles, hparts, List.flatMap_append, List.flatMap_append,
    List.flatMap_cons, List.flatMap_cons, List.flatMap_cons, h, List.append_assoc]

/-- **How snippets are spread over files does not matter.**  A file that is split in front of a
label line gives the records of its parts.  If the parts are files of their own that take its place
in load order, whatever their names, the index is the same. -/
theorem index_of_parts {a b : Text} (ha : Text.EndsLine a) (hb : labelMarker <+: b) :
    Record.readAll (a ++ b) = Record.readAll a ++ Record.readAll b ∧
    ∀ (order : List Text) (files parts others : List File) (name first second : Text),
      files.Perm (⟨name, a ++ b⟩ :: others) →
      parts.Perm (⟨first, a⟩ :: ⟨second, b⟩ :: others) → (parts.map File.name).Nodup →
      TakePlace order others ⟨name, a ++ b⟩ ⟨first, a⟩ ⟨second, b⟩ →
        (∃ front back, inLoadOrder order files = front ++ ⟨name, a ++ b⟩ :: back ∧
          inLoadOrder order parts = front ++ ⟨first, a⟩ :: ⟨second, b⟩ :: back) ∧
        Index.build order parts = Index.build order files := by
  have hread := Record.readAll_append ha hb
  refine ⟨hread, fun order files parts others name first second hfiles hparts hn hplace => ?_⟩
  obtain ⟨front, back, hwhole, hsplit⟩ := inLoadOrder_of_takePlace hfiles hparts hn hplace
  exact ⟨⟨front, back, hwhole, hsplit⟩, Index.build_eq_of_readAll hwhole hsplit hread⟩

namespace SplitCorpus

/-- A mark, a record with blank lines behind its body, and a label that never gets a trigger. -/
def head : Text := "\ufeff#t=A\n#g=a\nx\n \n\n#t=B\nlost\n".toList

/-- A record with the same body, whose last line is not ended. -/
def tail : Text := "#t=C\r\n#g=c\nx".toList

/-- A file that is read before the others, and one that is read after them. -/
def others : List File := [⟨"z".toList, "#t=Z\n#g=z\ny".toList⟩, ⟨"fast".toList, tail⟩]

/-- The two parts as one file. -/
def whole : File := ⟨"b".toList, head ++ tail⟩

/-- The first part. -/
def first : File := ⟨"a".toList, head⟩

/-- The second part. -/
def second : File := ⟨"c".toList, tail⟩

end SplitCorpus

open SplitCorpus in
/-- The parts stand between the other files, and all of them give the index with two entries. -/
theorem index_of_parts_corpus :
    Text.EndsLine head ∧ labelMarker <+: tail ∧
      ([second] ++ others ++ [first]).Perm (first :: second :: others) ∧
      TakePlace defaultLoadOrder others whole first second ∧
      Record.readAll (head ++ tail) = Record.readAll head ++ Record.readAll tail ∧
      Index.build defaultLoadOrder ([second] ++ others ++ [first]) =
        Index.build defaultLoadOrder (whole :: others) ∧
      (Index.build defaultLoadOrder (whole :: others)).size = 2 := by
  have hhead : Text.EndsLine head := by decide
  have htail : labelMarker <+: tail := by decide
  have hperm : ([second] ++ others ++ [first]).Perm (first :: second :: others) := by decide
  have hnames : (([second] ++ others ++ [first]).map File.name).Nodup := by decide
  have hplace : TakePlace defaultLoadOrder others whole first second :=
    ⟨by decide, by decide, by decide⟩
  obtain ⟨hread, hbuild⟩ := index_of_parts hhead htail
  have hindex := (hbuild defaultLoadOrder _ _ others _ _ _ (List.Perm.refl _) hperm hnames hplace).2
  refine ⟨hhead, htail, hperm, hplace, hread, hindex, ?_⟩
  rw [Index.build, Index.recordsOf, inLoadOrder_eq_insertionSort]
  rfl

end SnippetServer.Snippet
