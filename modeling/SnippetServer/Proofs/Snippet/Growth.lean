import SnippetServer.Proofs.Snippet.Summary
import Mathlib.Data.List.Forall2

namespace SnippetServer.Snippet

/-!
# What more files do to an index

Files that are read later only add to an index: they give triggers to entries that are there, and
entries behind them.  A file that is read between others can change labels and ranks, but it takes
away no body and no trigger.

* `Entry.GoesOn e e'` — the entry `e'` is `e` with more triggers behind;
* `Index.Extends old new rs` — what the records `rs` can make of an index; `extends_ofRecords` says
  that they do;
* `Index.Covers old new` — no body and no trigger is lost; `covers_ofRecords` says when that is so;
* `index_grows` — both for files, by where they stand in load order.
-/

/-- An entry has kept its label, its rank, its body and its triggers, and may have got more
triggers. -/
structure Entry.GoesOn (e e' : Entry) : Prop where
  /-- The label is the same. -/
  label_eq : e'.label = e.label
  /-- The rank is the same. -/
  rank_eq : e'.rank = e.rank
  /-- The body is the same. -/
  body_eq : e'.body = e.body
  /-- New triggers stand behind the old ones. -/
  triggers_prefix : e.triggers <+: e'.triggers

/-- The first record with a body and the triggers met so far stay when more records come. -/
theorem Entry.goesOn_summary {rs : List Record} {body : Text} (h : body ∈ Record.bodies rs)
    (more : List Record) (rank : Nat) :
    (Entry.summary rs rank body).GoesOn (Entry.summary (rs ++ more) rank body) := by
  obtain ⟨first, rest, hw⟩ := Record.exists_withBody_eq_cons h
  -- the records with the body begin with those that were there
  have happend : Record.withBody body (rs ++ more) =
      first :: (rest ++ Record.withBody body more) := by
    have h := List.filter_append (p := fun r : Record => r.bodyText = body) rs more
    rw [Record.withBody] at hw
    rw [Record.withBody, h, hw]
    rfl
  refine ⟨?_, rfl, rfl, ?_⟩
  · rw [Entry.summary, Entry.summary, happend, hw]
    rfl
  · rw [Entry.summary, Entry.summary, happend, hw, ← List.cons_append, List.map_append,
      List.eraseDups_append]
    exact List.prefix_append _ _

/-- The bodies of more records stand behind those that are there already. -/
theorem Record.bodies_append (rs more : List Record) :
    bodies (rs ++ more) =
      bodies rs ++ ((more.map bodyText).filter fun body => body ∉ bodies rs).eraseDups := by
  rw [bodies, List.map_append, List.eraseDups_append, List.removeAll]
  congr 2
  refine List.filter_congr fun body _ => ?_
  simp only [bodies, List.mem_eraseDups, List.elem_eq_mem, decide_not]

namespace Index

/-! ### Later records -/

/-- What records can make of an index: its entries go on in their places, and behind them stand
the bodies that are new, in the order in which they are first met. -/
structure Extends (old new : Index) (rs : List Record) : Prop where
  /-- The entries that were there go on. -/
  kept : List.Forall₂ Entry.GoesOn old.entries (new.entries.take old.size)
  /-- The others have the bodies that are new. -/
  added : (new.entries.drop old.size).map Entry.body =
    ((rs.map Record.bodyText).filter fun body => (old.get? body).isNone).eraseDups

/-- An index has as many entries as there are bodies. -/
theorem size_ofRecords (rs : List Record) : (ofRecords rs).size = (Record.bodies rs).length := by
  rw [← length_entries, entries_ofRecords, List.length_mapIdx]

/-- A body is new exactly if no record has it. -/
theorem isNone_get?_ofRecords (rs : List Record) (body : Text) :
    ((ofRecords rs).get? body).isNone = decide (body ∉ Record.bodies rs) := by
  rw [← Bool.coe_iff_coe, Option.isNone_iff_eq_none, decide_eq_true_eq,
    (summarizes_ofRecords rs).get?_eq_none, Record.mem_bodies]
  simp

/-- Entries that are told apart by place and body are related if they are so one by one. -/
theorem forall₂_mapIdx {α β : Type _} {R : β → β → Prop} {f g : Nat → α → β} {l : List α}
    (h : ∀ i, ∀ a ∈ l, R (f i a) (g i a)) : List.Forall₂ R (l.mapIdx f) (l.mapIdx g) := by
  rw [List.forall₂_iff_get]
  refine ⟨by simp, fun i hi _ => ?_⟩
  simpa using h i _ (List.getElem_mem (by simpa using hi))

/-- **Later records.**  They give triggers to entries that are there, and entries behind them. -/
theorem extends_ofRecords (rs more : List Record) :
    (ofRecords rs).Extends (ofRecords (rs ++ more)) more where
  kept := by
    -- the entries in the old places have the old bodies
    rw [size_ofRecords, entries_ofRecords, entries_ofRecords, Record.bodies_append,
      List.mapIdx_append, List.take_left' List.length_mapIdx]
    exact forall₂_mapIdx fun rank body hbody => Entry.goesOn_summary hbody more rank
  added := by
    rw [size_ofRecords, List.map_drop, map_body_ofRecords, Record.bodies_append, List.drop_left]
    simp only [isNone_get?_ofRecords]

/-! ### Records in between -/

/-- No body is lost, and no entry loses a trigger. -/
def Covers (old new : Index) : Prop :=
  ∀ e ∈ old.entries, ∃ e' ∈ new.entries, e'.body = e.body ∧ e.triggers ⊆ e'.triggers

/-- Every record has an entry. -/
theorem exists_entry_of_mem {rs : List Record} {r : Record} (h : r ∈ rs) :
    ∃ e ∈ (ofRecords rs).entries, e.body = r.bodyText := by
  rw [← List.mem_map, map_body_ofRecords]
  exact Record.mem_bodies.2 ⟨r, h, rfl⟩

/-- The triggers of an entry are those of the records with its body. -/
theorem mem_triggers_of_mem_entries {rs : List Record} {e : Entry} (he : e ∈ (ofRecords rs).entries)
    {trigger : Text} :
    trigger ∈ e.triggers ↔ ∃ r ∈ rs, r.bodyText = e.body ∧ r.trigger = trigger := by
  rw [(summarizes_ofRecords rs).triggers_eq e he, List.mem_eraseDups, List.mem_map]
  simp [and_assoc]

/-- More records cover fewer, wherever they stand. -/
theorem covers_ofRecords {rs more : List Record} (h : rs ⊆ more) :
    (ofRecords rs).Covers (ofRecords more) := by
  intro e he
  -- some record has the body of the entry, and it is among the others, too
  obtain ⟨r, hr, hbody⟩ := Record.mem_bodies.1 <|
    map_body_ofRecords rs ▸ List.mem_map_of_mem (f := Entry.body) he
  obtain ⟨e', he', hbody'⟩ := exists_entry_of_mem (h hr)
  refine ⟨e', he', hbody'.trans hbody, fun trigger htrigger => ?_⟩
  obtain ⟨s, hs, hsbody, hstrigger⟩ := (mem_triggers_of_mem_entries he).1 htrigger
  refine (mem_triggers_of_mem_entries he').2 ⟨s, h hs, ?_, hstrigger⟩
  rw [hsbody, hbody', hbody]

end Index

/-! ### More files -/

/-- **More files only add to an index.**  Files that are read later extend it.  A file that is added
anywhere takes away no body and no trigger. -/
theorem index_grows (order : List Text) :
    (∀ files early late : List File, inLoadOrder order files = early ++ late →
      Index.build order files = Index.build order (early ++ late) ∧
        (Index.build order early).Extends (Index.build order (early ++ late))
          (late.flatMap fun f => Record.readAll f.content)) ∧
    ∀ (files more : List File) (f : File), more.Perm (f :: files) →
      (Index.build order files).Covers (Index.build order more) := by
  constructor
  · intro files early late h
    -- the files that are read first are in load order by themselves
    have hsorted : (early ++ late).Pairwise fun f g => File.loadsBefore order f g = true :=
      h ▸ List.pairwise_mergeSort (loadsBefore_trans order) (loadsBefore_total order) files
    have hboth : inLoadOrder order (early ++ late) = early ++ late :=
      List.mergeSort_of_pairwise hsorted
    have hearly : inLoadOrder order early = early :=
      List.mergeSort_of_pairwise (List.pairwise_append.1 hsorted).1
    constructor
    · rw [Index.build, Index.build, Index.recordsOf, Index.recordsOf, h, hboth]
    · rw [Index.build, Index.build, Index.recordsOf, Index.recordsOf, hearly, hboth,
        List.flatMap_append]
      exact Index.extends_ofRecords _ _
  · -- load order does not matter here: no record is lost
    intro files more f h
    refine Index.covers_ofRecords fun r hr => ?_
    obtain ⟨g, hg, hr⟩ := Index.mem_recordsOf.1 hr
    exact Index.mem_recordsOf.2 ⟨g, h.symm.subset (List.mem_cons_of_mem f hg), hr⟩

namespace GrowingCorpus

/-- A file that is read first. -/
def early : List File := [⟨"fast".toList, "#t=A\n#g=a\nx\n".toList⟩]

/-- A file that is read later and has the same body and a new one. -/
def late : List File := [⟨"script".toList, "#t=B\n#g=b\nx\n#t=C\n#g=c\ny\n".toList⟩]

/-- A file with the same body that is read before both. -/
def front : File := ⟨"a fast".toList, "#t=Z\n#g=b\nx\n".toList⟩

end GrowingCorpus

open GrowingCorpus in
/-- The later file gives a trigger and an entry; the file in front gives the label, but no entry and
no trigger is lost. -/
theorem index_grows_corpus :
    inLoadOrder defaultLoadOrder (late ++ early) = early ++ late ∧
      (Index.build defaultLoadOrder early).Extends
        (Index.build defaultLoadOrder (early ++ late))
        (late.flatMap fun f => Record.readAll f.content) ∧
      (Index.build defaultLoadOrder (late ++ early)).Covers
        (Index.build defaultLoadOrder (late ++ [front] ++ early)) ∧
      (Index.build defaultLoadOrder (late ++ [front] ++ early)).entries =
        [⟨['Z'], [['b'], ['a']], 0, ['x']⟩, ⟨['C'], [['c']], 1, ['y']⟩] := by
  have hsorted : inLoadOrder defaultLoadOrder (late ++ early) = early ++ late := by
    rw [inLoadOrder_eq_insertionSort]
    rfl
  have hperm : (late ++ [front] ++ early).Perm (front :: (late ++ early)) := by decide
  obtain ⟨hextends, hcovers⟩ := index_grows defaultLoadOrder
  refine ⟨hsorted, (hextends _ _ _ hsorted).2, hcovers _ _ _ hperm, ?_⟩
  rw [Index.build, Index.recordsOf, inLoadOrder_eq_insertionSort]
  rfl

end SnippetServer.Snippet
