import SnippetServer.Proofs.Snippet.LoadOrder
import SnippetServer.Snippet.Index
import Mathlib.Data.List.Basic

namespace SnippetServer.Snippet

/-!
# Needles that decide nothing

A file has the priority of the first needle in its name.  A needle that contains an earlier one
comes too late: the earlier one stands in every name in which it stands.  When it is taken out, the
needles behind it move up by one place, and the files without any needle with them, but no file
comes to stand on the other side of another one.

* `Shadows order i j` — the needle at place `j` contains the one at the earlier place `i`;
* `stepOver n k` — the place `k` as it was counted before the element at place `n` was taken out;
* `priority_append_cons` — priorities are counted like this when a shadowed needle is taken out;
* `loadsBefore_congr` — all that counts is which of two priorities is lower;
* `shadowed_needle_is_dead` — the files are read in the same order, and their index is the same.
-/

/-- The needle at place `j` contains the one at the earlier place `i`. -/
structure Shadows (order : List Text) (i j : Nat) : Prop where
  /-- The one place stands before the other. -/
  earlier : i < j
  /-- What stands at the first place stands inside what stands at the second one. -/
  contained : ∃ first second, order[i]? = some first ∧ order[j]? = some second ∧ first <:+: second

/-! ### Places around an element -/

/-- The place `k` as it was counted before the element at place `n` was taken out. -/
def stepOver (n k : Nat) : Nat := if k < n then k else k + 1

/-- Places that are counted anew keep their order. -/
theorem stepOver_lt_iff {n k m : Nat} : stepOver n k < stepOver n m ↔ k < m := by
  unfold stepOver
  split <;> split <;> omega

/-- An element that has a property only if an earlier one has it is never the first one with it. -/
theorem findIdx_append_cons {α : Type _} {p : α → Bool} {front : List α} {a : α}
    (h : p a = true → ∃ b ∈ front, p b = true) (back : List α) :
    (front ++ a :: back).findIdx p = stepOver front.length ((front ++ back).findIdx p) := by
  rw [List.findIdx_append, List.findIdx_append]
  by_cases hf : front.findIdx p < front.length
  · -- the first element with the property stands in front of `a`
    rw [if_pos hf, if_pos hf, stepOver, if_pos hf]
  · -- no element in front of `a` has the property, and so `a` has not got it either
    have ha : p a = false := by
      rw [← Bool.not_eq_true]
      exact fun hp => hf (List.findIdx_lt_length.2 (h hp))
    have hle : ¬ back.findIdx p + front.length < front.length := by omega
    rw [if_neg hf, if_neg hf, stepOver, if_neg hle, List.findIdx_cons, ha, cond_false]
    omega

/-! ### Priorities -/

/-- In front of a shadowed needle the priorities stay, and from its place on they are one less when
it is taken out. -/
theorem priority_append_cons {front : List Text} {first needle : Text} (hf : first ∈ front)
    (h : first <:+: needle) (back : List Text) (name : Text) :
    priority (front ++ needle :: back) name =
      stepOver front.length (priority (front ++ back) name) := by
  refine findIdx_append_cons (fun hneedle => ⟨first, hf, ?_⟩) back
  -- where the needle occurs, the one inside it does
  rw [Text.occursIn_iff] at hneedle ⊢
  exact h.trans hneedle

/-- Load orders that agree on which of two names has the lower priority agree on the order of
files. -/
theorem loadsBefore_congr {order order' : List Text}
    (h : ∀ s t, priority order s < priority order t ↔ priority order' s < priority order' t) :
    File.loadsBefore order = File.loadsBefore order' := by
  funext a b
  have hab := h a.name b.name
  have hba := h b.name a.name
  -- two priorities are equal if neither of them is lower
  have heq : priority order a.name = priority order b.name ↔
      priority order' a.name = priority order' b.name := by omega
  rw [Bool.eq_iff_iff, loadsBefore_iff, loadsBefore_iff, hab, heq]

/-- A shadowed needle does not decide which of two files is read first. -/
theorem loadsBefore_append_cons {front : List Text} {first needle : Text} (hf : first ∈ front)
    (h : first <:+: needle) (back : List Text) :
    File.loadsBefore (front ++ back) = File.loadsBefore (front ++ needle :: back) := by
  refine loadsBefore_congr fun s t => ?_
  rw [priority_append_cons hf h, priority_append_cons hf h, stepOver_lt_iff]

/-! ### Taking out a shadowed needle -/

/-- A shadowed needle has the needle that it contains in front of it. -/
theorem Shadows.exists_eq_append {order : List Text} {i j : Nat} (h : Shadows order i j) :
    ∃ front needle back, order = front ++ needle :: back ∧ order.eraseIdx j = front ++ back ∧
      ∃ first ∈ front, first <:+: needle := by
  obtain ⟨first, needle, hi, hj, hcontained⟩ := h.contained
  obtain ⟨hlt, rfl⟩ := List.getElem?_eq_some_iff.1 hj
  refine ⟨order.take j, order[j], order.drop (j + 1), ?_, ?_, first, ?_, hcontained⟩
  · rw [List.getElem_cons_drop, List.take_append_drop]
  · exact List.eraseIdx_eq_take_drop_succ order j
  · rw [← List.getElem?_take_of_lt h.earlier] at hi
    exact List.mem_of_getElem? hi

/-- **Shadowed needles are dead.**  A needle that contains an earlier one can be taken out of a load
order: whatever the files and their names, they are read in the same order, and so their index is
the same. -/
theorem shadowed_needle_is_dead {order : List Text} {i j : Nat} (h : Shadows order i j)
    (files : List File) :
    inLoadOrder (order.eraseIdx j) files = inLoadOrder order files ∧
      Index.build (order.eraseIdx j) files = Index.build order files := by
  obtain ⟨front, needle, back, horder, herase, first, hf, hcontained⟩ := h.exists_eq_append
  have hsame : inLoadOrder (order.eraseIdx j) files = inLoadOrder order files := by
    rw [inLoadOrder, inLoadOrder, herase, horder, loadsBefore_append_cons hf hcontained]
  refine ⟨hsame, ?_⟩
  rw [Index.build, Index.build, Index.recordsOf, Index.recordsOf, hsame]

/-- The third needle is shadowed by the first one.  Two files have one name, which contains both;
the others have a later needle, or none. -/
theorem shadowed_needle_is_dead_breakfast :
    ∃ (order : List Text) (files : List File),
      order = ["fast".toList, "script".toList, "breakfast".toList, "key".toList] ∧
      files.map File.name = ["none".toList, "key".toList, "breakfast".toList, "script".toList,
        "breakfast".toList] ∧
      Shadows order 0 2 ∧
      (inLoadOrder order files).map File.name = ["breakfast".toList, "breakfast".toList,
        "script".toList, "key".toList, "none".toList] ∧
      inLoadOrder (order.eraseIdx 2) files = inLoadOrder order files ∧
      Index.build (order.eraseIdx 2) files = Index.build order files := by
  have h : Shadows ["fast".toList, "script".toList, "breakfast".toList, "key".toList] 0 2 :=
    ⟨by decide, "fast".toList, "breakfast".toList, rfl, rfl, "break".toList, [], by decide⟩
  refine ⟨_, [⟨"none".toList, "#t=A\n#g=a\nx".toList⟩, ⟨"key".toList, []⟩,
    ⟨"breakfast".toList, "#t=B\n#g=b\nx".toList⟩, ⟨"script".toList, []⟩,
    ⟨"breakfast".toList, "#t=C\n#g=c\nx".toList⟩], rfl, rfl, h, ?_, shadowed_needle_is_dead h _⟩
  rw [inLoadOrder_eq_insertionSort]
  rfl

end SnippetServer.Snippet
