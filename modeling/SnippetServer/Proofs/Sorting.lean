import Mathlib.Data.List.Sort

namespace SnippetServer

/-!
# Sorting

Lists are sorted by a number first and, where the numbers are equal, by another order.  The sort is
stable: what ties is not moved.

* `byKeyThen key le` — the order by a number, and by `le` among equal numbers; `byKeyThen_trans` and
  `byKeyThen_total` give what a sort asks for;
* `filter_mergeSort` — elements that tie with each other keep their order;
* `mergeSort_eq_insertionSort` — the sort inserts one element after another, which is how sorted
  lists are computed;
* `filter_append_filter_of_pairwise` — a list whose order puts a property first is cut where the
  property ends.
-/

variable {α : Type*} {key : α → Nat} {le : α → α → Bool}

/-! ### By a number, then by another order -/

/-- Whether the first element comes no later by its number, and by `le` among equal numbers. -/
def byKeyThen (key : α → Nat) (le : α → α → Bool) (a b : α) : Bool :=
  key a < key b || (key a == key b && le a b)

/-- The order, with both of its parts written out. -/
theorem byKeyThen_iff {a b : α} :
    byKeyThen key le a b = true ↔ key a < key b ∨ key a = key b ∧ le a b = true := by
  simp [byKeyThen]

/-- The order is transitive if that among equal numbers is. -/
theorem byKeyThen_trans (h : ∀ a b c, le a b = true → le b c = true → le a c = true) (a b c : α)
    (hab : byKeyThen key le a b = true) (hbc : byKeyThen key le b c = true) :
    byKeyThen key le a c = true := by
  rw [byKeyThen_iff] at hab hbc ⊢
  rcases hab with hab | ⟨hab, hle⟩
  · rcases hbc with hbc | ⟨hbc, -⟩ <;> exact Or.inl (by omega)
  · rcases hbc with hbc | ⟨hbc, hle'⟩
    · exact Or.inl (by omega)
    · exact Or.inr ⟨hab.trans hbc, h a b c hle hle'⟩

/-- The order is total if that among equal numbers is. -/
theorem byKeyThen_total (h : ∀ a b, (le a b || le b a) = true) (a b : α) :
    (byKeyThen key le a b || byKeyThen key le b a) = true := by
  rw [Bool.or_eq_true, byKeyThen_iff, byKeyThen_iff]
  have hle := h a b
  rw [Bool.or_eq_true] at hle
  -- different numbers decide, and among equal ones the other order does
  rcases Nat.lt_trichotomy (key a) (key b) with hlt | heq | hlt
  · exact Or.inl (Or.inl hlt)
  · rcases hle with hle | hle
    · exact Or.inl (Or.inr ⟨heq, hle⟩)
    · exact Or.inr (Or.inr ⟨heq.symm, hle⟩)
  · exact Or.inr (Or.inl hlt)

/-- Two elements that may stand in either order tie in both parts of the order. -/
theorem byKeyThen_antisymm {a b : α} (hab : byKeyThen key le a b = true)
    (hba : byKeyThen key le b a = true) : le a b = true ∧ le b a = true := by
  rw [byKeyThen_iff] at hab hba
  rcases hab with hab | ⟨heq, hab⟩
  · rcases hba with hba | ⟨hba, -⟩ <;> omega
  · rcases hba with hba | ⟨-, hba⟩
    · omega
    · exact ⟨hab, hba⟩

/-! ### What ties is not moved -/

/-- Elements that tie with each other are in order already, so sorting does not move them past each
other. -/
theorem filter_mergeSort (htrans : ∀ a b c, le a b = true → le b c = true → le a c = true)
    (htotal : ∀ a b, (le a b || le b a) = true) {p : α → Bool} (l : List α)
    (h : ∀ a b, p a = true → p b = true → le a b = true) :
    (l.mergeSort le).filter p = l.filter p := by
  have hsorted : (l.filter p).Pairwise fun a b => le a b = true :=
    List.pairwise_of_forall_mem_list fun a ha b hb =>
      h a b (List.mem_filter.1 ha).2 (List.mem_filter.1 hb).2
  -- a sorted sublist keeps its order, for the sort is stable
  have hsub : (l.filter p).Sublist (l.mergeSort le) :=
    List.sublist_mergeSort htrans htotal hsorted List.filter_sublist
  -- what is kept has the property still, and nothing else with it has come in
  have hsub' := hsub.filter p
  rw [List.filter_filter] at hsub'
  simp only [Bool.and_self] at hsub'
  have hlen := ((List.mergeSort_perm l le).filter p).length_eq
  exact (hsub'.eq_of_length hlen.symm).symm

/-! ### One element after another -/

/-- An element is inserted behind everything that it does not come before. -/
theorem orderedInsert_append {a : α} {front back : List α} (hfront : ∀ b ∈ front, le a b = false)
    (hback : ∀ b ∈ back, le a b = true) :
    (front ++ back).orderedInsert (fun a b => le a b = true) a = front ++ a :: back := by
  induction front with
  | nil =>
    cases back with
    | nil => rfl
    | cons b back => exact if_pos (hback b List.mem_cons_self)
  | cons b front ih =>
    have hb : ¬ le a b = true := by simp [hfront b List.mem_cons_self]
    rw [List.cons_append, List.orderedInsert_cons, if_neg hb,
      ih fun c hc => hfront c (List.mem_cons_of_mem b hc), List.cons_append]

/-- Sorting by halves is stable, and so it gives the list that comes of inserting each element in
front of those that it may precede. -/
theorem mergeSort_eq_insertionSort
    (htrans : ∀ a b c, le a b = true → le b c = true → le a c = true)
    (htotal : ∀ a b, (le a b || le b a) = true) (l : List α) :
    l.mergeSort le = l.insertionSort fun a b => le a b = true := by
  induction l with
  | nil => rw [List.mergeSort_nil, List.insertionSort_nil]
  | cons a l ih =>
    -- what stands before the first element comes before it strictly
    obtain ⟨front, back, hcons, hl, hfront⟩ := List.mergeSort_cons htrans htotal a l
    have hsorted := List.pairwise_mergeSort htrans htotal (a :: l)
    rw [hcons, List.pairwise_append, List.pairwise_cons] at hsorted
    obtain ⟨-, ⟨hback, -⟩, -⟩ := hsorted
    rw [hcons, List.insertionSort_cons, ← ih, hl, orderedInsert_append _ hback]
    exact fun b hb => by simpa using hfront b hb

/-! ### Two groups -/

/-- A list in which nothing without a property stands before something with it is cut where the
property ends. -/
theorem filter_append_filter_of_pairwise {p : α → Bool} {l : List α}
    (h : l.Pairwise fun a b => p b = true → p a = true) :
    l.filter p ++ l.filter (!p ·) = l := by
  induction l with
  | nil => rfl
  | cons a l ih =>
    rw [List.pairwise_cons] at h
    by_cases ha : p a = true
    · rw [List.filter_cons_of_pos ha, List.filter_cons_of_neg (by simp [ha]), List.cons_append,
        ih h.2]
    · -- the property has ended, and so nothing behind has it
      have hnone : ∀ b ∈ a :: l, ¬ p b = true := by
        intro b hb
        rcases List.mem_cons.1 hb with rfl | hb
        · exact ha
        · exact fun hp => ha (h.1 b hb hp)
      rw [List.filter_eq_nil_iff.2 hnone, List.nil_append, List.filter_eq_self]
      simpa using hnone

end SnippetServer
