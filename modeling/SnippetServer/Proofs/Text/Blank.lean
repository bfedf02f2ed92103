import SnippetServer.Text.Blank
import Mathlib.Data.List.DropRight

namespace SnippetServer

/-!
# Trimming

A text is *trimmed* if it neither begins nor ends in a blank.  Trimming gives such a text and leaves
such a text alone.

* `dropTrailing_append_run`, `trailingRun_append_run` — a run at the end and what stands before it
  are told apart by one character;
* `Text.IsTrimmed` — trimmed texts;
* `Text.isTrimmed_trim`, `Text.trim_eq_self` — what trimming does;
* `Text.exists_eq_around_trim`, `Text.trim_around` — it takes off blanks, and all of them;
* `Text.isEmpty_trim` — it leaves nothing of a blank text, and of no other one.
-/

/-! ### Runs at the end -/

section

variable {α : Type _} {p : α → Bool} {xs : List α}

/-- What is left of a list is its front. -/
theorem dropTrailing_prefix_self (p : α → Bool) (xs : List α) : dropTrailing p xs <+: xs :=
  List.rdropWhile_prefix p xs

/-- Nothing is dropped if the last element has not the property. -/
theorem dropTrailing_eq_self (h : ∀ a ∈ xs.getLast?, p a = false) : dropTrailing p xs = xs := by
  cases hx : xs.getLast? with
  | none =>
    rw [List.getLast?_eq_none_iff.1 hx]
    rfl
  | some a =>
    obtain ⟨ys, rfl⟩ := List.getLast?_eq_some_iff.1 hx
    rw [dropTrailing_concat, if_neg]
    rw [h a hx]
    exact Bool.false_ne_true

/-- A run at the end is taken as a whole if what stands before it does not end in one more. -/
theorem dropTrailing_append_run {run : List α} (hrun : ∀ a ∈ run, p a = true)
    (hxs : ∀ a ∈ xs.getLast?, p a = false) : dropTrailing p (xs ++ run) = xs := by
  -- the run is dropped from its end, one element after another
  induction run using List.reverseRecOn with
  | nil => rw [List.append_nil, dropTrailing_eq_self hxs]
  | append_singleton run a ih =>
    rw [← List.append_assoc, dropTrailing_concat, if_pos (hrun a (by simp))]
    exact ih fun b hb => hrun b (List.mem_append_left _ hb)

/-- What is taken is the run, if what stands before it does not end in one more. -/
theorem trailingRun_append_run {run : List α} (hrun : ∀ a ∈ run, p a = true)
    (hxs : ∀ a ∈ xs.getLast?, p a = false) : trailingRun p (xs ++ run) = run := by
  have h := dropTrailing_append_trailingRun p (xs ++ run)
  rw [dropTrailing_append_run hrun hxs] at h
  exact List.append_cancel_left h

/-- What is left does not end in one more to be dropped. -/
theorem not_getLast?_dropTrailing : ∀ a ∈ (dropTrailing p xs).getLast?, p a = false := by
  intro a ha
  obtain ⟨ys, hy⟩ := List.getLast?_eq_some_iff.1 ha
  exact dropTrailing_eq_concat hy

end

namespace Text

/-! ### Trimmed texts -/

/-- Neither the first nor the last character is a blank. -/
def IsTrimmed (t : Text) : Prop :=
  (∀ c ∈ t.head?, isBlank c = false) ∧ ∀ c ∈ t.getLast?, isBlank c = false

instance (t : Text) : Decidable (IsTrimmed t) :=
  decidable_of_iff
    (t.head?.all (fun c => !isBlank c) = true ∧ t.getLast?.all (fun c => !isBlank c) = true) <| by
      simp [IsTrimmed, Option.all_eq_true]

/-- Without its first blanks a text does not begin in one. -/
theorem not_head?_trimStart (t : Text) : ∀ c ∈ (trimStart t).head?, isBlank c = false := by
  intro c hc
  have h := List.head?_dropWhile_not isBlank t
  rw [trimStart, Option.mem_def] at hc
  rw [hc] at h
  simpa using h

/-- Trimming leaves no blank at either end. -/
theorem isTrimmed_trim (t : Text) : IsTrimmed (trim t) := by
  refine ⟨fun c hc => ?_, not_getLast?_dropTrailing⟩
  -- what is left begins as the text without its first blanks does
  obtain ⟨tail, ht⟩ := dropTrailing_prefix_self isBlank (trimStart t)
  refine not_head?_trimStart t c ?_
  rw [Option.mem_def] at hc ⊢
  rw [← ht, List.head?_append, show (dropTrailing isBlank (trimStart t)).head? = some c from hc]
  rfl

/-- A trimmed text is left alone. -/
theorem trim_eq_self {t : Text} (h : IsTrimmed t) : trim t = t := by
  -- nothing is taken off the front, and then nothing off the end
  have hs : trimStart t = t := by
    cases t with
    | nil => rfl
    | cons c r =>
      have hc : isBlank c = false := h.1 c rfl
      rw [trimStart, List.dropWhile_cons, hc]
      rfl
  rw [trim, hs, trimEnd, dropTrailing_eq_self h.2]

/-- Trimming leaves nothing of a blank text, and of no other one. -/
theorem isEmpty_trim (t : Text) : (trim t).isEmpty = isBlankText t := by
  rw [Bool.eq_iff_iff, List.isEmpty_iff]
  constructor
  · intro h
    -- without its first blanks the text is one run of blanks, which begins with none
    have hall : ∀ c ∈ trimStart t, isBlank c = true := by
      intro c hc
      have hrun := dropTrailing_append_trailingRun isBlank (trimStart t)
      rw [show dropTrailing isBlank (trimStart t) = [] from h, List.nil_append] at hrun
      exact forall_mem_trailingRun isBlank (trimStart t) c (by rwa [hrun])
    have hnil : trimStart t = [] := by
      cases hs : trimStart t with
      | nil => rfl
      | cons c r =>
        have hc : isBlank c = false := not_head?_trimStart t c (by rw [hs]; rfl)
        rw [hall c (by rw [hs]; exact List.mem_cons_self)] at hc
        cases hc
    rw [isBlankText, List.all_eq_true]
    exact List.dropWhile_eq_nil_iff.1 hnil
  · intro h
    have hnil : trimStart t = [] := List.dropWhile_eq_nil_iff.2 (List.all_eq_true.1 h)
    rw [trim, hnil]
    rfl

/-- What is taken off on both sides are blanks. -/
theorem exists_eq_around_trim (t : Text) : ∃ front back, t = front ++ trim t ++ back ∧
    (∀ c ∈ front, isBlank c = true) ∧ ∀ c ∈ back, isBlank c = true := by
  refine ⟨t.takeWhile isBlank, trailingRun isBlank (trimStart t), ?_, ?_, ?_⟩
  · have hstart : t.takeWhile isBlank ++ trimStart t = t := List.takeWhile_append_dropWhile
    have hend : trim t ++ trailingRun isBlank (trimStart t) = trimStart t :=
      dropTrailing_append_trailingRun isBlank (trimStart t)
    rw [List.append_assoc, hend, hstart]
  · intro c hc
    exact List.all_eq_true.1 List.all_takeWhile c hc
  · exact forall_mem_trailingRun isBlank (trimStart t)

/-- All blanks around a text are taken off. -/
theorem trim_around {front t back : Text} (hfront : ∀ c ∈ front, isBlank c = true)
    (ht : IsTrimmed t) (hback : ∀ c ∈ back, isBlank c = true) : trim (front ++ t ++ back) = t := by
  cases t with
  -- nothing stands between the blanks, so that there is one run of them
  | nil =>
    have hblank : isBlankText (front ++ [] ++ back) = true := by
      rw [List.append_nil, isBlankText_append, Bool.and_eq_true]
      exact ⟨List.all_eq_true.2 hfront, List.all_eq_true.2 hback⟩
    rwa [← isEmpty_trim, List.isEmpty_iff] at hblank
  | cons c r =>
    have hc : isBlank c = false := ht.1 c rfl
    -- the blanks in front end at the first character that is none
    have hstart : trimStart (front ++ (c :: r) ++ back) = c :: r ++ back := by
      rw [trimStart, List.append_assoc, List.dropWhile_append_of_pos hfront, List.cons_append,
        List.dropWhile_cons_of_neg (by simp [hc])]
    rw [trim, hstart, trimEnd, dropTrailing_append_run hback ht.2]

/-- Trimming adds no character. -/
theorem mem_of_mem_trim {t : Text} {c : Char} (h : c ∈ trim t) : c ∈ t :=
  (List.dropWhile_sublist _).subset ((dropTrailing_prefix_self _ _).subset h)

end Text

end SnippetServer
