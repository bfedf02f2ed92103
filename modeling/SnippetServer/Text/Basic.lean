namespace SnippetServer

/-!
# Texts and byte strings

The two kinds of sequence that the library reads, and the runs at their ends.

* `Text`, `Bytes` — sequences of characters and of bytes;
* `trailingRun p xs` — the longest run of elements with `p` at the end of `xs`;
* `dropTrailing p xs` — what stands before it, so `dropTrailing p xs ++ trailingRun p xs = xs`.
-/

/-- A text is the list of its characters (Unicode scalar values). -/
abbrev Text := List Char

/-- A byte string: the content of a file, a path, what a program prints. -/
abbrev Bytes := List UInt8

variable {α : Type _}

/-! ### Runs at the end of a sequence -/

/-- The longest run of elements with `p` at the end. -/
def trailingRun (p : α → Bool) (xs : List α) : List α := (xs.reverse.takeWhile p).reverse

/-- What is left without the longest run of elements with `p` at the end. -/
def dropTrailing (p : α → Bool) (xs : List α) : List α := (xs.reverse.dropWhile p).reverse

/-- A list is what is left of it and the run that is dropped. -/
theorem dropTrailing_append_trailingRun (p : α → Bool) (xs : List α) :
    dropTrailing p xs ++ trailingRun p xs = xs := by
  rw [dropTrailing, trailingRun, ← List.reverse_append, List.takeWhile_append_dropWhile,
    List.reverse_reverse]

@[simp] theorem trailingRun_nil (p : α → Bool) : trailingRun p [] = [] := rfl

@[simp] theorem dropTrailing_nil (p : α → Bool) : dropTrailing p [] = [] := rfl

/-- The last element decides whether anything is dropped at all. -/
theorem dropTrailing_concat (p : α → Bool) (xs : List α) (a : α) :
    dropTrailing p (xs ++ [a]) = if p a then dropTrailing p xs else xs ++ [a] := by
  cases h : p a <;> simp [dropTrailing, h]

/-- Every element of the trailing run has `p`. -/
theorem forall_mem_trailingRun (p : α → Bool) (xs : List α) :
    ∀ a ∈ trailingRun p xs, p a = true := by
  intro a ha
  rw [trailingRun, List.mem_reverse] at ha
  exact List.all_eq_true.1 List.all_takeWhile a ha

/-- An element that ends what is left does not have `p`: the run was the longest. -/
theorem dropTrailing_eq_concat {p : α → Bool} {xs ys : List α} {a : α}
    (h : dropTrailing p xs = ys ++ [a]) : p a = false := by
  have hr : xs.reverse.dropWhile p = a :: ys.reverse := by
    have := congrArg List.reverse h
    simpa [dropTrailing] using this
  have hne : xs.reverse.dropWhile p ≠ [] := by simp [hr]
  have := List.head_dropWhile_not p hne
  simpa [hr] using this

end SnippetServer
