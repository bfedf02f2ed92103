import Mathlib.Data.List.Induction

namespace SnippetServer

/-!
# Histories

A history is a list of what has happened, the latest last.

* `Since p q history` — `p` was true of something that happened, and `q` of everything after it;
* `since_concat` — whether this is so after one more thing has happened.
-/

variable {α : Type*} {p : List α → α → Prop} {q : α → Prop} {history : List α}

/-- Something happened of which `p` is true, given what came before it, and `q` is true of all that
came after it. -/
def Since (p : List α → α → Prop) (q : α → Prop) (history : List α) : Prop :=
  ∃ before a after, history = before ++ a :: after ∧ p before a ∧ ∀ b ∈ after, q b

/-- Nothing has happened in an empty history. -/
theorem not_since_nil : ¬ Since p q [] := by
  rintro ⟨before, a, after, h, -⟩
  exact List.append_ne_nil_of_right_ne_nil before (List.cons_ne_nil a after) h.symm

/-- After one more thing, either `p` is true of it, or it leaves what was so before. -/
theorem since_concat {a : α} :
    Since p q (history ++ [a]) ↔ p history a ∨ q a ∧ Since p q history := by
  constructor
  · rintro ⟨before, b, after, heq, hb, hafter⟩
    rcases List.eq_nil_or_concat after with rfl | ⟨between, last, rfl⟩
    · -- the latest thing is the one of which `p` is true
      obtain ⟨rfl, hcons⟩ := List.append_inj' heq rfl
      obtain rfl := (List.cons.inj hcons).1
      exact Or.inl hb
    · -- the latest thing is one of those that came after it
      rw [List.concat_eq_append, ← List.cons_append, ← List.append_assoc] at heq
      obtain ⟨hhistory, hcons⟩ := List.append_inj' heq rfl
      obtain rfl := (List.cons.inj hcons).1
      exact Or.inr ⟨hafter a (by simp), before, b, between, hhistory, hb,
        fun c hc => hafter c (by simp [hc])⟩
  · rintro (ha | ⟨ha, before, b, after, rfl, hb, hafter⟩)
    · exact ⟨history, a, [], rfl, ha, nofun⟩
    · -- the new thing is one more that came after it
      refine ⟨before, b, after ++ [a], by simp, hb, ?_⟩
      intro c hc
      rcases List.mem_append.1 hc with hc | hc
      · exact hafter c hc
      · exact List.mem_singleton.1 hc ▸ ha

end SnippetServer
