import SnippetServer.Text.Basic

namespace SnippetServer.Text

/-!
# Order and containment of texts

* `precedes` — the order by code points, which is also the order of the UTF-8 bytes;
* `shorterFirst` — by length, and by code points among texts of one length;
* `occursIn` — whether a text stands somewhere inside another.
-/

/-- Whether the first text comes no later than the second one by code points. -/
def precedes : Text → Text → Bool
  | [], _ => true
  | _ :: _, [] => false
  | a :: s, b :: t => a.toNat < b.toNat || (a.toNat == b.toNat && precedes s t)

/-- Whether the first text is no longer than the second one. -/
def noLonger (s t : Text) : Bool := decide (s.length ≤ t.length)

/-- Whether the first text comes no later than the second one by length and then by code points. -/
def shorterFirst (s t : Text) : Bool :=
  s.length < t.length || (s.length == t.length && precedes s t)

/-- Whether the first text stands somewhere inside the second one. -/
def occursIn (needle : Text) : Text → Bool
  | [] => needle.isEmpty
  | c :: r => needle.isPrefixOf (c :: r) || occursIn needle r

/-! ### The order by code points is total -/

/-- A text comes no later than itself. -/
theorem precedes_refl (s : Text) : precedes s s = true := by
  induction s with
  | nil => rfl
  | cons a s ih => simp [precedes, ih]

/-- Of two texts one comes no later than the other. -/
theorem precedes_total (s t : Text) : (precedes s t || precedes t s) = true := by
  induction s generalizing t with
  | nil => simp [precedes]
  | cons a s ih =>
    cases t with
    | nil => simp [precedes]
    | cons b t =>
      have := ih t
      rcases Nat.lt_trichotomy a.toNat b.toNat with h | h | h
      · simp [precedes, h]
      · simpa [precedes, h] using this
      · simp [precedes, h]

/-- The order of texts is transitive. -/
theorem precedes_trans (s t u : Text) (h : precedes s t = true) (h' : precedes t u = true) :
    precedes s u = true := by
  induction s generalizing t u with
  | nil => simp [precedes]
  | cons a s ih =>
    cases t with
    | nil => simp [precedes] at h
    | cons b t =>
      cases u with
      | nil => simp [precedes] at h'
      | cons c u =>
        simp only [precedes, Bool.or_eq_true, Bool.and_eq_true, decide_eq_true_eq,
          beq_iff_eq] at h h' ⊢
        rcases h with h | ⟨h, hst⟩ <;> rcases h' with h' | ⟨h', htu⟩
        · exact Or.inl (Nat.lt_trans h h')
        · exact Or.inl (h' ▸ h)
        · exact Or.inl (h ▸ h')
        · exact Or.inr ⟨h.trans h', ih t u hst htu⟩

/-- Only one text stands at one place of the order. -/
theorem precedes_antisymm (s t : Text) (h : precedes s t = true) (h' : precedes t s = true) :
    s = t := by
  induction s generalizing t with
  | nil =>
    cases t with
    | nil => rfl
    | cons b t => simp [precedes] at h'
  | cons a s ih =>
    cases t with
    | nil => simp [precedes] at h
    | cons b t =>
      simp only [precedes, Bool.or_eq_true, Bool.and_eq_true, decide_eq_true_eq,
        beq_iff_eq] at h h'
      have hn : a.toNat = b.toNat := by omega
      have hs : precedes s t = true := by
        rcases h with h | h
        · omega
        · exact h.2
      have ht : precedes t s = true := by
        rcases h' with h' | h'
        · omega
        · exact h'.2
      have hab : a = b := Char.ext (UInt32.toNat_inj.1 hn)
      rw [hab, ih t hs ht]

/-- It is the order in which the first difference decides, by code points. -/
theorem precedes_iff {s t : Text} :
    precedes s t = true ↔ s = t ∨ List.Lex (fun a b => a.toNat < b.toNat) s t := by
  induction s generalizing t with
  | nil =>
    cases t with
    | nil => simp [precedes]
    | cons b t => simp [precedes]
  | cons a s ih =>
    cases t with
    | nil => simp [precedes]
    | cons b t =>
      simp only [precedes, Bool.or_eq_true, Bool.and_eq_true, decide_eq_true_eq, beq_iff_eq, ih]
      constructor
      · rintro (hlt | ⟨heq, rfl | h⟩)
        · exact Or.inr (.rel hlt)
        · exact Or.inl (by rw [Char.ext (UInt32.toNat_inj.1 heq)])
        · rw [Char.ext (UInt32.toNat_inj.1 heq)]
          exact Or.inr (.cons h)
      · rintro (h | h)
        · obtain ⟨rfl, rfl⟩ := List.cons.inj h
          exact Or.inr ⟨rfl, Or.inl rfl⟩
        · cases h with
          | rel h => exact Or.inl h
          | cons h => exact Or.inr ⟨rfl, Or.inr h⟩

/-! ### Containment -/

/-- The empty text stands inside every text. -/
@[simp] theorem occursIn_nil (t : Text) : occursIn [] t = true := by
  cases t <;> simp [occursIn]

/-- A text stands inside another if that one is the text with something before and behind it. -/
theorem occursIn_iff {needle t : Text} : occursIn needle t = true ↔ needle <:+: t := by
  induction t with
  | nil => rw [occursIn, List.isEmpty_iff, List.infix_nil]
  | cons c r ih =>
    rw [occursIn, Bool.or_eq_true, List.isPrefixOf_iff_prefix, ih, List.infix_cons_iff]

end SnippetServer.Text
