import SnippetServer.Text.Order
import SnippetServer.Text.Utf8
import Mathlib.Algebra.Group.Nat.Defs
import Mathlib.Data.List.Lex

namespace SnippetServer.Text

/-!
# The bytes of characters

A character is written as a first byte, whose mark tells how many bytes follow, and later bytes of
six bits each.  UTF-8 keeps the order of code points, so the bytes of two texts compare as the texts
do, and no character begins with the bytes of another one.

* `Utf8.Form k mark n` — characters with the number `n` have this mark, and `k` later bytes;
* `Utf8.encodeChar_cases` — the bytes of a character;
* `encode_lt_iff`, `encode_le_antisymm` — the bytes of two texts;
* `Utf8.encodeChar_append_inj` — where a character ends, is told by its bytes.
-/

namespace Utf8

/-! ### The bytes of a character by its number -/

/-- The last `k` bytes of a character with the number `n`. -/
def tail : Nat → Nat → Bytes
  | 0, _ => []
  | k + 1, n => (0x80 + n / 64 ^ k % 64).toUInt8 :: tail k n

/-- Characters with this number have so many later bytes and this mark on the first one. -/
inductive Form : Nat → Nat → Nat → Prop where
  /-- The only byte. -/
  | one {n : Nat} : n < 0x80 → Form 0 0 n
  /-- The first of two bytes. -/
  | two {n : Nat} : 0x80 ≤ n → n < 0x800 → Form 1 0xC0 n
  /-- The first of three bytes. -/
  | three {n : Nat} : 0x800 ≤ n → n < 0x10000 → Form 2 0xE0 n
  /-- The first of four bytes. -/
  | four {n : Nat} : 0x10000 ≤ n → n < 0x110000 → Form 3 0xF0 n

/-- The character with a number has that number. -/
theorem toNat_ofNat {n : Nat} (h : n.isValidChar) : (Char.ofNat n).toNat = n := by
  rw [Char.ofNat, dif_pos h]
  rfl

/-- The byte with the number of a byte is that byte. -/
theorem toUInt8_eq {n : Nat} {b : UInt8} (h : n = b.toNat) : n.toUInt8 = b := by
  rw [h]
  exact UInt8.ofNat_toNat

/-- A number below 256 fits into a byte. -/
theorem toNat_toUInt8 {n : Nat} (h : n < 256) : n.toUInt8.toNat = n := by
  rw [Nat.toUInt8_eq, UInt8.toNat_ofNat']
  omega

/-- Every character has one of the four forms. -/
theorem exists_form {n : Nat} (h : n.isValidChar) : ∃ k mark, Form k mark n := by
  -- the bounds of the four forms, from the smallest on
  unfold Nat.isValidChar at h
  by_cases h1 : n < 0x80
  · exact ⟨0, 0, .one h1⟩
  by_cases h2 : n < 0x800
  · exact ⟨1, 0xC0, .two (by omega) h2⟩
  by_cases h3 : n < 0x10000
  · exact ⟨2, 0xE0, .three (by omega) h3⟩
  · exact ⟨3, 0xF0, .four (by omega) (by omega)⟩

/-- In every form the mark and the first bits share a byte, and the later bytes follow. -/
theorem Form.encodeChar_eq {k mark : Nat} {c : Char} (h : Form k mark c.toNat) :
    encodeChar c = (mark + c.toNat / 64 ^ k).toUInt8 :: tail k c.toNat := by
  generalize hn : c.toNat = n at h
  unfold encodeChar
  simp only [hn]
  -- one branch of the encoder for every form
  cases h with
  | one h1 =>
    rw [if_pos h1]
    simp [tail]
  | two h1 h2 =>
    rw [if_neg (by omega), if_pos h2]
    simp [tail]
  | three h1 h2 =>
    rw [if_neg (by omega), if_neg (by omega), if_pos h2]
    simp [tail]
  | four h1 h2 =>
    rw [if_neg (by omega), if_neg (by omega), if_neg (by omega)]
    simp [tail]

/-- An ASCII character is one byte. -/
theorem encodeChar_ofNat {x : UInt8} (h : x.toNat < 0x80) :
    encodeChar (Char.ofNat x.toNat) = [x] := by
  have hn : (Char.ofNat x.toNat).toNat = x.toNat := toNat_ofNat (Or.inl (by omega))
  have hform : Form 0 0 (Char.ofNat x.toNat).toNat := .one (by omega)
  rw [hform.encodeChar_eq, hn, toUInt8_eq (b := x) (by omega)]
  rfl

/-- A character has a form, and its first byte is its mark with its first bits. -/
theorem encodeChar_cases (c : Char) : ∃ k mark x, Form k mark c.toNat ∧
    x.toNat = mark + c.toNat / 64 ^ k ∧ encodeChar c = x :: tail k c.toNat := by
  obtain ⟨k, mark, h⟩ := exists_form c.valid
  refine ⟨k, mark, _, h, toNat_toUInt8 ?_, h.encodeChar_eq⟩
  change Form k mark c.toNat at h
  generalize c.toNat = n at h ⊢
  -- in every form mark and bits stay below 256
  cases h <;> omega

/-- Every character has a byte. -/
theorem encodeChar_ne_nil (c : Char) : encodeChar c ≠ [] := by
  obtain ⟨k, mark, x, -, -, hc⟩ := encodeChar_cases c
  simp [hc]

/-- Later bytes are not those of ASCII characters. -/
theorem le_of_mem_tail {k n : Nat} {x : UInt8} (h : x ∈ tail k n) : 0x80 ≤ x.toNat := by
  induction k with
  | zero => simp [tail] at h
  | succ k ih =>
    rcases List.mem_cons.1 h with rfl | h
    · rw [toNat_toUInt8 (by omega)]
      omega
    · exact ih h

/-! ### The order of the bytes -/

/-- Bytes compare as their numbers do. -/
theorem toUInt8_lt {m n : Nat} (h : m < n) (hn : n < 256) : m.toUInt8 < n.toUInt8 := by
  rw [UInt8.lt_iff_toNat_lt, toNat_toUInt8 hn, toNat_toUInt8 (by omega)]
  exact h

/-- The later bytes compare as the bits that they hold. -/
theorem tail_lt {k m n : Nat} (h : m % 64 ^ k < n % 64 ^ k) (r r' : Bytes) :
    tail k m ++ r < tail k n ++ r' := by
  -- by the number of bytes: the first one decides, or the others do
  induction k with
  | zero => simp [Nat.mod_one] at h
  | succ k ih =>
    rw [Nat.mod_pow_succ, Nat.mod_pow_succ] at h
    have hn : n % 64 ^ k < 64 ^ k := Nat.mod_lt n (Nat.pow_pos (by decide))
    rw [tail, tail, List.cons_append, List.cons_append, List.cons_lt_cons_iff]
    rcases Nat.lt_trichotomy (m / 64 ^ k % 64) (n / 64 ^ k % 64) with hlt | heq | hgt
    · exact Or.inl (toUInt8_lt (by omega) (by omega))
    · rw [heq] at h ⊢
      exact Or.inr ⟨rfl, ih (by omega)⟩
    · -- the first six bits outweigh all others
      have hle := Nat.mul_le_mul_left (64 ^ k) hgt
      rw [Nat.succ_eq_add_one, Nat.mul_add] at hle
      omega

/-- Of two characters the one with the smaller number has the smaller first byte, or the same one
and smaller bits behind. -/
theorem Form.lt {k mark m k' mark' n : Nat} (h : Form k mark m) (h' : Form k' mark' n)
    (hlt : m < n) : mark + m / 64 ^ k < mark' + n / 64 ^ k' ∨
      k = k' ∧ mark + m / 64 ^ k = mark' + n / 64 ^ k' ∧ m % 64 ^ k < n % 64 ^ k := by
  cases h <;> cases h' <;> omega

/-- The bytes of the character with the smaller number come first, whatever follows them. -/
theorem encodeChar_lt {a b : Char} (h : a.toNat < b.toNat) (r r' : Bytes) :
    encodeChar a ++ r < encodeChar b ++ r' := by
  obtain ⟨k, mark, x, hform, hx, ha⟩ := encodeChar_cases a
  obtain ⟨k', mark', y, hform', hy, hb⟩ := encodeChar_cases b
  rw [ha, hb, List.cons_append, List.cons_append, List.cons_lt_cons_iff]
  rcases hform.lt hform' h with hlt | ⟨rfl, heq, hlt⟩
  · exact Or.inl (UInt8.lt_iff_toNat_lt.2 (by omega))
  · -- the first bytes tie, so both characters have as many later bytes
    exact Or.inr ⟨UInt8.toNat_inj.1 (by omega), tail_lt hlt r r'⟩

/-- No character begins with the bytes of another one. -/
theorem encodeChar_append_inj {a b : Char} {r r' : Bytes}
    (h : encodeChar a ++ r = encodeChar b ++ r') : a = b ∧ r = r' := by
  have hab : a = b := by
    rcases Nat.lt_trichotomy a.toNat b.toNat with hlt | heq | hlt
    · exact absurd (h ▸ encodeChar_lt hlt r r') (List.lt_irrefl _)
    · exact Char.ext (UInt32.toNat_inj.1 heq)
    · exact absurd (h ▸ encodeChar_lt hlt r' r) (List.lt_irrefl _)
  subst hab
  exact ⟨rfl, List.append_cancel_left h⟩

end Utf8

/-- Of two texts one comes first by code points, or they are the same. -/
theorem lex_trichotomy (s t : Text) :
    List.Lex (fun a b => a.toNat < b.toNat) s t ∨ s = t ∨
      List.Lex (fun a b => a.toNat < b.toNat) t s := by
  have htotal := precedes_total s t
  rw [Bool.or_eq_true, precedes_iff, precedes_iff] at htotal
  rcases htotal with (heq | hst) | (heq | hts)
  · exact Or.inr (Or.inl heq)
  · exact Or.inl hst
  · exact Or.inr (Or.inl heq.symm)
  · exact Or.inr (Or.inr hts)

/-- The bytes of two texts compare as the texts do by code points. -/
theorem encode_lt {s t : Text} (h : List.Lex (fun a b => a.toNat < b.toNat) s t) :
    encode s < encode t := by
  -- the first character in which the texts differ decides, and so do its bytes
  induction h with
  | @nil a t =>
    obtain ⟨x, r, ha⟩ := List.exists_cons_of_ne_nil (Utf8.encodeChar_ne_nil a)
    rw [encode_cons, ha]
    exact List.nil_lt_cons _ _
  | rel h =>
    rw [encode_cons, encode_cons]
    exact Utf8.encodeChar_lt h _ _
  | cons _ ih =>
    rw [encode_cons, encode_cons]
    exact List.append_left_lt ih

/-- The order of the bytes is the order by code points. -/
theorem encode_lt_iff {s t : Text} :
    encode s < encode t ↔ List.Lex (fun a b => a.toNat < b.toNat) s t := by
  refine ⟨fun h => ?_, encode_lt⟩
  rcases lex_trichotomy s t with hst | rfl | hts
  · exact hst
  · exact absurd h (List.lt_irrefl _)
  · exact absurd (encode_lt hts) (List.lt_asymm h)

/-- Bytes that come no later come first, unless the texts are the same. -/
theorem encode_lt_of_le_of_ne {s t : Text} (h : encode s ≤ encode t) (hne : s ≠ t) :
    encode s < encode t := by
  rcases lex_trichotomy s t with hst | heq | hts
  · exact encode_lt hst
  · exact absurd heq hne
  · exact absurd (encode_lt hts) h

/-- Texts with the same bytes are the same. -/
theorem encode_le_antisymm {s t : Text} (h : encode s ≤ encode t) (h' : encode t ≤ encode s) :
    s = t := by
  by_contra hne
  exact h' (encode_lt_of_le_of_ne h hne)

end SnippetServer.Text
