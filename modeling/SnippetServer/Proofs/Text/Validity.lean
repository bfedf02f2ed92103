import SnippetServer.Proofs.Text.Decoding

namespace SnippetServer.Text

/-!
# Byte strings that are UTF-8

A byte string is UTF-8 if it is the encoding of some characters, and the bytes of a character are
those of the standard library.  Exactly these byte strings are read without a loss, so exactly these
come back if their text is encoded again.  Truncated characters, overlong forms and surrogates are
lost and come back as the bytes of U+FFFD; bytes that hold a U+FFFD of their own come back as they
were.

* `Utf8.encodeChar_eq_utf8EncodeChar` — the bytes of a character;
* `IsUtf8`, `isUtf8_iff` — the byte strings that are encodings;
* `isSome_decode?_iff` — they are those that have a text, so `IsUtf8` can be decided;
* `replacement_mem_decodeLossy` — in all others something is lost;
* `decodeLossy_encode`, `encode_decodeLossy_eq_iff` — what comes back.
-/

/-! ### The bytes of a character -/

/-- The bytes of a character are those that every string of the standard library has. -/
theorem Utf8.encodeChar_eq_utf8EncodeChar (c : Char) :
    encodeChar c = String.utf8EncodeChar c := by
  obtain ⟨k, mark, h⟩ := exists_form c.valid
  change Form k mark c.toNat at h
  rw [h.encodeChar_eq, String.utf8EncodeChar, Char.toNat_val, Nat.toUInt8_eq]
  generalize c.toNat = n at h ⊢
  -- the number is so small that its first bits fit beside the mark: none of them is cut off
  cases h with
  | one h =>
    rw [if_pos (by omega)]
    simp [tail]
  | two hle hlt =>
    have hfirst : 0xC0 + n / 64 ^ 1 = n / 64 % 32 + 192 := by omega
    rw [if_neg (by omega), if_pos (by omega), hfirst]
    simp [tail, UInt8.add_comm]
  | three hle hlt =>
    have hfirst : 0xE0 + n / 64 ^ 2 = n / 4096 % 16 + 224 := by omega
    rw [if_neg (by omega), if_neg (by omega), if_pos (by omega), hfirst]
    simp [tail, UInt8.add_comm]
  | four hle hlt =>
    have hfirst : 0xF0 + n / 64 ^ 3 = n / 262144 % 8 + 240 := by omega
    rw [if_neg (by omega), if_neg (by omega), if_neg (by omega), hfirst]
    simp [tail, UInt8.add_comm]

/-- The bytes of a text are those of the standard library. -/
theorem utf8Encode_eq (t : Text) : t.utf8Encode = (encode t).toByteArray := by
  have hchar : encodeChar = String.utf8EncodeChar := funext Utf8.encodeChar_eq_utf8EncodeChar
  rw [List.utf8Encode, encode, hchar]

/-! ### Encodings -/

/-- The bytes are UTF-8. -/
def IsUtf8 (b : Bytes) : Prop := b.toByteArray.IsValidUTF8

/-- The byte strings that are UTF-8 are the encodings of texts. -/
theorem isUtf8_iff {b : Bytes} : IsUtf8 b ↔ ∃ t, encode t = b := by
  constructor
  · rintro ⟨t, ht⟩
    rw [utf8Encode_eq, List.toByteArray_inj] at ht
    exact ⟨t, ht.symm⟩
  · rintro ⟨t, rfl⟩
    exact ⟨t, (utf8Encode_eq t).symm⟩

/-- The byte strings that are UTF-8 are those that have a text. -/
theorem isSome_decode?_iff {b : Bytes} : (decode? b).isSome = true ↔ IsUtf8 b := by
  rw [Option.isSome_iff_exists, isUtf8_iff]
  exact exists_congr fun _ => decode?_eq_some_iff

instance (b : Bytes) : Decidable (IsUtf8 b) := decidable_of_iff _ isSome_decode?_iff

-- a truncated character, an overlong slash, a surrogate, and U+FFFD itself
example : ¬ IsUtf8 [0xE4, 0xBD] ∧ ¬ IsUtf8 [0xC0, 0xAF] ∧ ¬ IsUtf8 [0xED, 0xA0, 0x80] ∧
    IsUtf8 [0xEF, 0xBF, 0xBD] := by decide

/-! ### What is lost, and what comes back -/

/-- Where nothing is lost, the bytes are the encoding of the characters that are read. -/
theorem Reads.exists_text {b : Bytes} {out : List (Option Char)} (h : Reads b out)
    (hout : none ∉ out) : ∃ t, encode t = b := by
  -- character by character, since nothing is lost
  induction h with
  | nil => exact ⟨[], rfl⟩
  | @char c b out _ ih =>
    obtain ⟨t, rfl⟩ := ih fun hmem => hout (List.mem_cons_of_mem _ hmem)
    exact ⟨c :: t, encode_cons c t⟩
  | lost _ _ _ => exact absurd List.mem_cons_self hout

/-- In bytes that are not UTF-8 something is lost, and U+FFFD stands for it. -/
theorem replacement_mem_decodeLossy {b : Bytes} (h : ¬ IsUtf8 b) :
    replacement ∈ decodeLossy b := by
  -- otherwise the characters that are read would have these bytes
  have hlost : none ∈ scan b := by
    by_contra hout
    exact h (isUtf8_iff.2 ((reads_scan b).exists_text hout))
  exact List.mem_map.2 ⟨none, hlost, rfl⟩

/-- The encoding of a text is read as this text, also if U+FFFD is one of its characters. -/
@[simp] theorem decodeLossy_encode (t : Text) : decodeLossy (encode t) = t := by
  rw [decodeLossy, reads_iff.1 (reads_encode t), List.map_map]
  exact List.map_id t

/-- Exactly the byte strings that are UTF-8 come back if their text is encoded again. -/
theorem encode_decodeLossy_eq_iff {b : Bytes} : encode (decodeLossy b) = b ↔ IsUtf8 b := by
  rw [isUtf8_iff]
  constructor
  · intro h
    exact ⟨decodeLossy b, h⟩
  · rintro ⟨t, rfl⟩
    rw [decodeLossy_encode]

end SnippetServer.Text
