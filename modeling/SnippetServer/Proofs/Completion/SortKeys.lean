import SnippetServer.Completion.Item
import SnippetServer.Proofs.Snippet.Summary
import SnippetServer.Proofs.Text.Utf8
import Mathlib.Data.List.Nodup

namespace SnippetServer.Completion

open Snippet

/-!
# Sort keys

The sort key of an entry is its rank in decimal.  Keys of one length compare as the ranks do, and up
to 999999 all have six digits.  The next one, 1000000, comes before 999999, so the keys give the
order of the entries back exactly as long as there are no more than a million of them.

* `IsDecimal t` — a text of decimal digits; `IsDecimal.lt_of_lex` compares two of one length;
* `ofDigitChars_sortKey`, `sortKey_lt_iff` — the keys as numbers, and their order;
* `KeysTellOrder key n xs` — what the keys of `n` things in the order of their ranks tell about it;
* `sort_keys_tell_order` — the candidates and the items of an index.
-/

/-! ### Decimal numbers -/

/-- All characters are decimal digits. -/
def IsDecimal (t : Text) : Prop := ∀ c ∈ t, c.isDigit = true

section

variable {c : Char} {s t : Text}

/-- The digits have the code points from 0x30 to 0x39. -/
theorem bounds_of_isDigit (h : c.isDigit = true) : 0x30 ≤ c.toNat ∧ c.toNat ≤ 0x39 := by
  simp only [Char.isDigit, Bool.and_eq_true, decide_eq_true_eq, ge_iff_le,
    UInt32.le_iff_toNat_le] at h
  exact h

/-- The first digit counts as many times as its place says. -/
theorem ofDigitChars_cons (c : Char) (t : Text) : Nat.ofDigitChars 10 (c :: t) 0 =
    10 ^ t.length * (c.toNat - 0x30) + Nat.ofDigitChars 10 t 0 := by
  rw [Nat.ofDigitChars_cons, Nat.ofDigitChars_eq_ofDigitChars_zero, Nat.mul_zero, Nat.zero_add]
  rfl

/-- A number stays below the power of ten with as many zeros as it has digits. -/
theorem IsDecimal.lt_pow (h : IsDecimal t) : Nat.ofDigitChars 10 t 0 < 10 ^ t.length := by
  induction t with
  | nil => simp
  | cons c t ih =>
    have hc := bounds_of_isDigit (h c List.mem_cons_self)
    have ht := ih fun d hd => h d (List.mem_cons_of_mem c hd)
    -- the first digit is 9 at most, and the rest stays below its place
    have hle : 10 ^ t.length * (c.toNat - 0x30) ≤ 10 ^ t.length * 9 :=
      Nat.mul_le_mul_left _ (by omega)
    rw [ofDigitChars_cons, List.length_cons, Nat.pow_succ]
    omega

/-- Of two decimal numbers with as many digits, the first difference decides. -/
theorem IsDecimal.lt_of_lex (hs : IsDecimal s) (ht : IsDecimal t) (hlen : s.length = t.length)
    (h : List.Lex (fun a b => a.toNat < b.toNat) s t) :
    Nat.ofDigitChars 10 s 0 < Nat.ofDigitChars 10 t 0 := by
  induction h with
  | nil => simp at hlen
  | @rel a s b t hab =>
    have hrest := IsDecimal.lt_pow fun d hd => hs d (List.mem_cons_of_mem a hd)
    have ha := bounds_of_isDigit (hs a List.mem_cons_self)
    -- one more in the first place outweighs all places behind it
    have hle : 10 ^ s.length * (a.toNat - 0x30 + 1) ≤ 10 ^ s.length * (b.toNat - 0x30) :=
      Nat.mul_le_mul_left _ (by omega)
    rw [Nat.mul_add, Nat.mul_one] at hle
    rw [List.length_cons, List.length_cons, Nat.add_right_cancel_iff] at hlen
    rw [ofDigitChars_cons, ofDigitChars_cons, ← hlen]
    omega
  | @cons a s t _ ih =>
    rw [List.length_cons, List.length_cons, Nat.add_right_cancel_iff] at hlen
    have hrest := ih (fun d hd => hs d (List.mem_cons_of_mem a hd))
      (fun d hd => ht d (List.mem_cons_of_mem a hd)) hlen
    rw [ofDigitChars_cons, ofDigitChars_cons, hlen]
    omega

end

/-! ### The keys -/

/-- A key has decimal digits only. -/
theorem isDecimal_sortKey (n : Nat) : IsDecimal (sortKey n) := by
  intro c hc
  -- the zeros in front and the digits of the rank
  rcases List.mem_append.1 hc with hc | hc
  · rw [List.eq_of_mem_replicate hc]
    rfl
  · exact Nat.isDigit_of_mem_toDigits (by decide) (by decide) hc

/-- A key is its rank in decimal. -/
theorem ofDigitChars_sortKey (n : Nat) : Nat.ofDigitChars 10 (sortKey n) 0 = n := by
  rw [sortKey, Nat.ofDigitChars_append, Nat.ofDigitChars_replicate_zero, Nat.mul_zero,
    Nat.ofDigitChars_ten_toDigits]

/-- No two ranks have one key. -/
theorem sortKey_injective : Function.Injective sortKey := by
  intro m n h
  rw [← ofDigitChars_sortKey m, h, ofDigitChars_sortKey]

/-- Up to 999999 six digits are enough. -/
theorem length_sortKey {n : Nat} (h : n < 1000000) : (sortKey n).length = sortKeyWidth := by
  have hle : (Nat.toDigits 10 n).length ≤ sortKeyWidth :=
    (Nat.length_toDigits_le_iff (by decide) (by decide)).2 h
  simp only [sortKey, List.length_append, List.length_replicate]
  omega

/-- As long as six digits are enough, the key that comes first is that of the lower rank. -/
theorem lt_of_sortKey_lex {m n : Nat} (hm : m < 1000000) (hn : n < 1000000)
    (h : List.Lex (fun a b => a.toNat < b.toNat) (sortKey m) (sortKey n)) : m < n := by
  have hlen : (sortKey m).length = (sortKey n).length := by
    rw [length_sortKey hm, length_sortKey hn]
  have hlt := (isDecimal_sortKey m).lt_of_lex (isDecimal_sortKey n) hlen h
  rwa [ofDigitChars_sortKey, ofDigitChars_sortKey] at hlt

/-- As long as six digits are enough, the keys compare as the ranks do. -/
theorem sortKey_lt_iff {m n : Nat} (hm : m < 1000000) (hn : n < 1000000) :
    Text.encode (sortKey m) < Text.encode (sortKey n) ↔ m < n := by
  rw [Text.encode_lt_iff]
  refine ⟨lt_of_sortKey_lex hm hn, fun hlt => ?_⟩
  -- a key that does not come first would be the same one or come from a higher rank
  rcases Text.lex_trichotomy (sortKey m) (sortKey n) with hmn | heq | hnm
  · exact hmn
  · exact absurd (sortKey_injective heq) hlt.ne
  · exact absurd (lt_of_sortKey_lex hn hm hnm) (Nat.lt_asymm hlt)

/-- The first key with seven digits comes before the last one with six. -/
theorem not_sortKey_lt_limit : ¬ Text.encode (sortKey 999999) < Text.encode (sortKey 1000000) := by
  decide

/-! ### What a client can tell by the keys -/

/-- What the keys of `n` things, listed by rank, tell about their order.  A client sorts by the
bytes of the keys. -/
structure KeysTellOrder {α : Type} (key : α → Text) (n : Nat) (xs : List α) : Prop where
  /-- The key of each is that of its rank. -/
  keys_eq : xs.map key = (List.range n).map sortKey
  /-- No key comes twice. -/
  distinct : (xs.map key).Nodup
  /-- The keys increase along the list exactly if there are no more than a million. -/
  increasing : (xs.map key).Pairwise (fun s t => Text.encode s < Text.encode t) ↔ n ≤ 1000000
  /-- Whatever has been sorted by the keys is in the order of the list exactly as long. -/
  restores : ∀ sorted : List α, sorted.Perm xs →
    sorted.Pairwise (fun a b => Text.encode (key a) ≤ Text.encode (key b)) →
      (sorted = xs ↔ n ≤ 1000000)

/-- The keys of the first ranks increase exactly as long as there are no more than a million. -/
theorem increasing_sortKey_iff (n : Nat) :
    ((List.range n).map sortKey).Pairwise (fun s t => Text.encode s < Text.encode t) ↔
      n ≤ 1000000 := by
  rw [List.pairwise_map]
  constructor
  · intro h
    by_contra hn
    -- both sides of the limit are among the ranks
    have hlt := List.pairwise_iff_getElem.1 h 999999 1000000 (by simp; omega) (by simp; omega)
      (by decide)
    rw [List.getElem_range, List.getElem_range] at hlt
    exact not_sortKey_lt_limit hlt
  · intro hn
    refine List.pairwise_lt_range.imp_of_mem fun {i j} hi hj hij => ?_
    rw [List.mem_range] at hi hj
    exact (sortKey_lt_iff (by omega) (by omega)).2 hij

/-- The keys of the ranks tell the order. -/
theorem keysTellOrder {α : Type} {key : α → Text} {n : Nat} {xs : List α}
    (h : xs.map key = (List.range n).map sortKey) : KeysTellOrder key n xs := by
  have hdistinct : (xs.map key).Nodup := by
    rw [h]
    exact List.nodup_range.map sortKey_injective
  have hincreasing := increasing_sortKey_iff n
  rw [← h] at hincreasing
  refine ⟨h, hdistinct, hincreasing, fun sorted hperm hsorted => ⟨?_, fun hn => ?_⟩⟩
  · rintro rfl
    -- keys that do not decrease and never repeat increase
    refine hincreasing.1 (List.pairwise_map.2 ?_)
    exact (hsorted.and (List.pairwise_map.1 hdistinct)).imp fun hab =>
      Text.encode_lt_of_le_of_ne hab.1 hab.2
  · have hxs := List.pairwise_map.1 (hincreasing.2 hn)
    have hle : xs.Pairwise fun a b => Text.encode (key a) ≤ Text.encode (key b) :=
      hxs.imp fun hlt => List.lt_asymm hlt
    refine hperm.eq_of_pairwise (fun a b ha hb hab hba => ?_) hsorted hle
    -- what has one key is one thing
    exact List.inj_on_of_nodup_map hdistinct (hperm.subset ha) hb
      (Text.encode_le_antisymm hab hba)

/-! ### The candidates of an index -/

/-- The ranks of an index count its entries. -/
theorem map_rank_entries (order : List Text) (files : List File) :
    (Index.build order files).entries.map Entry.rank =
      List.range (Index.build order files).size := by
  have hranks := (Index.summarizes_ofRecords (Index.recordsOf order files)).rank_eq
  -- place by place: the rank at a place is that place
  refine List.ext_getElem? fun k => ?_
  rw [List.getElem?_map]
  cases he : (Index.build order files).entries[k]? with
  | none =>
    have hk := List.getElem?_eq_none_iff.1 he
    rw [Index.length_entries] at hk
    simp [hk]
  | some e =>
    obtain ⟨hk, -⟩ := List.getElem?_eq_some_iff.1 he
    rw [Index.length_entries] at hk
    rw [Option.map_some, hranks k e he]
    simp [hk]

/-- The sort keys of candidates are those of the ranks, whatever is typed. -/
theorem map_sortText_ofEntry (index : Index) (typed : Text) (replacement : Option Span) :
    (index.entries.map (Candidate.ofEntry typed replacement)).map Candidate.sortText =
      (index.entries.map Entry.rank).map sortKey := by
  rw [List.map_map, List.map_map]
  rfl

/-- The sort keys for a line are those of the ranks, whatever stands in it. -/
theorem map_sortText_completeLine (index : Index) (line : Text) :
    (completeLine index line).map Candidate.sortText =
      (index.entries.map Entry.rank).map sortKey := by
  rw [completeLine_eq, map_sortText_ofEntry]

/-- **Sort keys.**  Whatever is typed, the sort keys of the candidates of an index, and of its items
at any position, are those of the ranks.  They are distinct, and sorting by them gives the order of
the entries exactly if there are no more than a million entries. -/
theorem sort_keys_tell_order (order : List Text) (files : List File) :
    (∀ typed, KeysTellOrder Candidate.sortText (Index.build order files).size
      (query (Index.build order files) typed)) ∧
    (∀ line, KeysTellOrder Candidate.sortText (Index.build order files).size
      (completeLine (Index.build order files) line)) ∧
    ∀ d p, KeysTellOrder Item.sortText (Index.build order files).size
      (itemsAt (Index.build order files) d p) := by
  have hranks := map_rank_entries order files
  refine ⟨fun typed => keysTellOrder ?_, fun line => keysTellOrder ?_, fun d p => keysTellOrder ?_⟩
  · rw [query, map_sortText_ofEntry, hranks]
  · rw [map_sortText_completeLine, hranks]
  · have hitems : (itemsAt (Index.build order files) d p).map Item.sortText =
        (completeLine (Index.build order files) ((d.linePrefix? p).getD [])).map
          Candidate.sortText := by
      rw [itemsAt, List.map_map]
      rfl
    rw [hitems, map_sortText_completeLine, hranks]

end SnippetServer.Completion
