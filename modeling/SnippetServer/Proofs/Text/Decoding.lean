import SnippetServer.Proofs.Text.Lines
import SnippetServer.Proofs.Text.Utf8
import Mathlib.Data.List.Basic

namespace SnippetServer.Text

/-!
# What a byte string is read as

A byte string is read from its front.  The bytes of a character give that character.  Where no
character stands, bytes are lost: the longest beginning of a character that stands there, or the one
byte there if no character begins with it.

* `Begins p`, `IsLost p b` — beginnings of characters, and the bytes `p` that are lost before `b`;
* `Reads b out` — the characters and the losses of a byte string;
* `Utf8.Expects`, `Utf8.Pending` — what the decoder knows of the bytes of an unfinished character;
  `Utf8.start_cases` and `Utf8.step_cases` say what one more byte does;
* `reads_iff` — the decoder reads so, and nothing else can be read;
* `decode?_eq_some_iff`, `decode?_injective` — the bytes that have a text are its encoding;
* `Reads.append_ascii` — an ASCII character ends all that is unfinished before it, so
  `cutAt_decodeLossy`: cutting and reading can be done in either order;
* `decodeLossy_of_ascii`, `Reads.ascii` — bytes in ASCII are read one by one, and other bytes are
  not read as ASCII.
-/

/-! ### Characters and losses -/

/-- The bytes begin a character and do not end it. -/
def Begins (p : Bytes) : Prop := ∃ c q, q ≠ [] ∧ encodeChar c = p ++ q

/-- The bytes `p` are lost as one, where the bytes `b` stand behind. -/
inductive IsLost : Bytes → Bytes → Prop where
  /-- No character begins with this byte. -/
  | stray {x : UInt8} {b : Bytes} : (∀ c, ¬ [x] <+: encodeChar c) → IsLost [x] b
  /-- A character is begun, and none goes on with the next byte. -/
  | unfinished {p b : Bytes} : p ≠ [] → Begins p →
      (∀ x ∈ b.head?, ∀ c, ¬ p ++ [x] <+: encodeChar c) → IsLost p b

/-- What a byte string is read as: its characters and its losses, in order. -/
inductive Reads : Bytes → List (Option Char) → Prop where
  /-- Nothing is left. -/
  | nil : Reads [] []
  /-- A character stands at the front. -/
  | char {c : Char} {b : Bytes} {out : List (Option Char)} :
      Reads b out → Reads (encodeChar c ++ b) (some c :: out)
  /-- Bytes at the front are lost. -/
  | lost {p b : Bytes} {out : List (Option Char)} :
      IsLost p b → Reads b out → Reads (p ++ b) (none :: out)

namespace Utf8

/-! ### The decoder -/

/-- The number of a character has these first bits, and its next byte lies in this range. -/
def Admits (bits owed lo hi n : Nat) : Prop :=
  n / 64 ^ (owed + 1) = bits ∧ lo ≤ 0x80 + n / 64 ^ owed % 64 ∧ 0x80 + n / 64 ^ owed % 64 ≤ hi

/-- The bytes `p` have been read of a character, and exactly those that are admitted can come of
it. -/
structure Expects (bits owed lo hi : Nat) (p : Bytes) : Prop where
  /-- Something has been read. -/
  ne_nil : p ≠ []
  /-- The next byte is not that of an ASCII character. -/
  le_lo : 0x80 ≤ lo
  /-- There is a next byte. -/
  lo_le_hi : lo ≤ hi
  /-- The next byte is a later one. -/
  hi_le : hi ≤ 0xBF
  /-- What is admitted has been read so far. -/
  bytes : ∀ n, Admits bits owed lo hi n → encodeChar (Char.ofNat n) = p ++ tail (owed + 1) n
  /-- Nothing else has been read so far. -/
  only : ∀ c, p <+: encodeChar c → Admits bits owed lo hi c.toNat

/-- The bytes `p` are what has been read of an unfinished character. -/
def Pending : State → Bytes → Prop
  | .between, p => p = []
  | .inside bits owed lo hi, p => Expects bits owed lo hi p

/-- The first byte of a character tells its form and its first bits. -/
theorem first_of_prefix {x : UInt8} {c : Char} (h : [x] <+: encodeChar c) :
    ∃ k mark, Form k mark c.toNat ∧ x.toNat = mark + c.toNat / 64 ^ k := by
  obtain ⟨k, mark, y, hform, hy, hc⟩ := encodeChar_cases c
  rw [hc, List.cons_prefix_cons] at h
  exact ⟨k, mark, hform, h.1 ▸ hy⟩

/-- What a first byte has to say for the decoder to expect more after it. -/
theorem expects_first {x : UInt8} {bits owed lo hi : Nat} (mark : Nat) (hlo : 0x80 ≤ lo)
    (hle : lo ≤ hi) (hhi : hi ≤ 0xBF)
    (h : ∀ n, Admits bits owed lo hi n →
      n.isValidChar ∧ Form (owed + 1) mark n ∧ x.toNat = mark + n / 64 ^ (owed + 1))
    (h' : ∀ k mark' n, n.isValidChar → Form k mark' n → x.toNat = mark' + n / 64 ^ k →
      Admits bits owed lo hi n) : Expects bits owed lo hi [x] where
  ne_nil := List.cons_ne_nil _ _
  le_lo := hlo
  lo_le_hi := hle
  hi_le := hhi
  bytes := by
    intro n hn
    -- an admitted number is that of a character, whose first byte this is
    obtain ⟨hvalid, hform, hx⟩ := h n hn
    have hc : (Char.ofNat n).toNat = n := toNat_ofNat hvalid
    rw [← hc] at hform
    rw [hform.encodeChar_eq, hc, toUInt8_eq hx.symm]
    rfl
  only := by
    intro c hc
    obtain ⟨k, mark', hform, hx⟩ := first_of_prefix hc
    exact h' k mark' _ c.valid hform hx

section

variable {x : UInt8} {bits lo hi : Nat}

/-- After the first one of two bytes any later byte may follow: smaller numbers would have one byte.
-/
theorem expects_of_two (hbits : x.toNat = 0xC0 + bits) (hle : 2 ≤ bits) (hlt : bits < 0x20) :
    Expects bits 0 0x80 0xBF [x] := by
  refine expects_first 0xC0 (by omega) (by omega) (by omega) ?_ ?_
  · rintro n ⟨hn, hlo, hhi⟩
    exact ⟨Or.inl (by omega), .two (by omega) (by omega), by omega⟩
  · intro k mark n hvalid hform hx
    unfold Admits
    cases hform <;> omega

/-- The next byte is not so small that two bytes would do, nor so large that a surrogate would come
of it. -/
theorem expects_of_three (hbits : x.toNat = 0xE0 + bits) (hlt : bits < 0x10)
    (hlo : bits = 0 ∧ lo = 0xA0 ∨ bits ≠ 0 ∧ lo = 0x80)
    (hhi : bits = 0xD ∧ hi = 0x9F ∨ bits ≠ 0xD ∧ hi = 0xBF) : Expects bits 1 lo hi [x] := by
  refine expects_first 0xE0 (by omega) (by omega) (by omega) ?_ ?_
  · -- the narrow ranges keep out what is below the form and the surrogates
    rintro n ⟨hn, hle, hge⟩
    refine ⟨?_, .three (by omega) (by omega), by omega⟩
    unfold Nat.isValidChar
    omega
  · intro k mark n hvalid hform hx
    unfold Nat.isValidChar at hvalid
    unfold Admits
    cases hform <;> omega

/-- The next byte is not so small that three bytes would do, nor so large that there is no such
character. -/
theorem expects_of_four (hbits : x.toNat = 0xF0 + bits) (hlt : bits < 5)
    (hlo : bits = 0 ∧ lo = 0x90 ∨ bits ≠ 0 ∧ lo = 0x80)
    (hhi : bits = 4 ∧ hi = 0x8F ∨ bits ≠ 4 ∧ hi = 0xBF) : Expects bits 2 lo hi [x] := by
  refine expects_first 0xF0 (by omega) (by omega) (by omega) ?_ ?_
  · rintro n ⟨hn, hle, hge⟩
    exact ⟨Or.inr (by omega), .four (by omega) (by omega), by omega⟩
  · intro k mark n hvalid hform hx
    unfold Admits
    cases hform <;> omega

end

/-- A byte between characters is an ASCII character, begins a character, or is lost. -/
theorem start_cases (x : UInt8) :
    (∃ c, start x.toNat = ([some c], .between) ∧ encodeChar c = [x]) ∨
      (∃ s, start x.toNat = ([], s) ∧ Pending s [x]) ∨
        (start x.toNat = ([none], .between) ∧ ∀ c, ¬ [x] <+: encodeChar c) := by
  have hx := x.toNat_lt
  unfold start
  split
  · rename_i h
    exact Or.inl ⟨_, rfl, encodeChar_ofNat h⟩
  refine Or.inr ?_
  -- the tests follow the number of bytes, with the narrow ranges before the wide one
  split
  · exact Or.inl ⟨_, rfl, expects_of_two (by omega) (by omega) (by omega)⟩
  split
  · exact Or.inl ⟨_, rfl, expects_of_three (by omega) (by omega) (by omega) (by omega)⟩
  split
  · exact Or.inl ⟨_, rfl, expects_of_three (by omega) (by omega) (by omega) (by omega)⟩
  split
  · exact Or.inl ⟨_, rfl, expects_of_three (by omega) (by omega) (by omega) (by omega)⟩
  split
  · exact Or.inl ⟨_, rfl, expects_of_four (by omega) (by omega) (by omega) (by omega)⟩
  split
  · exact Or.inl ⟨_, rfl, expects_of_four (by omega) (by omega) (by omega) (by omega)⟩
  split
  · exact Or.inl ⟨_, rfl, expects_of_four (by omega) (by omega) (by omega) (by omega)⟩
  · -- no character begins so
    refine Or.inr ⟨rfl, fun c hc => ?_⟩
    obtain ⟨k, mark, hform, hx⟩ := first_of_prefix hc
    generalize c.toNat = n at hform hx
    cases hform <;> omega

section

variable {bits owed lo hi : Nat} {p : Bytes}

/-- Some character goes on from what has been read. -/
theorem Expects.begins (h : Expects bits owed lo hi p) : Begins p := by
  have hpos : 0 < 64 ^ owed := Nat.pow_pos (by decide)
  have hlo := h.le_lo
  have hle := h.lo_le_hi
  have hhi := h.hi_le
  -- the character with the least next byte, and no bits behind it
  have hnext : (bits * 64 + (lo - 0x80)) * 64 ^ owed / 64 ^ owed = bits * 64 + (lo - 0x80) :=
    Nat.mul_div_cancel _ hpos
  have hadmits : Admits bits owed lo hi ((bits * 64 + (lo - 0x80)) * 64 ^ owed) := by
    refine ⟨?_, ?_, ?_⟩
    · rw [Nat.pow_succ, ← Nat.div_div_eq_div_mul, hnext]
      omega
    · rw [hnext]
      omega
    · rw [hnext]
      omega
  exact ⟨_, _, by simp [tail], h.bytes _ hadmits⟩

/-- If a character goes on with a byte, it is admitted, and this is its next byte. -/
theorem Expects.next (h : Expects bits owed lo hi p) {x : UInt8} {c : Char}
    (hc : p ++ [x] <+: encodeChar c) :
    Admits bits owed lo hi c.toNat ∧ x.toNat = 0x80 + c.toNat / 64 ^ owed % 64 := by
  have hadmits := h.only c ((List.prefix_append p [x]).trans hc)
  have hbytes := h.bytes _ hadmits
  rw [Char.ofNat_toNat] at hbytes
  rw [hbytes, List.prefix_append_right_inj, tail, List.cons_prefix_cons] at hc
  refine ⟨hadmits, ?_⟩
  rw [hc.1, toNat_toUInt8 (by omega)]

/-- A byte inside a character ends it, belongs to it, or does not go on with it: then what has been
read is lost, and the byte is read as one between characters. -/
theorem step_cases (h : Expects bits owed lo hi p) (x : UInt8) :
    (∃ c, step (.inside bits owed lo hi) x.toNat = ([some c], .between) ∧
        encodeChar c = p ++ [x]) ∨
      (∃ s, step (.inside bits owed lo hi) x.toNat = ([], s) ∧ Pending s (p ++ [x])) ∨
        (step (.inside bits owed lo hi) x.toNat =
            (none :: (start x.toNat).1, (start x.toNat).2) ∧
          ∀ c, ¬ p ++ [x] <+: encodeChar c) := by
  have hlo := h.le_lo
  have hhi := h.hi_le
  unfold step
  by_cases hx : lo ≤ x.toNat ∧ x.toNat ≤ hi
  · simp only [if_pos hx]
    cases owed with
    | zero =>
      refine Or.inl ⟨_, rfl, ?_⟩
      rw [h.bytes _ ⟨by omega, by omega, by omega⟩]
      -- the last six bits are those of the byte
      have hlast : (0x80 + (bits * 64 + (x.toNat - 0x80)) / 64 ^ 0 % 64).toUInt8 = x :=
        toUInt8_eq (by omega)
      rw [tail, hlast]
      rfl
    | succ owed =>
      refine Or.inr (Or.inl ⟨_, rfl, ?_⟩)
      constructor
      · simp
      · omega
      · omega
      · omega
      · -- the byte is the next six bits of every number that is admitted from here on
        rintro n ⟨hn, -, -⟩
        have hnext : n / 64 ^ (owed + 1) % 64 = x.toNat - 0x80 := by omega
        have hbits : n / 64 ^ (owed + 1 + 1) = bits := by
          rw [Nat.pow_succ, ← Nat.div_div_eq_div_mul]
          omega
        rw [h.bytes n ⟨hbits, by omega, by omega⟩, tail, toUInt8_eq (b := x) (by omega),
          List.append_assoc]
        rfl
      · -- and what goes on with it is admitted still, since it was before
        intro c hc
        obtain ⟨⟨hbits, -, -⟩, hnext⟩ := h.next hc
        rw [Nat.pow_succ, ← Nat.div_div_eq_div_mul] at hbits
        exact ⟨by omega, by omega, by omega⟩
  · simp only [if_neg hx]
    refine Or.inr (Or.inr ⟨trivial, fun c hc => hx ?_⟩)
    obtain ⟨⟨-, hle, hge⟩, hnext⟩ := h.next hc
    omega

end

/-- What has been read, and what the decoder makes of the bytes to come. -/
theorem reads_scanFrom {s : State} {p : Bytes} (h : Pending s p) (b : Bytes) :
    Reads (p ++ b) (scanFrom s b) := by
  -- the invariant is that the pending bytes are what the state stands for
  induction b generalizing s p with
  | nil =>
    cases s with
    | between =>
      obtain rfl : p = [] := h
      exact .nil
    | inside bits owed lo hi =>
      -- an unfinished character is lost
      have hp : Expects bits owed lo hi p := h
      exact .lost (.unfinished hp.ne_nil hp.begins (by simp)) .nil
  | cons x r ih =>
    -- a byte between characters, which is also what a byte becomes that does not go on
    have hbetween : Reads (x :: r) ((start x.toNat).1 ++ scanFrom (start x.toNat).2 r) := by
      rcases start_cases x with ⟨c, hs, hc⟩ | ⟨s, hs, hp⟩ | ⟨hs, hc⟩
      · have hr : Reads (encodeChar c ++ r) (some c :: scanFrom .between r) :=
          .char (ih (s := .between) (p := []) rfl)
        rw [hs]
        rwa [hc] at hr
      · rw [hs]
        exact ih hp
      · rw [hs]
        exact .lost (.stray hc) (ih (s := .between) (p := []) rfl)
    cases s with
    | between =>
      obtain rfl : p = [] := h
      exact hbetween
    | inside bits owed lo hi =>
      have hp : Expects bits owed lo hi p := h
      rw [scanFrom]
      rcases step_cases hp x with ⟨c, hs, hc⟩ | ⟨s, hs, hp'⟩ | ⟨hs, hc⟩
      · have hr : Reads (encodeChar c ++ r) (some c :: scanFrom .between r) :=
          .char (ih (s := .between) (p := []) rfl)
        rw [hs]
        rwa [hc, List.append_assoc] at hr
      · have hr := ih hp'
        rw [List.append_assoc] at hr
        rw [hs]
        exact hr
      · rw [hs]
        exact .lost (.unfinished hp.ne_nil hp.begins fun y hy => by
          obtain rfl : x = y := Option.some.inj hy
          exact hc) hbetween

end Utf8

/-! ### There is one reading -/

/-- A loss takes at least one byte. -/
theorem IsLost.ne_nil {p b : Bytes} (h : IsLost p b) : p ≠ [] := by
  cases h with
  | stray h => simp
  | unfinished hne _ _ => exact hne

/-- Where a character stands, nothing is lost. -/
theorem IsLost.not_char {p b r : Bytes} (h : IsLost p b) (c : Char) :
    encodeChar c ++ r ≠ p ++ b := by
  intro heq
  cases h with
  | stray hx =>
    rcases List.append_eq_append_iff.1 heq with ⟨q, hq, -⟩ | ⟨q, hq, -⟩
    · obtain ⟨y, q', hy⟩ := List.exists_cons_of_ne_nil (Utf8.encodeChar_ne_nil c)
      rw [hy] at hq
      obtain ⟨rfl, -⟩ := List.cons.inj hq
      exact hx c (by simp [hy])
    · exact hx c ⟨q, hq.symm⟩
  | unfinished hne hbegins hmore =>
    obtain ⟨d, q, hq, hd⟩ := hbegins
    rcases List.append_eq_append_iff.1 heq with ⟨q', hp, -⟩ | ⟨q', hc, hb⟩
    · -- the character would end inside the other one
      rw [hp, List.append_assoc] at hd
      have hnil := (Utf8.encodeChar_append_inj ((List.append_nil _).trans hd)).2
      exact hq (List.append_eq_nil_iff.1 hnil.symm).2
    · cases q' with
      | nil =>
        rw [List.append_nil] at hc
        rw [← hc] at hd
        exact hq (Utf8.encodeChar_append_inj ((List.append_nil _).trans hd)).2.symm
      | cons x q' => exact hmore x (by simp [hb]) c ⟨q', by simp [hc]⟩

/-- What is lost does not go on in other bytes that are lost. -/
theorem IsLost.eq_nil_of_append {p q b : Bytes} (h : IsLost p (q ++ b)) (h' : IsLost (p ++ q) b) :
    q = [] := by
  cases q with
  | nil => rfl
  | cons x q =>
    -- two bytes are lost as one only if they begin a character
    have hbegins : Begins (p ++ x :: q) := by
      generalize hp' : p ++ x :: q = p' at h'
      cases h' with
      | stray _ =>
        have hlen := congrArg List.length hp'
        have hpos := List.length_pos_of_ne_nil h.ne_nil
        simp only [List.length_append, List.length_cons, List.length_nil] at hlen
        omega
      | unfinished _ hbegins _ => exact hbegins
    obtain ⟨d, r, -, hd⟩ := hbegins
    cases h with
    | stray hnone => exact absurd ⟨x :: q ++ r, by simpa using hd.symm⟩ (hnone d)
    | unfinished _ _ hmore =>
      exact absurd ⟨q ++ r, by simpa using hd.symm⟩ (hmore x (by simp) d)

/-- At one place the same bytes are lost, however the rest is read. -/
theorem IsLost.unique {p b p' b' : Bytes} (h : IsLost p b) (h' : IsLost p' b')
    (heq : p ++ b = p' ++ b') : p = p' ∧ b = b' := by
  -- one of the two losses begins with the other one
  rcases List.append_eq_append_iff.1 heq with ⟨q, rfl, rfl⟩ | ⟨q, rfl, rfl⟩
  · obtain rfl := h.eq_nil_of_append h'
    simp
  · obtain rfl := h'.eq_nil_of_append h
    simp

/-- What stands at the front of a byte string that is read. -/
theorem Reads.front {b : Bytes} {out : List (Option Char)} (h : Reads b out) :
    (b = [] ∧ out = []) ∨
      (∃ c r rest, b = encodeChar c ++ r ∧ out = some c :: rest ∧ Reads r rest) ∨
        ∃ p r rest, b = p ++ r ∧ out = none :: rest ∧ IsLost p r ∧ Reads r rest := by
  cases h with
  | nil => exact Or.inl ⟨rfl, rfl⟩
  | char h => exact Or.inr (Or.inl ⟨_, _, _, rfl, rfl, h⟩)
  | lost hp h => exact Or.inr (Or.inr ⟨_, _, _, rfl, rfl, hp, h⟩)

/-- A byte string is read in one way only. -/
theorem Reads.unique {b : Bytes} {out out' : List (Option Char)} (h : Reads b out)
    (h' : Reads b out') : out = out' := by
  -- the first piece of one reading is the first piece of the other one
  induction h generalizing out' with
  | nil =>
    rcases h'.front with ⟨-, rfl⟩ | ⟨c, r, rest, hb, -, -⟩ | ⟨p, r, rest, hb, -, hp, -⟩
    · rfl
    · exact absurd (List.append_eq_nil_iff.1 hb.symm).1 (Utf8.encodeChar_ne_nil c)
    · exact absurd (List.append_eq_nil_iff.1 hb.symm).1 hp.ne_nil
  | @char c b out h ih =>
    rcases h'.front with ⟨hb, -⟩ | ⟨d, r, rest, hb, rfl, hr⟩ | ⟨p, r, rest, hb, -, hp, -⟩
    · exact absurd (List.append_eq_nil_iff.1 hb).1 (Utf8.encodeChar_ne_nil c)
    · obtain ⟨rfl, rfl⟩ := Utf8.encodeChar_append_inj hb
      rw [ih hr]
    · exact absurd hb (hp.not_char c)
  | @lost p b out hp h ih =>
    rcases h'.front with ⟨hb, -⟩ | ⟨d, r, rest, hb, -, -⟩ | ⟨p', r, rest, hb, rfl, hp', hr⟩
    · exact absurd (List.append_eq_nil_iff.1 hb).1 hp.ne_nil
    · exact absurd hb.symm (hp.not_char d)
    · obtain ⟨rfl, rfl⟩ := hp.unique hp' hb
      rw [ih hr]

/-- What the decoder makes of a byte string is a reading of it. -/
theorem reads_scan (b : Bytes) : Reads b (scan b) :=
  Utf8.reads_scanFrom (s := .between) (p := []) rfl b

/-- The decoder reads a byte string as it can be read, and in no other way. -/
theorem reads_iff {b : Bytes} {out : List (Option Char)} : Reads b out ↔ scan b = out :=
  ⟨(reads_scan b).unique, fun h => h ▸ reads_scan b⟩

/-! ### Byte strings that have a text -/

/-- Bytes of which nothing is lost are those of their characters. -/
theorem Reads.encode_eq {b : Bytes} {t : Text} (h : Reads b (t.map some)) : encode t = b := by
  induction t generalizing b with
  | nil =>
    rcases h.front with ⟨rfl, -⟩ | ⟨c, r, rest, -, hout, -⟩ | ⟨p, r, rest, -, hout, -⟩
    · rfl
    · cases hout
    · cases hout
  | cons c t ih =>
    rcases h.front with ⟨-, hout⟩ | ⟨d, r, rest, rfl, hout, hr⟩ | ⟨p, r, rest, -, hout, -⟩
    · cases hout
    · obtain ⟨hcd, rfl⟩ := List.cons.inj hout
      obtain rfl := Option.some.inj hcd
      rw [encode_cons, ih hr]
    · cases hout

/-- A byte string has a text only if nothing is lost. -/
theorem scan_of_decode? {b : Bytes} {t : Text} (h : decode? b = some t) : scan b = t.map some := by
  -- the whole text is there only if each character is
  unfold decode? at h
  generalize scan b = l at h
  induction l generalizing t with
  | nil =>
    obtain rfl := Option.some.inj h
    rfl
  | cons x l ih =>
    rw [List.mapM_cons] at h
    obtain ⟨c, hx, h⟩ := Option.bind_eq_some_iff.1 h
    obtain ⟨t', hl, h⟩ := Option.bind_eq_some_iff.1 h
    obtain rfl := Option.some.inj h
    obtain rfl : x = some c := hx
    rw [ih hl]
    rfl

/-- Bytes that have a text are its encoding. -/
theorem encode_of_decode? {b : Bytes} {t : Text} (h : decode? b = some t) : encode t = b :=
  (reads_iff.2 (scan_of_decode? h)).encode_eq

/-- The encoding of a text is read as its characters, and nothing is lost. -/
theorem reads_encode (t : Text) : Reads (encode t) (t.map some) := by
  induction t with
  | nil => exact .nil
  | cons c t ih =>
    rw [encode_cons]
    exact .char ih

/-- The encoding of a text has that text. -/
theorem decode?_encode (t : Text) : decode? (encode t) = some t := by
  rw [decode?, reads_iff.1 (reads_encode t)]
  induction t with
  | nil => rfl
  | cons c t ih =>
    rw [List.map_cons, List.mapM_cons, ih]
    rfl

/-- The byte strings that have a text are those that are UTF-8. -/
theorem decode?_eq_some_iff {b : Bytes} {t : Text} : decode? b = some t ↔ encode t = b :=
  ⟨encode_of_decode?, fun h => h ▸ decode?_encode t⟩

/-- No two byte strings have the same text. -/
theorem decode?_injective {a b : Bytes} {t : Text} (ha : decode? a = some t)
    (hb : decode? b = some t) : a = b := by
  rw [← encode_of_decode? ha, encode_of_decode? hb]

/-! ### The text with losses replaced -/

/-- A text that a byte string is read as, with U+FFFD for every loss. -/
def ReadsAs (b : Bytes) (t : Text) : Prop :=
  ∃ out, Reads b out ∧ t = out.map fun c => c.getD replacement

/-- The decoder gives the text that a byte string is read as. -/
theorem readsAs_iff {b : Bytes} {t : Text} : ReadsAs b t ↔ decodeLossy b = t := by
  constructor
  · rintro ⟨out, h, rfl⟩
    rw [decodeLossy, reads_iff.1 h]
  · rintro rfl
    exact ⟨scan b, reads_scan b, rfl⟩

/-- Only the empty byte string is read as the empty text. -/
theorem decodeLossy_eq_nil_iff {b : Bytes} : decodeLossy b = [] ↔ b = [] := by
  constructor
  · intro h
    have hscan : scan b = [] := List.map_eq_nil_iff.1 h
    rcases (reads_iff.2 hscan).front with ⟨hb, -⟩ | ⟨_, _, _, -, hout, -⟩ | ⟨_, _, _, -, hout, -⟩
    · exact hb
    · cases hout
    · cases hout
  · rintro rfl
    rfl

/-! ### ASCII characters -/

section

variable {x : UInt8}

/-- The byte of an ASCII character is part of no other character. -/
theorem Utf8.encodeChar_of_mem {c : Char} (hx : x.toNat < 0x80) (h : x ∈ encodeChar c) :
    encodeChar c = [x] := by
  obtain ⟨k, mark, y, hform, hy, hc⟩ := encodeChar_cases c
  rw [hc] at h
  rcases List.mem_cons.1 h with rfl | h
  · have hk : k = 0 := by
      generalize c.toNat = n at hform hy
      cases hform <;> omega
    rw [hc, hk]
    rfl
  · have := le_of_mem_tail h
    omega

/-- What is lost before an ASCII character is lost without it. -/
theorem IsLost.append_ascii (hx : x.toNat < 0x80) {p b : Bytes} (h : IsLost p b) (r : Bytes) :
    IsLost p (b ++ x :: r) := by
  cases h with
  | stray hnone => exact .stray hnone
  | unfinished hne hbegins hmore =>
    refine .unfinished hne hbegins fun y hy c hc => ?_
    cases b with
    | nil =>
      -- the ASCII character would have to be a later byte of another one
      obtain rfl : x = y := Option.some.inj hy
      have hone := Utf8.encodeChar_of_mem hx (hc.subset (by simp))
      rw [hone, ← List.nil_append [x]] at hc
      have hlen := hc.length_le
      have hpos := List.length_pos_of_ne_nil hne
      simp only [List.length_append, List.length_cons, List.length_nil] at hlen
      omega
    | cons z b => exact hmore y hy c hc

/-- An ASCII character ends all that is unfinished before it. -/
theorem Reads.append_ascii (hx : x.toNat < 0x80) {a b : Bytes} {out out' : List (Option Char)}
    (h : Reads a out) (h' : Reads b out') :
    Reads (a ++ x :: b) (out ++ some (Char.ofNat x.toNat) :: out') := by
  induction h with
  | nil =>
    have hchar := Reads.char (c := Char.ofNat x.toNat) h'
    rwa [Utf8.encodeChar_ofNat hx] at hchar
  | char _ ih =>
    rw [List.append_assoc]
    exact .char ih
  | lost hp _ ih =>
    rw [List.append_assoc]
    exact .lost (hp.append_ascii hx b) ih

/-- What stands before an ASCII character is read apart from what stands after it. -/
theorem decodeLossy_append_ascii (hx : x.toNat < 0x80) (a b : Bytes) :
    decodeLossy (a ++ x :: b) = decodeLossy a ++ Char.ofNat x.toNat :: decodeLossy b := by
  have h := reads_iff.1 ((reads_scan a).append_ascii hx (reads_scan b))
  rw [decodeLossy, h, List.map_append]
  rfl

/-- An ASCII character at the front is read as itself. -/
theorem decodeLossy_cons_ascii (hx : x.toNat < 0x80) (b : Bytes) :
    decodeLossy (x :: b) = Char.ofNat x.toNat :: decodeLossy b :=
  decodeLossy_append_ascii hx [] b

/-- Bytes in ASCII are read one by one. -/
theorem decodeLossy_of_ascii {b : Bytes} (h : ∀ x ∈ b, x.toNat < 0x80) :
    decodeLossy b = b.map fun x => Char.ofNat x.toNat := by
  induction b with
  | nil => rfl
  | cons x b ih =>
    rw [decodeLossy_cons_ascii (h x List.mem_cons_self), List.map_cons,
      ih fun y hy => h y (List.mem_cons_of_mem x hy)]

/-- What is read as ASCII is in ASCII: a loss is not, and every other character has other bytes. -/
theorem Reads.ascii {b : Bytes} {out : List (Option Char)} (h : Reads b out)
    (hout : ∀ o ∈ out, (o.getD replacement).toNat < 0x80) : ∀ x ∈ b, x.toNat < 0x80 := by
  induction h with
  | nil => simp
  | @char c b out _ ih =>
    intro x hx
    rcases List.mem_append.1 hx with hx | hx
    · have hc : c.toNat < 0x80 := hout (some c) List.mem_cons_self
      rw [encodeChar, if_pos hc, List.mem_singleton] at hx
      rwa [hx, Utf8.toNat_toUInt8 (by omega)]
    · exact ih (fun o ho => hout o (List.mem_cons_of_mem _ ho)) x hx
  -- U+FFFD is no ASCII character
  | lost _ _ _ =>
    have hloss : replacement.toNat < 0x80 := hout none List.mem_cons_self
    exact absurd hloss (by decide)

/-- A text in ASCII is read only from bytes in ASCII. -/
theorem ascii_of_decodeLossy {b : Bytes} (h : ∀ c ∈ decodeLossy b, c.toNat < 0x80) :
    ∀ x ∈ b, x.toNat < 0x80 :=
  (reads_scan b).ascii fun _ ho => h _ (List.mem_map_of_mem ho)

/-- A character that is read stands there. -/
theorem Reads.infix_of_mem {b : Bytes} {out : List (Option Char)} (h : Reads b out) {c : Char}
    (hc : some c ∈ out) : encodeChar c <:+: b := by
  induction h with
  | nil => simp at hc
  | @char d b out _ ih =>
    rcases List.mem_cons.1 hc with heq | hc
    · obtain rfl := Option.some.inj heq
      exact (List.prefix_append _ _).isInfix
    · exact (ih hc).trans (List.suffix_append _ _).isInfix
  | lost _ _ ih =>
    rcases List.mem_cons.1 hc with heq | hc
    · cases heq
    · exact (ih hc).trans (List.suffix_append _ _).isInfix

/-- An ASCII character is read only where it stands. -/
theorem mem_of_mem_decodeLossy (hx : x.toNat < 0x80) {b : Bytes}
    (h : Char.ofNat x.toNat ∈ decodeLossy b) : x ∈ b := by
  obtain ⟨o, ho, hc⟩ := List.mem_map.1 h
  cases o with
  | none =>
    -- U+FFFD is no ASCII character
    have hn := congrArg Char.toNat hc
    rw [Utf8.toNat_ofNat (Or.inl (by omega))] at hn
    have hr : replacement.toNat = 0xFFFD := rfl
    rw [Option.getD_none, hr] at hn
    omega
  | some c =>
    obtain rfl : c = Char.ofNat x.toNat := hc
    have hinfix := (reads_scan b).infix_of_mem ho
    rw [Utf8.encodeChar_ofNat hx] at hinfix
    exact hinfix.subset List.mem_cons_self

/-- Cutting at an ASCII character and reading can be done in either order. -/
theorem cutAt_decodeLossy (hx : x.toNat < 0x80) (b : Bytes) :
    cutAt (Char.ofNat x.toNat) (decodeLossy b) =
      ((cutAt x b).1.map decodeLossy, decodeLossy (cutAt x b).2) := by
  by_cases hmem : x ∈ b
  · obtain ⟨piece, r, rfl, hpiece⟩ := List.eq_append_cons_of_mem hmem
    have hpiece' : Char.ofNat x.toNat ∉ decodeLossy piece := fun h =>
      hpiece (mem_of_mem_decodeLossy hx h)
    -- the first cut is at the same place on both sides; the recursion goes on behind it
    rw [decodeLossy_append_ascii hx, cutAt_append_sep hpiece', cutAt_append_sep hpiece,
      cutAt_decodeLossy hx r]
    rfl
  · rw [cutAt_of_not_mem hmem, cutAt_of_not_mem fun h => hmem (mem_of_mem_decodeLossy hx h)]
    rfl
termination_by b.length

end

end SnippetServer.Text
