import SnippetServer.Compiler.Basic
import SnippetServer.Proofs.Text.Blank
import SnippetServer.Proofs.Text.Decoding

namespace SnippetServer.Compiler

/-!
# The name of the executable

A path is decoded before the name behind its last separator is read, although it need not be UTF-8.
Nothing goes wrong by that: a separator is an ASCII character, so it is read exactly where its byte
stands, and text in ASCII is read from its own bytes only.  So the bytes behind the last separator
decide whether a path names the compiler.

* `IsLastSegment b segment` — the bytes behind the last separator;
* `trailingRun_decodeLossy` — they are what the name is read from;
* `lowerByte`, `IsCompilerName segment` — the name of the compiler, up to the case of its letters;
* `map_toLower_decodeLossy_iff` — bytes are read as this name only if they are this name;
* `DecidedByLastSegment path` and `validate_iff_last_segment` — this for every path.
-/

/-! ### The last segment -/

/-- The byte of a slash or of a backslash. -/
def IsSeparatorByte (x : UInt8) : Prop := x = 0x2F ∨ x = 0x5C

instance (x : UInt8) : Decidable (IsSeparatorByte x) := inferInstanceAs (Decidable (_ ∨ _))

/-- The bytes behind the last separator, or all bytes if there is none. -/
def IsLastSegment (b segment : Bytes) : Prop :=
  ∃ front, b = front ++ segment ∧ (∀ x ∈ front.getLast?, IsSeparatorByte x) ∧
    ∀ x ∈ segment, ¬ IsSeparatorByte x

/-- Both separators are ASCII characters. -/
theorem IsSeparatorByte.isAscii {x : UInt8} (h : IsSeparatorByte x) : x.toNat < 0x80 := by
  rcases h with rfl | rfl <;> decide

/-- A separator is read as one. -/
theorem IsSeparatorByte.isSeparator {x : UInt8} (h : IsSeparatorByte x) :
    isSeparator (Char.ofNat x.toNat) = true := by
  rcases h with rfl | rfl <;> decide

section

variable {b segment : Bytes}

/-- Every path has a last segment. -/
theorem exists_isLastSegment (b : Bytes) : ∃ segment, IsLastSegment b segment := by
  refine ⟨trailingRun (fun x => !decide (IsSeparatorByte x)) b,
    dropTrailing (fun x => !decide (IsSeparatorByte x)) b,
    (dropTrailing_append_trailingRun _ b).symm, fun x hx => ?_, fun x hx => ?_⟩
  · simpa using not_getLast?_dropTrailing x hx
  · simpa using forall_mem_trailingRun _ b x hx

/-- A separator in front, or anything before it, does not change the last segment. -/
theorem isLastSegment_append_sep {x : UInt8} (hx : IsSeparatorByte x) (front : Bytes)
    (h : IsLastSegment b segment) : IsLastSegment (front ++ x :: b) segment := by
  obtain ⟨before, rfl, hend, hfree⟩ := h
  refine ⟨front ++ x :: before, by simp, fun y hy => ?_, hfree⟩
  cases before with
  | nil =>
    obtain rfl : x = y := by simpa using hy
    exact hx
  | cons z r => exact hend y (by simpa using hy)

/-- A separator is read only where its byte stands. -/
theorem not_isSeparator_of_mem_decodeLossy (h : ∀ x ∈ b, ¬ IsSeparatorByte x) :
    ∀ c ∈ Text.decodeLossy b, isSeparator c = false := by
  intro c hc
  rw [isSeparator, Bool.or_eq_false_iff, beq_eq_false_iff_ne, beq_eq_false_iff_ne]
  constructor
  · -- an ASCII character is read from its own byte
    rintro rfl
    exact h 0x2F (Text.mem_of_mem_decodeLossy (x := 0x2F) (by decide) hc) (Or.inl rfl)
  · rintro rfl
    exact h 0x5C (Text.mem_of_mem_decodeLossy (x := 0x5C) (by decide) hc) (Or.inr rfl)

/-- What is read behind the last separator is read from the last segment. -/
theorem trailingRun_decodeLossy (h : IsLastSegment b segment) :
    trailingRun (!isSeparator ·) (Text.decodeLossy b) = Text.decodeLossy segment := by
  obtain ⟨front, rfl, hend, hfree⟩ := h
  have hrun : ∀ c ∈ Text.decodeLossy segment, (!isSeparator c) = true := fun c hc => by
    rw [not_isSeparator_of_mem_decodeLossy hfree c hc]
    rfl
  rcases List.eq_nil_or_concat' front with rfl | ⟨before, x, rfl⟩
  · have hnone : ∀ c ∈ ([] : Text).getLast?, (!isSeparator c) = false := by simp
    exact trailingRun_append_run hrun hnone
  · -- the separator ends whatever is unfinished before it
    have hx : IsSeparatorByte x := hend x (by simp)
    rw [List.append_assoc, List.singleton_append, Text.decodeLossy_append_ascii hx.isAscii,
      ← List.singleton_append, ← List.append_assoc]
    refine trailingRun_append_run hrun fun c hc => ?_
    obtain rfl : Char.ofNat x.toNat = c := by simpa using hc
    rw [hx.isSeparator]
    rfl

end

/-! ### The name -/

/-- The byte of an ASCII letter in lower case, any other byte as it is. -/
def lowerByte (x : UInt8) : UInt8 := if 0x41 ≤ x ∧ x ≤ 0x5A then x + 0x20 else x

/-- The bytes are the name of the compiler, up to the case of its letters. -/
def IsCompilerName (segment : Bytes) : Prop :=
  segment.map lowerByte = (Text.encode compilerName).map lowerByte

instance (segment : Bytes) : Decidable (IsCompilerName segment) :=
  inferInstanceAs (Decidable (_ = _))

/-- Capital letters go up by 0x20, and all other bytes stay. -/
theorem toNat_lowerByte (x : UInt8) : (lowerByte x).toNat =
    if 0x41 ≤ x.toNat ∧ x.toNat ≤ 0x5A then x.toNat + 0x20 else x.toNat := by
  -- bytes are compared as their numbers
  have hle : ∀ y : UInt8, (0x41 ≤ y ∧ y ≤ 0x5A) ↔ (0x41 ≤ y.toNat ∧ y.toNat ≤ 0x5A) :=
    fun _ => Iff.rfl
  by_cases h : 0x41 ≤ x ∧ x ≤ 0x5A
  · have h' := (hle x).1 h
    rw [lowerByte, if_pos h, if_pos h', UInt8.toNat_add]
    -- a capital letter is small enough for the sum not to wrap
    show (x.toNat + 0x20) % 256 = _
    omega
  · rw [lowerByte, if_neg h, if_neg fun h' => h ((hle x).2 h')]

/-- Putting a byte in lower case neither leads into ASCII nor out of it. -/
theorem lowerByte_isAscii_iff {x : UInt8} : (lowerByte x).toNat < 0x80 ↔ x.toNat < 0x80 := by
  rw [toNat_lowerByte]
  split <;> omega

/-- Only a character in ASCII has a lower case in ASCII. -/
theorem isAscii_of_toLower {c : Char} (h : c.toLower.toNat < 0x80) : c.toNat < 0x80 := by
  by_cases hc : c.isUpper = true
  · have hle : c.toNat ≤ 0x5A := (of_decide_eq_true hc).2
    omega
  · have hsame : c.toLower = c := dif_neg fun h' => hc (decide_eq_true h')
    rwa [hsame] at h

/-- A byte in ASCII and its character are put in lower case alike. -/
theorem toLower_ofNat {x : UInt8} (hx : x.toNat < 0x80) :
    (Char.ofNat x.toNat).toLower = Char.ofNat (lowerByte x).toNat := by
  -- all of ASCII at once
  have hall : ∀ n < 0x80, (Char.ofNat n).toLower =
      Char.ofNat (if 0x41 ≤ n ∧ n ≤ 0x5A then n + 0x20 else n) := by decide
  rw [toNat_lowerByte]
  exact hall x.toNat hx

/-- Bytes in ASCII can be put in lower case before they are read. -/
theorem map_toLower_decodeLossy {segment : Bytes} (h : ∀ x ∈ segment, x.toNat < 0x80) :
    (Text.decodeLossy segment).map Char.toLower =
      (segment.map lowerByte).map fun x => Char.ofNat x.toNat := by
  rw [Text.decodeLossy_of_ascii h, List.map_map, List.map_map]
  exact List.map_congr_left fun x hx => toLower_ofNat (h x hx)

/-- No two bytes have the same number. -/
theorem ofNat_toNat_injective : Function.Injective fun x : UInt8 => Char.ofNat x.toNat := by
  intro x y hxy
  have hx := x.toNat_lt
  have hy := y.toNat_lt
  have h : (Char.ofNat x.toNat).toNat = (Char.ofNat y.toNat).toNat := congrArg Char.toNat hxy
  rw [Text.Utf8.toNat_ofNat (Or.inl (by omega)), Text.Utf8.toNat_ofNat (Or.inl (by omega))] at h
  exact UInt8.toNat_inj.1 h

/-- The name of the compiler is in ASCII, in any case of its letters. -/
theorem IsCompilerName.isAscii {segment : Bytes} (h : IsCompilerName segment) :
    ∀ x ∈ segment, x.toNat < 0x80 := by
  intro x hx
  have hmem : lowerByte x ∈ (Text.encode compilerName).map lowerByte := h ▸ List.mem_map_of_mem hx
  have hall : ((Text.encode compilerName).map lowerByte).all fun y => y.toNat < 0x80 := by decide
  exact lowerByte_isAscii_iff.1 (of_decide_eq_true (List.all_eq_true.1 hall _ hmem))

/-- Bytes are read as the name only if they are the name: what is lost is read as U+FFFD, which is
no part of it, and neither is any other character outside ASCII. -/
theorem map_toLower_decodeLossy_iff {segment : Bytes} :
    (Text.decodeLossy segment).map Char.toLower = compilerName ↔ IsCompilerName segment := by
  have hname : compilerName =
      ((Text.encode compilerName).map lowerByte).map fun x => Char.ofNat x.toNat := by decide
  constructor
  · intro h
    -- no character outside ASCII has a lower case in ASCII, so all of them were read from ASCII
    have hascii : ∀ c ∈ Text.decodeLossy segment, c.toNat < 0x80 := by
      intro c hc
      have hmem : c.toLower ∈ compilerName := h ▸ List.mem_map_of_mem hc
      have hall : compilerName.all fun d => d.toNat < 0x80 := by decide
      exact isAscii_of_toLower (of_decide_eq_true (List.all_eq_true.1 hall _ hmem))
    rw [map_toLower_decodeLossy (Text.ascii_of_decodeLossy hascii), hname] at h
    exact ofNat_toNat_injective.list_map h
  · intro h
    rw [map_toLower_decodeLossy h.isAscii, h, ← hname]

/-! ### The check -/

/-- The test of a path is one of its last segment. -/
theorem hasCompilerName_iff {path : Path} {segment : Bytes}
    (h : IsLastSegment path.bytes segment) :
    hasCompilerName path = true ↔ IsCompilerName segment := by
  rw [hasCompilerName, beq_iff_eq, Path.display, trailingRun_decodeLossy h,
    map_toLower_decodeLossy_iff]

/-- A path with the right name passes. -/
theorem validate_of_hasCompilerName {path : Path} (h : hasCompilerName path = true) :
    validate path = .ok path := if_pos h

/-- A path with another name is refused. -/
theorem validate_of_not_hasCompilerName {path : Path} (h : ¬ hasCompilerName path = true) :
    validate path = .error (.wrongExecutable path) := if_neg h

/-- The path passes exactly if its last segment is the name. -/
theorem validate_eq_ok_iff {path : Path} {segment : Bytes}
    (h : IsLastSegment path.bytes segment) :
    validate path = .ok path ↔ IsCompilerName segment := by
  rw [← hasCompilerName_iff h]
  -- the check has two outcomes, one for each answer
  by_cases hname : hasCompilerName path = true
  · exact iff_of_true (validate_of_hasCompilerName hname) hname
  · rw [validate_of_not_hasCompilerName hname]
    exact iff_of_false nofun hname

/-- The path is refused exactly if its last segment is not the name. -/
theorem validate_eq_error_iff {path : Path} {segment : Bytes}
    (h : IsLastSegment path.bytes segment) :
    validate path = .error (.wrongExecutable path) ↔ ¬ IsCompilerName segment := by
  rw [← hasCompilerName_iff h]
  by_cases hname : hasCompilerName path = true
  · rw [validate_of_hasCompilerName hname]
    exact iff_of_false nofun (not_not_intro hname)
  · exact iff_of_true (validate_of_not_hasCompilerName hname) hname

/-- The check of a path is decided by its last segment. -/
structure DecidedByLastSegment (path : Path) : Prop where
  /-- The path passes if its last segment is the name of the compiler. -/
  ok_iff : validate path = .ok path ↔
    ∃ segment, IsLastSegment path.bytes segment ∧ IsCompilerName segment
  /-- It is refused otherwise. -/
  error_iff : validate path = .error (.wrongExecutable path) ↔
    ¬ ∃ segment, IsLastSegment path.bytes segment ∧ IsCompilerName segment
  /-- Whatever stands before a separator, the separator is found: the path passes exactly if what
  stands behind the separator does. -/
  behind_separator : ∀ front x rest, path.bytes = front ++ x :: rest → IsSeparatorByte x →
    (validate path = .ok path ↔ validate ⟨rest⟩ = .ok ⟨rest⟩)
  /-- No byte outside ASCII is admitted in the last segment. -/
  refuses_foreign : ∀ segment, IsLastSegment path.bytes segment →
    (∃ x ∈ segment, 0x80 ≤ x.toNat) → validate path = .error (.wrongExecutable path)

/-- **The executable check.**  A path passes exactly if the bytes behind its last separator are the
name of the compiler, up to the case of its letters, whatever bytes stand in the path. -/
theorem validate_iff_last_segment (path : Path) : DecidedByLastSegment path where
  ok_iff := by
    constructor
    · intro h
      obtain ⟨segment, hsegment⟩ := exists_isLastSegment path.bytes
      exact ⟨segment, hsegment, (validate_eq_ok_iff hsegment).1 h⟩
    · rintro ⟨segment, hsegment, hname⟩
      exact (validate_eq_ok_iff hsegment).2 hname
  error_iff := by
    constructor
    · rintro h ⟨segment, hsegment, hname⟩
      exact (validate_eq_error_iff hsegment).1 h hname
    · intro h
      obtain ⟨segment, hsegment⟩ := exists_isLastSegment path.bytes
      exact (validate_eq_error_iff hsegment).2 fun hname => h ⟨segment, hsegment, hname⟩
  behind_separator := by
    intro front x rest hpath hx
    obtain ⟨segment, hsegment⟩ := exists_isLastSegment rest
    have hsame : IsLastSegment path.bytes segment := by
      rw [hpath]
      exact isLastSegment_append_sep hx front hsegment
    have hrest : IsLastSegment (Path.mk rest).bytes segment := hsegment
    rw [validate_eq_ok_iff hsame, validate_eq_ok_iff hrest]
  refuses_foreign := by
    rintro segment hsegment ⟨x, hx, hforeign⟩
    refine (validate_eq_error_iff hsegment).2 fun hname => ?_
    have hascii := hname.isAscii x hx
    omega

namespace BrokenPaths

/-- The bytes of the name, partly in capitals. -/
def name : Bytes := Text.encode "TkHack-DX.exe".toList

/-- A character breaks off before a backslash, and the name follows. -/
def accepted : Path := ⟨[0x43, 0x3A, 0x5C, 0xE5, 0xA4, 0x5C] ++ name⟩

/-- A byte that belongs to no character stands before the name. -/
def refused : Path := ⟨[0x2F, 0xFF] ++ name⟩

end BrokenPaths

open BrokenPaths in
/-- The broken character does not hide the backslash, and the stray byte is not overlooked. -/
theorem validate_iff_last_segment_broken :
    IsLastSegment accepted.bytes name ∧ IsCompilerName name ∧ validate accepted = .ok accepted ∧
      IsLastSegment refused.bytes (0xFF :: name) ∧
      validate refused = .error (.wrongExecutable refused) := by
  have hname : IsCompilerName name := by decide
  have hall : (0xFF :: name).all fun x => !decide (IsSeparatorByte x) := by decide
  have hfree : ∀ x ∈ 0xFF :: name, ¬ IsSeparatorByte x := fun x hx => by
    simpa using List.all_eq_true.1 hall x hx
  have haccepted : IsLastSegment accepted.bytes name :=
    ⟨[0x43, 0x3A, 0x5C, 0xE5, 0xA4, 0x5C], rfl, by simp [IsSeparatorByte],
      fun x hx => hfree x (List.mem_cons_of_mem _ hx)⟩
  have hrefused : IsLastSegment refused.bytes (0xFF :: name) :=
    ⟨[0x2F], rfl, by simp [IsSeparatorByte], hfree⟩
  refine ⟨haccepted, hname, ?_, hrefused, ?_⟩
  · exact (validate_iff_last_segment accepted).ok_iff.2 ⟨name, haccepted, hname⟩
  · exact (validate_iff_last_segment refused).refuses_foreign _ hrefused
      ⟨0xFF, List.mem_cons_self, by decide⟩

end SnippetServer.Compiler
