import SnippetServer.Path
import SnippetServer.Proofs.Text.Lines
import Mathlib.Data.List.Basic

namespace SnippetServer.Path

/-!
# The name at the end of a path

The last component of a path is found among the pieces between its slashes.  In its bytes it is what
stands behind the last slash, but for slashes and single dots at the very end.

* `IsEntryName name` — a name that an entry of a directory can have;
* `EndsIn path name` — the bytes of a path end in such a name;
* `fileName?_eq_some_iff` — it is the last component then, and only then;
* `endsIn_join` — a directory joined with the name of an entry.
-/

/-- A name that an entry of a directory can have. -/
structure IsEntryName (name : Bytes) : Prop where
  /-- It is not empty. -/
  ne_nil : name ≠ []
  /-- It holds no slash. -/
  slash_not_mem : slash ∉ name
  /-- It is not the directory itself. -/
  ne_dot : name ≠ [dot]
  /-- It is not the directory above. -/
  ne_dots : name ≠ [dot, dot]

/-- Bytes behind a path that name nothing further: slashes, some with a single dot behind them. -/
inductive IsIdle : Bytes → Prop where
  /-- Nothing. -/
  | nil : IsIdle []
  /-- A slash. -/
  | slash {back : Bytes} : IsIdle back → IsIdle (Path.slash :: back)
  /-- A slash and a dot. -/
  | dot {back : Bytes} : IsIdle back → IsIdle (Path.slash :: Path.dot :: back)

/-- A path ends in the name of an entry, whatever directory stands before it. -/
structure EndsIn (path : Path) (name : Bytes) : Prop where
  /-- The name is one that an entry can have. -/
  isEntryName : IsEntryName name
  /-- It stands at the front or behind a slash, and nothing further is named. -/
  bytes_eq : ∃ front back, path.bytes = front ++ name ++ back ∧
    (∀ x ∈ front.getLast?, x = slash) ∧ IsIdle back

section

variable {path : Path} {name : Bytes}

/-! ### Pieces and names -/

/-- The pieces of a path, with the one behind the last slash by itself. -/
theorem pieces_eq (path : Path) : path.pieces =
    (Text.cutAt slash path.bytes).1 ++ [(Text.cutAt slash path.bytes).2] := rfl

/-- No piece holds a slash. -/
theorem slash_not_mem_of_mem_pieces (h : name ∈ path.pieces) : slash ∉ name := by
  obtain ⟨hdone, hrest⟩ := Text.not_mem_cutAt slash path.bytes
  rw [pieces_eq, List.mem_append, List.mem_singleton] at h
  rcases h with h | rfl
  · exact hdone name h
  · exact hrest

/-- A slash ends a piece. -/
theorem pieces_append_slash (front rest : Bytes) :
    pieces ⟨front ++ slash :: rest⟩ = pieces ⟨front⟩ ++ pieces ⟨rest⟩ := by
  have hlast := (Text.not_mem_cutAt slash front).2
  rw [pieces_eq, pieces_eq, pieces_eq]
  dsimp only
  -- the slash ends what was left of the front
  rw [Text.cutAt_append slash front, Text.cutAt_append_sep hlast, List.append_assoc,
    List.append_assoc, List.singleton_append, List.cons_append]

/-- A slash separates names as it does pieces. -/
theorem names_append_slash (front rest : Bytes) :
    names ⟨front ++ slash :: rest⟩ = names ⟨front⟩ ++ names ⟨rest⟩ := by
  rw [names, pieces_append_slash, List.filter_append]
  rfl

/-- The name of an entry is one piece, and it is kept. -/
theorem IsEntryName.names_eq (h : IsEntryName name) : names ⟨name⟩ = [name] := by
  have hpieces : pieces ⟨name⟩ = [name] := by
    rw [pieces, Text.cutAt_of_not_mem h.slash_not_mem]
    rfl
  -- it is neither empty nor a dot, so the filter keeps it
  have hkeep : (name != [] && name != [dot]) = true := by
    rw [Bool.and_eq_true, bne_iff_ne, bne_iff_ne]
    exact ⟨h.ne_nil, h.ne_dot⟩
  rw [names, hpieces, List.filter_cons, if_pos hkeep, List.filter_nil]

/-- Nothing is named behind the slash. -/
theorem IsIdle.eq_slash_cons {back : Bytes} (h : IsIdle back) :
    back = [] ∨ ∃ rest, back = Path.slash :: rest ∧ names ⟨rest⟩ = [] := by
  induction h with
  | nil => exact Or.inl rfl
  | @slash back _ ih =>
    refine Or.inr ⟨back, rfl, ?_⟩
    rcases ih with rfl | ⟨rest, rfl, hrest⟩
    · decide
    · exact (names_append_slash [] rest).trans (by rw [hrest]; decide)
  | @dot back _ ih =>
    refine Or.inr ⟨Path.dot :: back, rfl, ?_⟩
    rcases ih with rfl | ⟨rest, rfl, hrest⟩
    · decide
    · exact (names_append_slash [Path.dot] rest).trans (by rw [hrest]; decide)

/-- What names nothing further adds no name. -/
theorem names_append_idle (front : Bytes) {back : Bytes} (h : IsIdle back) :
    names ⟨front ++ back⟩ = names ⟨front⟩ := by
  rcases h.eq_slash_cons with rfl | ⟨rest, rfl, hrest⟩
  · rw [List.append_nil]
  · rw [names_append_slash, hrest, List.append_nil]

/-- The name at the end of a path is the last one. -/
theorem EndsIn.getLast?_names (h : path.EndsIn name) : path.names.getLast? = some name := by
  obtain ⟨front, back, hbytes, hfront, hback⟩ := h.bytes_eq
  have hpath : path = ⟨front ++ name ++ back⟩ := by rw [← hbytes]
  rw [hpath, names_append_idle _ hback]
  rcases List.eq_nil_or_concat' front with rfl | ⟨before, x, rfl⟩
  · rw [List.nil_append, h.isEntryName.names_eq]
    rfl
  · -- the last slash of the front ends whatever stands before the name
    obtain rfl := hfront x (by simp)
    rw [List.append_assoc, List.singleton_append, names_append_slash, h.isEntryName.names_eq,
      List.getLast?_concat]

/-! ### From the pieces to the bytes -/

/-- A slash moves from behind a piece in front of the next one. -/
theorem slash_cons_flatMap (pieces : List Bytes) :
    slash :: pieces.flatMap (· ++ [slash]) = pieces.flatMap (slash :: ·) ++ [slash] := by
  induction pieces with
  | nil => rfl
  | cons piece pieces ih => simp [ih]

/-- The bytes around a piece: those of the pieces before it, each with its slash behind it, and
those of the pieces after it, each with its slash in front. -/
theorem bytes_eq_of_pieces {before after : List Bytes}
    (h : path.pieces = before ++ name :: after) :
    path.bytes = before.flatMap (· ++ [slash]) ++ name ++ after.flatMap (slash :: ·) := by
  have hjoin := Text.cutAt_join slash path.bytes
  rw [pieces_eq] at h
  generalize (Text.cutAt slash path.bytes).1 = done at h hjoin
  generalize (Text.cutAt slash path.bytes).2 = rest at h hjoin
  rcases List.eq_nil_or_concat' after with rfl | ⟨middle, last, rfl⟩
  · -- the piece is the last one, which has no slash behind it
    obtain ⟨rfl, hrest⟩ := List.append_inj' h rfl
    obtain rfl := List.singleton_inj.1 hrest
    simpa using hjoin.symm
  · -- some other piece is the last one, and each slash before it moves in front of the next piece
    rw [← List.cons_append, ← List.append_assoc] at h
    obtain ⟨rfl, hrest⟩ := List.append_inj' h rfl
    obtain rfl := List.singleton_inj.1 hrest
    have hmiddle := slash_cons_flatMap middle
    rw [← hjoin]
    simp only [List.flatMap_append, List.flatMap_cons, List.append_assoc, List.singleton_append,
      List.flatMap_nil, List.append_nil]
    rw [hmiddle]
    simp

/-- Pieces that are left out name nothing, each with its slash in front. -/
theorem isIdle_flatMap {pieces : List Bytes} (h : ∀ piece ∈ pieces, piece = [] ∨ piece = [dot]) :
    IsIdle (pieces.flatMap (slash :: ·)) := by
  induction pieces with
  | nil => exact .nil
  | cons piece pieces ih =>
    have ih := ih fun p hp => h p (List.mem_cons_of_mem piece hp)
    rcases h piece List.mem_cons_self with rfl | rfl
    · exact .slash ih
    · exact .dot ih

/-- The last component stands at the end of the bytes, before what names nothing. -/
theorem endsIn_of_fileName? (h : path.fileName? = some name) : path.EndsIn name := by
  obtain ⟨hlast, hdots⟩ := Option.filter_eq_some_iff.1 h
  obtain ⟨init, hnames⟩ := List.getLast?_eq_some_iff.1 hlast
  -- the last name is a piece, and the pieces behind it are empty or single dots
  obtain ⟨before, rest, hpieces, -, hrest⟩ := List.filter_eq_append_iff.1 hnames
  obtain ⟨skipped, after, rfl, -, hkept, hafter⟩ := List.filter_eq_cons_iff.1 hrest
  have hmem : name ∈ path.pieces := by simp [hpieces]
  simp only [Bool.and_eq_true, bne_iff_ne] at hkept
  rw [bne_iff_ne] at hdots
  refine ⟨⟨hkept.1, slash_not_mem_of_mem_pieces hmem, hkept.2, hdots⟩,
    (before ++ skipped).flatMap (· ++ [slash]), after.flatMap (slash :: ·), ?_, ?_,
    isIdle_flatMap ?_⟩
  · exact bytes_eq_of_pieces (by rw [hpieces, List.append_assoc])
  · intro x hx
    rcases List.eq_nil_or_concat' (before ++ skipped) with heq | ⟨_, _, heq⟩
    · simp [heq] at hx
    · simpa [heq, eq_comm] using hx
  · intro piece hpiece
    by_contra hne
    rw [not_or] at hne
    have := List.filter_eq_nil_iff.1 hafter piece hpiece
    simp [hne.1, hne.2] at this

/-- **The last component.**  It is the name in which the bytes of the path end. -/
theorem fileName?_eq_some_iff : path.fileName? = some name ↔ path.EndsIn name := by
  refine ⟨endsIn_of_fileName?, fun h => ?_⟩
  have hdots : (name != [dot, dot]) = true := bne_iff_ne.2 h.isEntryName.ne_dots
  rw [fileName?, h.getLast?_names, Option.filter_some, if_pos hdots]

/-- However a directory is written, joined with the name of an entry it ends in that name. -/
theorem endsIn_join (directory : Path) (h : IsEntryName name) :
    (directory.join ⟨name⟩).EndsIn name := by
  -- the name does not begin with a slash, so it does not replace the directory
  have hrelative : (Path.mk name).isAbsolute = false := by
    cases name with
    | nil => rfl
    | cons x name =>
      have hx : x ≠ slash := fun hx => h.slash_not_mem (hx ▸ List.mem_cons_self)
      simpa [isAbsolute] using hx
  rw [join, hrelative]
  by_cases hend : (directory.bytes.isEmpty || directory.bytes.getLast? == some slash) = true
  · rw [if_neg Bool.false_ne_true, if_pos hend]
    refine ⟨h, directory.bytes, [], by simp, fun x hx => ?_, .nil⟩
    rcases Bool.or_eq_true_iff.1 hend with hempty | hslash
    · simp [List.isEmpty_iff.1 hempty] at hx
    · rw [beq_iff_eq.1 hslash] at hx
      exact (Option.some.inj hx).symm
  · rw [if_neg Bool.false_ne_true, if_neg hend]
    exact ⟨h, directory.bytes ++ [slash], [], by simp, by simp, .nil⟩

end

end SnippetServer.Path
