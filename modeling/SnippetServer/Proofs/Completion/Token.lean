import SnippetServer.Completion.Token
import SnippetServer.Proofs.Text.Blank

namespace SnippetServer.Completion

/-!
# The token at the end of a line

What `Token.atEnd?` finds, said without the scan from the end.

* `TokenClass.Has cls c` — the characters of a class, by their ranges;
* `IsToken cls front token` — `token` is a whole run of the class behind `front`;
* `Token.atEnd?_eq_some_iff`, `Token.atEnd?_eq_none_iff` — the line ends in such a run, or in no
  character that has a class;
* `IsToken.suffix_of_run` — every other run at the end of the line is part of it;
* `IsToken.concat`, `isToken_singleton` — one more character makes the token longer, or begins one;
* `ReadsLongestRun line`, `token_is_longest_run` — all this together, for every line.
-/

/-! ### Classes -/

/-- Whether a character belongs to a class. -/
def TokenClass.Has : TokenClass → Char → Prop
  | .word, c => ('0' ≤ c ∧ c ≤ '9') ∨ ('A' ≤ c ∧ c ≤ 'Z') ∨ ('a' ≤ c ∧ c ≤ 'z') ∨ c = '_'
  | .foreign, c => 0x80 ≤ c.toNat

/-- The first class has the letters and digits of ASCII and the underscore. -/
theorem TokenClass.has_word_iff {c : Char} :
    TokenClass.word.Has c ↔ (c.isAlphanum || c == '_') = true := by
  -- the tests of the library, as ranges
  have hu : c.isUpper = true ↔ 'A' ≤ c ∧ c ≤ 'Z' := decide_eq_true_iff
  have hl : c.isLower = true ↔ 'a' ≤ c ∧ c ≤ 'z' := by
    show (_ && _) = true ↔ _
    rw [Bool.and_eq_true]
    exact and_congr decide_eq_true_iff decide_eq_true_iff
  have hd : c.isDigit = true ↔ '0' ≤ c ∧ c ≤ '9' := by
    show (_ && _) = true ↔ _
    rw [Bool.and_eq_true]
    exact and_congr decide_eq_true_iff decide_eq_true_iff
  have ha : c.isAlphanum = (c.isUpper || c.isLower || c.isDigit) := rfl
  rw [ha, Bool.or_eq_true, Bool.or_eq_true, Bool.or_eq_true, beq_iff_eq, hu, hl, hd]
  constructor
  · rintro (h | h | h | h)
    · exact Or.inl (Or.inr h)
    · exact Or.inl (Or.inl (Or.inl h))
    · exact Or.inl (Or.inl (Or.inr h))
    · exact Or.inr h
  · rintro (((h | h) | h) | h)
    · exact Or.inr (Or.inl h)
    · exact Or.inr (Or.inr (Or.inl h))
    · exact Or.inl h
    · exact Or.inr (Or.inr (Or.inr h))

instance (cls : TokenClass) (c : Char) : Decidable (cls.Has c) :=
  match cls with
  | .word => decidable_of_iff _ TokenClass.has_word_iff.symm
  | .foreign => Nat.decLe 0x80 c.toNat

/-- The characters of the first class are ASCII characters. -/
theorem TokenClass.Has.lt_of_word {c : Char} (h : TokenClass.word.Has c) : c.toNat < 0x80 := by
  -- each range ends below 0x80
  have hle : ∀ d : Char, c ≤ d → c.toNat ≤ d.toNat := fun d hd => hd
  rcases h with ⟨-, h⟩ | ⟨-, h⟩ | ⟨-, h⟩ | rfl
  · have : c.toNat ≤ 57 := hle _ h
    omega
  · have : c.toNat ≤ 90 := hle _ h
    omega
  · have : c.toNat ≤ 122 := hle _ h
    omega
  · decide

/-- No character belongs to both classes, so a character has at most one. -/
theorem TokenClass.of?_eq_some_iff {c : Char} {cls : TokenClass} :
    TokenClass.of? c = some cls ↔ cls.Has c := by
  unfold TokenClass.of?
  by_cases hw : TokenClass.word.Has c
  · have hlt := hw.lt_of_word
    rw [if_pos (TokenClass.has_word_iff.1 hw)]
    cases cls with
    | word => exact ⟨fun _ => hw, fun _ => rfl⟩
    | foreign =>
      refine ⟨fun h => absurd h (by simp), fun h => ?_⟩
      have : 0x80 ≤ c.toNat := h
      omega
  · rw [if_neg fun h => hw (TokenClass.has_word_iff.2 h), isAscii]
    by_cases ha : c.toNat < 0x80
    · rw [if_pos (decide_eq_true ha)]
      refine ⟨fun h => absurd h (by simp), fun h => ?_⟩
      cases cls with
      | word => exact absurd h hw
      | foreign =>
        have : 0x80 ≤ c.toNat := h
        omega
    · rw [if_neg (by simpa using ha)]
      cases cls with
      | word => exact ⟨fun h => absurd h (by simp), fun h => absurd h hw⟩
      | foreign => exact ⟨fun _ => Nat.le_of_not_lt ha, fun _ => rfl⟩

/-! ### Tokens -/

/-- A text is a token of a class behind another text: a run that cannot be made longer. -/
structure IsToken (cls : TokenClass) (front token : Text) : Prop where
  /-- There is no empty token. -/
  ne_nil : token ≠ []
  /-- All characters belong to the class. -/
  has : ∀ c ∈ token, cls.Has c
  /-- The character before, if any, does not. -/
  longest : ∀ c ∈ front.getLast?, ¬ cls.Has c

/-- Whether a character belongs to a class, as the scan asks it. -/
def TokenClass.admits (cls : TokenClass) (c : Char) : Bool := TokenClass.of? c == some cls

/-- The scan goes on exactly over the characters of the class. -/
theorem TokenClass.admits_iff {cls : TokenClass} {c : Char} :
    cls.admits c = true ↔ cls.Has c := by
  rw [TokenClass.admits, beq_iff_eq, TokenClass.of?_eq_some_iff]

/-- The scan stops exactly at a character that is not in the class. -/
theorem TokenClass.admits_eq_false_iff {cls : TokenClass} {c : Char} :
    cls.admits c = false ↔ ¬ cls.Has c := by
  rw [← TokenClass.admits_iff, Bool.not_eq_true]

/-- A line that ends in a character of a class gives the run of that class at its end. -/
theorem Token.atEnd?_concat {line : Text} {last : Char} {cls : TokenClass} (h : cls.Has last) :
    Token.atEnd? (line ++ [last]) =
      some ⟨trailingRun cls.admits (line ++ [last]),
        Text.units (dropTrailing cls.admits (line ++ [last])),
        Text.units (line ++ [last])⟩ := by
  have hu : Text.units (line ++ [last]) = Text.units (dropTrailing cls.admits (line ++ [last])) +
      Text.units (trailingRun cls.admits (line ++ [last])) := by
    rw [← Text.units_append, dropTrailing_append_trailingRun]
  rw [hu, Token.atEnd?, List.getLast?_concat, Option.bind_eq_bind, Option.bind_some,
    TokenClass.of?_eq_some_iff.2 h]
  rfl

/-- A token at the end of a line is found there. -/
theorem IsToken.atEnd?_eq {cls : TokenClass} {front token : Text} (h : IsToken cls front token) :
    Token.atEnd? (front ++ token) =
      some ⟨token, Text.units front, Text.units (front ++ token)⟩ := by
  obtain ⟨init, last, rfl⟩ := List.eq_nil_or_concat' token |>.resolve_left h.ne_nil
  -- the scan takes the whole run and stops where it begins
  have hrun : ∀ c ∈ init ++ [last], cls.admits c = true := fun c hc =>
    TokenClass.admits_iff.2 (h.has c hc)
  have hfront : ∀ c ∈ front.getLast?, cls.admits c = false := fun c hc =>
    TokenClass.admits_eq_false_iff.2 (h.longest c hc)
  rw [← List.append_assoc, Token.atEnd?_concat (h.has last (by simp)), List.append_assoc,
    dropTrailing_append_run hrun hfront, trailingRun_append_run hrun hfront]

/-- What the scan takes is a token behind what it leaves. -/
theorem isToken_trailingRun {line : Text} {last : Char} {cls : TokenClass} (h : cls.Has last) :
    IsToken cls (dropTrailing cls.admits (line ++ [last]))
      (trailingRun cls.admits (line ++ [last])) where
  ne_nil := by
    intro he
    -- nothing was taken, so the last character was refused
    have hd := dropTrailing_append_trailingRun cls.admits (line ++ [last])
    rw [he, List.append_nil] at hd
    exact TokenClass.admits_eq_false_iff.1 (dropTrailing_eq_concat hd) h
  has := fun c hc => TokenClass.admits_iff.1 (forall_mem_trailingRun _ _ c hc)
  longest := fun c hc => TokenClass.admits_eq_false_iff.1 (not_getLast?_dropTrailing c hc)

/-- There is no token exactly if the line is empty or its last character has no class. -/
theorem Token.atEnd?_eq_none_iff {line : Text} :
    Token.atEnd? line = none ↔ ∀ c ∈ line.getLast?, ∀ cls : TokenClass, ¬ cls.Has c := by
  rcases List.eq_nil_or_concat' line with rfl | ⟨init, last, rfl⟩
  · simp
  · rw [List.getLast?_concat]
    constructor
    · rintro h c hc cls hcls
      obtain rfl := Option.some.inj hc
      rw [Token.atEnd?_concat hcls] at h
      exact absurd h (by simp)
    · intro h
      have ho : TokenClass.of? last = none := by
        rw [Option.eq_none_iff_forall_ne_some]
        exact fun cls hcls => h last rfl cls (TokenClass.of?_eq_some_iff.1 hcls)
      rw [Token.atEnd?, List.getLast?_concat, Option.bind_eq_bind, Option.bind_some, ho]
      rfl

/-- **The token at the end.**  It is the run at the end of the line, and its columns are those
before its first and after its last character. -/
theorem Token.atEnd?_eq_some_iff {line : Text} {t : Token} : Token.atEnd? line = some t ↔
    ∃ cls front, line = front ++ t.text ∧ IsToken cls front t.text ∧
      t.span = ⟨Text.units front, Text.units line⟩ := by
  constructor
  · intro h
    -- some class has the last character, or nothing would be found
    have hne : ¬ ∀ c ∈ line.getLast?, ∀ cls : TokenClass, ¬ cls.Has c := fun hn => by
      rw [Token.atEnd?_eq_none_iff.2 hn] at h
      exact absurd h (by simp)
    push Not at hne
    obtain ⟨last, hl, cls, hcls⟩ := hne
    obtain ⟨init, rfl⟩ := List.getLast?_eq_some_iff.1 hl
    rw [Token.atEnd?_concat hcls] at h
    obtain rfl := Option.some.inj h
    exact ⟨cls, _, (dropTrailing_append_trailingRun _ _).symm, isToken_trailingRun hcls, rfl⟩
  · rintro ⟨cls, front, rfl, ht, hs⟩
    rw [ht.atEnd?_eq, ← hs]

/-! ### The longest run -/

/-- A character has one class only. -/
theorem TokenClass.Has.unique {c : Char} {cls cls' : TokenClass} (h : cls.Has c)
    (h' : cls'.Has c) : cls = cls' := by
  have hc : TokenClass.of? c = some cls := TokenClass.of?_eq_some_iff.2 h
  rw [TokenClass.of?_eq_some_iff.2 h'] at hc
  exact (Option.some.inj hc).symm

/-- A character that ends a token belongs to its class. -/
theorem IsToken.has_of_getLast? {cls : TokenClass} {front token : Text}
    (h : IsToken cls front token) {c : Char} (hc : c ∈ (front ++ token).getLast?) : cls.Has c := by
  obtain ⟨init, last, rfl⟩ := List.eq_nil_or_concat' token |>.resolve_left h.ne_nil
  rw [← List.append_assoc, List.getLast?_concat] at hc
  obtain rfl := Option.some.inj hc
  exact h.has last (by simp)

/-- **Longest run.**  No run of one class that ends where the token ends reaches further back. -/
theorem IsToken.suffix_of_run {cls cls' : TokenClass} {front token run : Text}
    (h : IsToken cls front token) (hrun : ∀ c ∈ run, cls'.Has c) (hs : run <:+ front ++ token) :
    run <:+ token := by
  rcases List.eq_nil_or_concat' run with rfl | ⟨init, last, rfl⟩
  · exact List.nil_suffix
  · -- run and token end in the same character, so they are of one class
    have hlast : last ∈ (front ++ token).getLast? := by
      obtain ⟨before, hb⟩ := hs
      rw [← hb, ← List.append_assoc, List.getLast?_concat]
      rfl
    obtain rfl : cls = cls' := (h.has_of_getLast? hlast).unique (hrun last (by simp))
    rcases List.suffix_or_suffix_of_suffix hs (List.suffix_append front token) with hle | hge
    · exact hle
    · -- what the run has in front of the token would end `front`
      obtain ⟨more, hmore⟩ := hge
      rcases List.eq_nil_or_concat' more with rfl | ⟨more, c, rfl⟩
      · rw [← hmore]
        exact List.suffix_rfl
      · obtain ⟨before, hb⟩ := hs
        rw [← hmore, ← List.append_assoc] at hb
        have hfront : c ∈ front.getLast? := by
          rw [← List.append_cancel_right hb, ← List.append_assoc, List.getLast?_concat]
          rfl
        have hc : cls.Has c := hrun c (by rw [← hmore]; simp)
        exact absurd hc (h.longest c hfront)

/-! ### One more character -/

/-- A character of its class makes a token longer. -/
theorem IsToken.concat {cls : TokenClass} {front token : Text} {c : Char}
    (h : IsToken cls front token) (hc : cls.Has c) : IsToken cls front (token ++ [c]) where
  ne_nil := by simp
  has := by
    intro d hd
    rcases List.mem_append.1 hd with hd | hd
    · exact h.has d hd
    · rwa [List.mem_singleton.1 hd]
  longest := h.longest

/-- A character behind none of its class is a token of its own. -/
theorem isToken_singleton {cls : TokenClass} {line : Text} {c : Char} (hc : cls.Has c)
    (hline : ∀ d ∈ line.getLast?, ¬ cls.Has d) : IsToken cls line [c] where
  ne_nil := List.cons_ne_nil c []
  has := by
    intro d hd
    rwa [List.mem_singleton.1 hd]
  longest := hline

/-- A character without a class is an ASCII character that is not in the first class. -/
theorem TokenClass.forall_not_has_iff {c : Char} :
    (∀ cls : TokenClass, ¬ cls.Has c) ↔ c.toNat < 0x80 ∧ ¬ TokenClass.word.Has c := by
  constructor
  · intro h
    exact ⟨Nat.lt_of_not_le (h .foreign), h .word⟩
  · rintro ⟨hlt, hw⟩ cls
    cases cls with
    | word => exact hw
    | foreign => exact Nat.not_le_of_lt hlt

/-- What is read at the end of a line, and what one more character makes of it. -/
structure ReadsLongestRun (line : Text) : Prop where
  /-- There is no token exactly if the line is empty or ends in an ASCII character other than a
  letter, a digit and the underscore. -/
  none_iff : Token.atEnd? line = none ↔
    line = [] ∨ ∃ c, line.getLast? = some c ∧ c.toNat < 0x80 ∧ ¬ TokenClass.word.Has c
  /-- Otherwise the line is a rest and the token, which is a whole run of a class and stands between
  the columns of the two. -/
  some_iff : ∀ t, Token.atEnd? line = some t ↔
    ∃ cls rest, line = rest ++ t.text ∧ IsToken cls rest t.text ∧
      t.span = ⟨Text.units rest, Text.units line⟩
  /-- Every run of one class at the end of the line is part of the token. -/
  longest : ∀ t, Token.atEnd? line = some t → ∀ (cls : TokenClass) (run : Text),
    run <:+ line → (∀ c ∈ run, cls.Has c) → run <:+ t.text
  /-- One more character of the class makes the token longer. -/
  extended : ∀ t, Token.atEnd? line = some t → ∀ (cls : TokenClass) (c : Char),
    (∀ d ∈ t.text, cls.Has d) → cls.Has c → Token.atEnd? (line ++ [c]) =
      some ⟨t.text ++ [c], t.span.start, t.span.stop + Text.charUnits c⟩
  /-- Behind a line that does not end in its class, a character begins a token. -/
  begun : ∀ (cls : TokenClass) (c : Char), cls.Has c → (∀ d ∈ line.getLast?, ¬ cls.Has d) →
    Token.atEnd? (line ++ [c]) =
      some ⟨[c], Text.units line, Text.units line + Text.charUnits c⟩

/-- **The token is the longest run.**  A line that ends in a letter, a digit, the underscore or a
character outside ASCII has the longest run of that class as its token; any other line has none.
While one types, the token grows by characters of its class, and a character of the other class
begins a new one. -/
theorem token_is_longest_run (line : Text) : ReadsLongestRun line where
  none_iff := by
    rw [Token.atEnd?_eq_none_iff]
    constructor
    · intro h
      cases hl : line.getLast? with
      | none => exact Or.inl (List.getLast?_eq_none_iff.1 hl)
      | some c => exact Or.inr ⟨c, rfl, TokenClass.forall_not_has_iff.1 (h c hl)⟩
    · rintro (rfl | ⟨last, hl, hlast⟩) c hc
      · exact absurd hc (by simp)
      · rw [hl] at hc
        obtain rfl := Option.some.inj hc
        exact TokenClass.forall_not_has_iff.2 hlast
  some_iff := fun _ => Token.atEnd?_eq_some_iff
  longest := by
    intro t ht cls run hs hrun
    obtain ⟨_, rest, rfl, htoken, -⟩ := Token.atEnd?_eq_some_iff.1 ht
    exact htoken.suffix_of_run hrun hs
  extended := by
    intro t ht cls c hd hc
    obtain ⟨cls', rest, rfl, htoken, hspan⟩ := Token.atEnd?_eq_some_iff.1 ht
    -- the token is not empty, and so its class is the one that is asked for
    obtain ⟨d, hmem⟩ := List.exists_mem_of_ne_nil t.text htoken.ne_nil
    obtain rfl : cls' = cls := (htoken.has d hmem).unique (hd d hmem)
    rw [List.append_assoc, (htoken.concat hc).atEnd?_eq, hspan]
    simp [Nat.add_assoc]
  begun := by
    intro cls c hc hline
    rw [(isToken_singleton hc hline).atEnd?_eq]
    simp

/-- The token goes back to the ASCII letter, and a character of two units counts twice. -/
example : Token.atEnd? "a代😀".toList = some ⟨"代😀".toList, ⟨1, 4⟩⟩ := by decide

end SnippetServer.Completion
