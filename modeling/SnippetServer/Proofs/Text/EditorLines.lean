import SnippetServer.Proofs.Text.Lines

namespace SnippetServer.Text

/-!
# The lines of a document in an editor

An editor ends a line at LF, at CR LF and at a CR alone.  It keeps the ends of its lines, so that a
change in one line leaves the rest of the text as it is.

* `editorLines t` — the lines of a text with their ends; the last one has none;
* `joinLines_editorLines` — put together again they are the text;
* `CRBeforeLF t` — the texts in which every CR stands directly before LF;
* `contents_editorLines` — in such a text the lines are those of `documentLines`.
-/

/-! ### Lines with their ends -/

/-- A line and the characters that end it. -/
structure EditorLine where
  /-- The line without its end. -/
  content : Text
  /-- LF, CR LF or CR; nothing at the end of the text. -/
  ending : Text
  deriving DecidableEq, Repr

/-- The lines with one more character in front. -/
def withFront (c : Char) : List EditorLine → List EditorLine
  | [] => [⟨[c], []⟩]
  | l :: ls => { l with content := c :: l.content } :: ls

/-- The lines of a text with their ends.  There is always a last line, possibly empty. -/
def editorLines : Text → List EditorLine
  | [] => [⟨[], []⟩]
  | '\n' :: r => ⟨[], ['\n']⟩ :: editorLines r
  | '\r' :: '\n' :: r => ⟨[], ['\r', '\n']⟩ :: editorLines r
  | '\r' :: r => ⟨[], ['\r']⟩ :: editorLines r
  | c :: r => withFront c (editorLines r)

/-- The text of some lines. -/
def joinLines (ls : List EditorLine) : Text := ls.flatMap fun l => l.content ++ l.ending

/-- The first line comes first, with its end. -/
@[simp] theorem joinLines_cons (l : EditorLine) (ls : List EditorLine) :
    joinLines (l :: ls) = l.content ++ l.ending ++ joinLines ls := rfl

/-- Two lists of lines are joined apart. -/
@[simp] theorem joinLines_append (ls ls' : List EditorLine) :
    joinLines (ls ++ ls') = joinLines ls ++ joinLines ls' := by
  unfold joinLines
  exact List.flatMap_append

/-- A character in front of the first line is one in front of the text. -/
@[simp] theorem joinLines_withFront (c : Char) (ls : List EditorLine) :
    joinLines (withFront c ls) = c :: joinLines ls := by
  cases ls <;> rfl

/-- Nothing is lost. -/
theorem joinLines_editorLines (t : Text) : joinLines (editorLines t) = t := by
  induction t using editorLines.induct with
  | case1 => rfl
  | case2 r ih =>
    show '\n' :: joinLines (editorLines r) = _
    rw [ih]
  | case3 r ih =>
    show '\r' :: '\n' :: joinLines (editorLines r) = _
    rw [ih]
  | case4 r hlf ih =>
    rw [editorLines]
    · show '\r' :: joinLines (editorLines r) = _
      rw [ih]
    · exact hlf
  | case5 c r hlf hcrlf hcr ih =>
    rw [editorLines]
    · rw [joinLines_withFront, ih]
    · exact hlf
    · exact hcrlf
    · exact hcr

/-- A text around one of its lines. -/
theorem eq_around_line {t : Text} {i : Nat} {l : EditorLine} (h : (editorLines t)[i]? = some l) :
    t = joinLines ((editorLines t).take i) ++ (l.content ++ l.ending) ++
      joinLines ((editorLines t).drop (i + 1)) := by
  obtain ⟨hi, hl⟩ := List.getElem?_eq_some_iff.1 h
  -- the lines are those before it, itself and those after it
  have hcut : editorLines t = (editorLines t).take i ++ l :: (editorLines t).drop (i + 1) := by
    rw [← hl, List.getElem_cons_drop, List.take_append_drop]
  calc t = joinLines (editorLines t) := (joinLines_editorLines t).symm
    _ = joinLines ((editorLines t).take i ++ l :: (editorLines t).drop (i + 1)) := by rw [← hcut]
    _ = _ := by rw [joinLines_append, joinLines_cons, ← List.append_assoc]

/-! ### Texts in which every CR belongs to the end of a line -/

/-- Whether every CR stands directly before LF. -/
def CRBeforeLF (t : Text) : Prop :=
  ∀ before after, t = before ++ '\r' :: after → after.head? = some '\n'

/-- Without a character there is no CR. -/
theorem crBeforeLF_nil : CRBeforeLF [] := by
  intro before after h
  exact absurd h (by simp)

/-- Every CR stands before LF if the first character does in case it is one, and the others do. -/
theorem crBeforeLF_cons {c : Char} {r : Text} :
    CRBeforeLF (c :: r) ↔ (c = '\r' → r.head? = some '\n') ∧ CRBeforeLF r := by
  constructor
  · intro h
    refine ⟨?_, ?_⟩
    · rintro rfl
      exact h [] r rfl
    · rintro before after rfl
      exact h (c :: before) after rfl
  · rintro ⟨hc, hr⟩ before after h
    cases before with
    | nil =>
      obtain ⟨rfl, rfl⟩ := List.cons.inj h
      exact hc rfl
    | cons d before =>
      obtain ⟨-, rfl⟩ := List.cons.inj h
      exact hr before after rfl

instance decidableCRBeforeLF : (t : Text) → Decidable (CRBeforeLF t)
  | [] => isTrue crBeforeLF_nil
  | c :: r =>
    have := decidableCRBeforeLF r
    decidable_of_iff ((c = '\r' → r.head? = some '\n') ∧ CRBeforeLF r) crBeforeLF_cons.symm

/-! ### The lines of a document -/

/-- A first character that is no CR is kept. -/
theorem dropCR_cons {c : Char} (h : c ≠ '\r') (t : Text) : dropCR (c :: t) = c :: dropCR t := by
  -- a CR at the end is that of the rest, since the first character is none
  rcases dropCR_cases t with ht | ⟨ht, hne⟩
  · conv_lhs => rw [ht]
    exact dropCR_concat_cr (c :: dropCR t)
  · rw [← ht]
    apply dropCR_of_ne
    cases t with
    | nil => simpa using h
    | cons d r => simpa using hne

/-- An LF ends the first line. -/
theorem documentLines_append_lf {line : Text} (h : '\n' ∉ line) (t : Text) :
    documentLines (line ++ '\n' :: t) = dropCR line :: documentLines t := by
  rw [documentLines, cutAt_append_sep h, documentLines]
  rfl

/-- A character that ends no line stands in front of the first one. -/
theorem documentLines_cons {c : Char} (hlf : c ≠ '\n') (hcr : c ≠ '\r') (r : Text) :
    ∃ line lines, documentLines r = line :: lines ∧
      documentLines (c :: r) = (c :: line) :: lines := by
  rw [documentLines, documentLines, cutAt]
  rcases cutAt '\n' r with ⟨done, rest⟩
  dsimp only
  rw [if_neg hlf]
  cases done with
  | nil => exact ⟨dropCR rest, [], rfl, by rw [← dropCR_cons hcr]; rfl⟩
  | cons piece pieces => exact ⟨dropCR piece, _, rfl, by rw [← dropCR_cons hcr]; rfl⟩

/-- **Editor and server agree.**  If every CR stands directly before LF, an editor has the lines of
`documentLines`.  (A CR alone is part of a line there, while it ends one here.) -/
theorem contents_editorLines {t : Text} (h : CRBeforeLF t) :
    (editorLines t).map EditorLine.content = documentLines t := by
  induction t using editorLines.induct with
  | case1 => rfl
  | case2 r ih =>
    have hd : documentLines ('\n' :: r) = [] :: documentLines r :=
      documentLines_append_lf List.not_mem_nil r
    rw [hd, ← ih (crBeforeLF_cons.1 h).2]
    rfl
  | case3 r ih =>
    have hn : '\n' ∉ ['\r'] := by decide
    have hd : documentLines ('\r' :: '\n' :: r) = [] :: documentLines r :=
      documentLines_append_lf hn r
    rw [hd, ← ih (crBeforeLF_cons.1 (crBeforeLF_cons.1 h).2).2]
    rfl
  | case4 r hlf ih =>
    -- The CR has no LF behind it.
    obtain ⟨r', rfl⟩ := List.head?_eq_some_iff.1 ((crBeforeLF_cons.1 h).1 rfl)
    exact absurd rfl (hlf r')
  | case5 c r hlf hcrlf hcr ih =>
    obtain ⟨line, lines, hr, hc⟩ := documentLines_cons hlf hcr r
    rw [hc, editorLines]
    · -- both sides put the character in front of the first line of the rest
      have hm := ih (crBeforeLF_cons.1 h).2
      rw [hr] at hm
      cases he : editorLines r with
      | nil =>
        rw [he] at hm
        exact absurd hm (by simp)
      | cons l ls =>
        rw [he] at hm
        obtain ⟨rfl, rfl⟩ := List.cons.inj hm
        rfl
    · exact hlf
    · exact hcrlf
    · exact hcr

end SnippetServer.Text
