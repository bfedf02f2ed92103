import SnippetServer.Document.Basic
import SnippetServer.Proofs.Text.Blank
import SnippetServer.Proofs.Text.Lines

namespace SnippetServer.Document

open Text (IsTrimmed isBlank trim)

/-!
# The lines that are headers

A header is read in four steps: one byte-order mark is left out, then everything from the first `//`
on, then the blanks on both sides, and what is left has to be the title.  All together these steps
admit the lines that fall apart into such parts, in this order, and no others.

* `IsTitle t` — the spellings of the title;
* `IsHeaderOf line mark front title back comment` — how a line falls apart into the parts of a
  header;
* `IsHeaderOf.afterMark_eq` and so on — what the steps leave of such a line, `exists_isHeaderOf` —
  the parts of a line that is read as a header;
* `firstLine_append_lf` — what stands behind an LF does not belong to the first line;
* `isHeader_iff_parts` — the lines that are headers, and what the status of a document depends on.
-/

/-! ### Titles and headers -/

/-- A spelling of the title: three of its characters have two forms. -/
def IsTitle (t : Text) : Prop :=
  ∃ pavilion biography five : Char, (pavilion = '閣' ∨ pavilion = '阁') ∧
    (biography = '傳' ∨ biography = '传') ∧ (five = '５' ∨ five = '5') ∧
    t = ['太', pavilion, '立', '志', biography, five, '事', '件', '源', '文', '件']

/-- A line falls apart into the parts of a header. -/
structure IsHeaderOf (line mark front title back comment : Text) : Prop where
  /-- The line is the parts together. -/
  line_eq : line = mark ++ (front ++ title ++ back ++ comment)
  /-- First there may be one byte-order mark. -/
  mark_eq : mark = [] ∨ mark = ['\ufeff']
  /-- Blanks follow. -/
  front_blank : ∀ c ∈ front, isBlank c = true
  /-- The title follows. -/
  isTitle : IsTitle title
  /-- Blanks follow. -/
  back_blank : ∀ c ∈ back, isBlank c = true
  /-- The rest, if there is one, is a comment. -/
  comment_eq : comment = [] ∨ ['/', '/'] <+: comment

/-! ### The steps one by one -/

/-- Without places there is one spelling, the empty one. -/
theorem spells_nil_iff {t : Text} : spells [] t = true ↔ t = [] := by
  cases t <;> simp [spells]

/-- At the first place stands one of its characters, and the others follow. -/
theorem spells_cons_iff {place : List Char} {places : List (List Char)} {t : Text} :
    spells (place :: places) t = true ↔
      ∃ c ∈ place, ∃ r, t = c :: r ∧ spells places r = true := by
  cases t with
  | nil => simp [spells]
  | cons c r => simp [spells, and_comm]

/-- The places of the title spell it in all its forms, and nothing else. -/
theorem spells_title_iff {t : Text} : spells title t = true ↔ IsTitle t := by
  simp only [title, spells_cons_iff, spells_nil_iff, List.mem_cons, List.not_mem_nil, or_false,
    exists_eq_left]
  constructor
  · rintro ⟨_, rfl, pavilion, hpavilion, _, rfl, _, rfl, _, rfl, biography, hbiography, _, rfl,
      five, hfive, _, rfl, _, rfl, _, rfl, _, rfl, _, rfl, _, rfl, rfl⟩
    exact ⟨pavilion, biography, five, hpavilion, hbiography, hfive, rfl⟩
  · rintro ⟨pavilion, biography, five, hpavilion, hbiography, hfive, rfl⟩
    exact ⟨_, rfl, pavilion, hpavilion, _, rfl, _, rfl, _, rfl, biography, hbiography, _, rfl,
      five, hfive, _, rfl, _, rfl, _, rfl, _, rfl, _, rfl, _, rfl, rfl⟩

/-- What the first step takes off is at most one mark. -/
theorem exists_eq_mark_append (line : Text) :
    ∃ mark, line = mark ++ afterMark line ∧ (mark = [] ∨ mark = ['\ufeff']) := by
  unfold afterMark
  split
  · exact ⟨['\ufeff'], rfl, Or.inr rfl⟩
  · exact ⟨[], rfl, Or.inl rfl⟩

/-- What the second step takes off is at most one comment. -/
theorem exists_eq_append_comment (line : Text) :
    ∃ comment, line = beforeComment line ++ comment ∧ (comment = [] ∨ ['/', '/'] <+: comment) := by
  induction line using beforeComment.induct with
  | case1 r => exact ⟨'/' :: '/' :: r, rfl, Or.inr ⟨r, rfl⟩⟩
  | case2 c r hnot ih =>
    obtain ⟨comment, hr, hcomment⟩ := ih
    refine ⟨comment, ?_, hcomment⟩
    rw [beforeComment]
    · rw [List.cons_append, ← hr]
    · exact hnot
  | case3 => exact ⟨[], rfl, Or.inl rfl⟩

/-- Without a slash before it, a comment is found where it begins. -/
theorem beforeComment_append {t comment : Text} (h : '/' ∉ t)
    (hcomment : comment = [] ∨ ['/', '/'] <+: comment) : beforeComment (t ++ comment) = t := by
  induction t with
  | nil =>
    rcases hcomment with rfl | ⟨r, rfl⟩
    · rfl
    · rfl
  | cons c t ih =>
    rw [List.mem_cons, not_or] at h
    rw [List.cons_append, beforeComment, ih h.2]
    -- a comment that began here would begin with a slash
    rintro r rfl -
    exact h.1 rfl

/-! ### Reading a header -/

/-- A title has no blanks around it. -/
theorem IsTitle.isTrimmed {t : Text} (h : IsTitle t) : IsTrimmed t := by
  obtain ⟨pavilion, biography, five, -, -, -, rfl⟩ := h
  refine ⟨fun c hc => ?_, fun c hc => ?_⟩
  · obtain rfl : '太' = c := Option.some.inj hc
    decide
  · obtain rfl : '件' = c := Option.some.inj hc
    decide

/-- A title holds no slash. -/
theorem IsTitle.slash_not_mem {t : Text} (h : IsTitle t) : '/' ∉ t := by
  obtain ⟨pavilion, biography, five, hpavilion, hbiography, hfive, rfl⟩ := h
  rcases hpavilion with rfl | rfl <;> rcases hbiography with rfl | rfl <;>
    rcases hfive with rfl | rfl <;> decide

/-- A slash is no blank. -/
theorem slash_not_mem_of_blank {t : Text} (h : ∀ c ∈ t, isBlank c = true) : '/' ∉ t := fun hmem =>
  absurd (h '/' hmem) (by decide)

section

variable {line mark front title back comment : Text}

/-- Neither a blank nor the title begins with a byte-order mark, so at most one is left out. -/
theorem IsHeaderOf.afterMark_eq (h : IsHeaderOf line mark front title back comment) :
    afterMark line = front ++ title ++ back ++ comment := by
  -- what follows the mark is a blank or the title
  have hrest : (front ++ title ++ back ++ comment).head? ≠ some '\ufeff' := by
    obtain ⟨pavilion, biography, five, -, -, -, rfl⟩ := h.isTitle
    cases front with
    | nil => simp
    | cons c r =>
      intro hc
      obtain rfl := Option.some.inj hc
      exact absurd (h.front_blank _ List.mem_cons_self) (by decide)
  rw [h.line_eq]
  rcases h.mark_eq with rfl | rfl
  · rw [List.nil_append, afterMark]
    rintro r hr
    rw [hr] at hrest
    exact hrest rfl
  · rfl

/-- The comment begins at the first slash, since neither blanks nor the title hold one. -/
theorem IsHeaderOf.beforeComment_eq (h : IsHeaderOf line mark front title back comment) :
    beforeComment (afterMark line) = front ++ title ++ back := by
  have hslash : '/' ∉ front ++ title ++ back := by
    rw [List.mem_append, List.mem_append, not_or, not_or]
    exact ⟨⟨slash_not_mem_of_blank h.front_blank, h.isTitle.slash_not_mem⟩,
      slash_not_mem_of_blank h.back_blank⟩
  rw [h.afterMark_eq, beforeComment_append hslash h.comment_eq]

/-- A line with these parts is read as a header. -/
theorem IsHeaderOf.isHeader (h : IsHeaderOf line mark front title back comment) :
    isHeader line = true := by
  rw [Document.isHeader, h.beforeComment_eq,
    Text.trim_around h.front_blank h.isTitle.isTrimmed h.back_blank]
  exact spells_title_iff.2 h.isTitle

/-- What each step takes off a header is one of its parts. -/
theorem exists_isHeaderOf (h : isHeader line = true) :
    ∃ mark front title back comment, IsHeaderOf line mark front title back comment := by
  obtain ⟨mark, hline, hmark⟩ := exists_eq_mark_append line
  obtain ⟨comment, hrest, hcomment⟩ := exists_eq_append_comment (afterMark line)
  obtain ⟨front, back, htrim, hfront, hback⟩ :=
    Text.exists_eq_around_trim (beforeComment (afterMark line))
  -- put together again, the parts are the line
  refine ⟨mark, front, _, back, comment, ?_, hmark, hfront, spells_title_iff.1 h, hback, hcomment⟩
  rw [← htrim, ← hrest]
  exact hline

end

/-! ### The status of a document -/

/-- The first line ends at the first LF. -/
theorem firstLine_append_lf (text rest : Text) :
    (ofText (text ++ '\n' :: rest)).firstLine = (ofText text).firstLine := by
  by_cases hlf : '\n' ∈ text
  · -- the first line ends inside `text` already
    obtain ⟨line, r, rfl, hline⟩ := List.eq_append_cons_of_mem hlf
    have h := Text.cutAt_append_sep hline r
    have h' := Text.cutAt_append_sep hline (r ++ '\n' :: rest)
    rw [← List.cons_append, ← List.append_assoc] at h'
    simp only [firstLine, lines_ofText, Text.documentLines, h, h']
    rfl
  · have h := Text.cutAt_of_not_mem hlf
    have h' := Text.cutAt_append_sep hlf rest
    simp only [firstLine, lines_ofText, Text.documentLines, h, h']
    rfl

/-- What stands behind an LF does not decide whether a document is an event file. -/
theorem isEventFile_append_lf (text rest : Text) :
    (ofText (text ++ '\n' :: rest)).isEventFile = (ofText text).isEventFile := by
  have h := (ofText (text ++ '\n' :: rest)).isEventFile_eq
  have h' := (ofText text).isEventFile_eq
  rw [h, h']
  exact congrArg isHeader (firstLine_append_lf text rest)

/-- **Headers.**  A line is a header exactly if it falls apart into at most one byte-order mark,
blanks, a spelling of the title, blanks and at most one comment.  The status of a document is that
of its first line, so it stays when something behind an LF is replaced. -/
theorem isHeader_iff_parts :
    (∀ line, isHeader line = true ↔
      ∃ mark front title back comment, IsHeaderOf line mark front title back comment) ∧
    ∀ text rest rest' : Text,
      (ofText (text ++ '\n' :: rest')).isEventFile = (ofText (text ++ '\n' :: rest)).isEventFile ∧
        ((ofText (text ++ '\n' :: rest)).replace (text ++ '\n' :: rest')).2 = false := by
  refine ⟨fun line => ⟨exists_isHeaderOf, ?_⟩, fun text rest rest' => ?_⟩
  · rintro ⟨mark, front, title, back, comment, h⟩
    exact h.isHeader
  · have hstatus : (ofText (text ++ '\n' :: rest')).isEventFile =
        (ofText (text ++ '\n' :: rest)).isEventFile := by
      rw [isEventFile_append_lf, isEventFile_append_lf]
    refine ⟨hstatus, ?_⟩
    rw [replace, hstatus]
    exact bne_self_eq_false _

/-- A mark behind a blank is no mark, and a slash alone begins no comment. -/
example : isHeader " \ufeff太閣立志傳５事件源文件".toList = false ∧
    isHeader "\ufeff 太阁立志传5事件源文件\t//".toList = true ∧
    isHeader "太閣立志傳５事件源文件/".toList = false := by decide

end SnippetServer.Document
