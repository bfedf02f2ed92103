import SnippetServer.Proofs.Text.Blank
import SnippetServer.Proofs.Text.Lines
import SnippetServer.Snippet.Record.Parser

namespace SnippetServer.Snippet

/-!
# Sections

The reader of a snippet file goes from line to line with a half-built record in hand.  What it
gives can be said without that record: the lines fall into *sections*, each from one label line up
to the next, and every section gives at most one record, whatever stands in the others.

* `HasBody content body` — what stands in a file, apart from one byte-order mark in front;
* `Section.record?` — the record of a section, read off its lines as a whole;
* `IsCutInto lines front sections` — how lines fall into what stands in front and sections;
  `sectionsOf` computes the sections;
* `readFrom_sections` — a reader that comes to a section finishes its draft and reads the section;
* `readAll_eq_sections` — a file gives the records of its sections.
-/

/-! ### The mark in front -/

/-- What stands in a file: everything behind the byte-order mark in front, or the whole content if
it does not begin with one. -/
def HasBody (content body : Text) : Prop :=
  content = '\ufeff' :: body ∨ content.head? ≠ some '\ufeff' ∧ body = content

/-- The reader takes off the mark and nothing else. -/
theorem hasBody_iff {content body : Text} : HasBody content body ↔ withoutMark content = body := by
  constructor
  · rintro (rfl | ⟨hhead, rfl⟩)
    · rfl
    · exact withoutMark_of_head?_ne hhead
  · rintro rfl
    -- the reader takes off the mark exactly where there is one
    by_cases hhead : content.head? = some '\ufeff'
    · obtain ⟨r, rfl⟩ := List.head?_eq_some_iff.1 hhead
      exact Or.inl rfl
    · exact Or.inr ⟨hhead, withoutMark_of_head?_ne hhead⟩

/-! ### The record of a section -/

/-- A label line and the lines up to the next one. -/
structure Section where
  /-- What follows the marker of the label line. -/
  head : Text
  /-- The lines after the label line. -/
  rest : List Text
  deriving DecidableEq, Repr

/-- Whether a line is a label line. -/
def isLabelLine (line : Text) : Bool := labelMarker.isPrefixOf line

/-- Whether a line is a trigger line. -/
def isTriggerLine (line : Text) : Bool := triggerMarker.isPrefixOf line

/-- What follows the markers of the trigger lines among the given lines, without blanks around. -/
def triggersIn (lines : List Text) : List Text :=
  (lines.filter isTriggerLine).map fun line => Text.trim (line.drop triggerMarker.length)

/-- Whether body lines count after the given lines of a section: the last trigger line among them
is not blank. -/
def opensBody (lines : List Text) : Bool := (triggersIn lines).getLast?.any fun t => !t.isEmpty

/-- The body lines that count: those for which the nearest trigger line in front of them is not
blank. -/
def bodyLines (lines : List Text) : List Text :=
  lines.zipIdx.filterMap fun (line, i) =>
    if !isTriggerLine line && opensBody (lines.take i) then some line else none

namespace Section

/-- All lines of a section. -/
def lines (s : Section) : List Text := (labelMarker ++ s.head) :: s.rest

/-- The label of a section. -/
def label (s : Section) : Text := Text.trim s.head

/-- The record of a section: there is one if neither the label nor the last trigger is blank.  The
blank lines at the end of the body are left out. -/
def record? (s : Section) : Option Record :=
  match (triggersIn s.rest).getLast? with
  | some trigger =>
    if s.label ≠ [] ∧ trigger ≠ [] then
      some ⟨s.label, trigger, dropTrailing Text.isBlankText (bodyLines s.rest)⟩
    else none
  | none => none

end Section

/-- The sections of a list of lines, one for every label line. -/
def sectionsOf : List Text → List Section
  | [] => []
  | line :: lines =>
    match afterMarker? labelMarker line with
    | some head => ⟨head, lines.takeWhile fun l => !isLabelLine l⟩ :: sectionsOf lines
    | none => sectionsOf lines

/-- How lines fall into lines in front and sections: label lines stand at the start of sections and
nowhere else. -/
structure IsCutInto (lines front : List Text) (sections : List Section) : Prop where
  /-- No line is lost. -/
  lines_eq : lines = front ++ sections.flatMap Section.lines
  /-- There is no label line in front of the sections. -/
  front_label : ∀ line ∈ front, isLabelLine line = false
  /-- There is none inside a section. -/
  rest_label : ∀ s ∈ sections, ∀ line ∈ s.rest, isLabelLine line = false

/-! ### Markers -/

/-- A line is a label line exactly if a label, maybe an empty one, can be read off it. -/
theorem isLabelLine_iff {line : Text} :
    isLabelLine line = true ↔ ∃ head, afterMarker? labelMarker line = some head := by
  rw [isLabelLine, List.isPrefixOf_iff_prefix]
  constructor
  · rintro ⟨head, rfl⟩
    exact ⟨head, afterMarker?_eq_some_iff.2 rfl⟩
  · rintro ⟨head, h⟩
    exact ⟨head, (afterMarker?_eq_some_iff.1 h).symm⟩

/-- No label is read off a line that is none. -/
theorem afterMarker?_label_eq_none {line : Text} (h : isLabelLine line = false) :
    afterMarker? labelMarker line = none := by
  rw [isLabelLine] at h
  rw [afterMarker?, h]
  rfl

/-- No trigger is read off a line that is none. -/
theorem afterMarker?_trigger_eq_none {line : Text} (h : isTriggerLine line = false) :
    afterMarker? triggerMarker line = none := by
  rw [isTriggerLine] at h
  rw [afterMarker?, h]
  rfl

/-- Behind a marker the rest of the line is read. -/
theorem afterMarker?_append (marker rest : Text) :
    afterMarker? marker (marker ++ rest) = some rest :=
  afterMarker?_eq_some_iff.2 rfl

/-- A line with the marker of a trigger in front is a trigger line. -/
theorem isTriggerLine_append (text : Text) : isTriggerLine (triggerMarker ++ text) = true := by
  rw [isTriggerLine, List.isPrefixOf_iff_prefix]
  exact List.prefix_append _ _

/-- A line with the marker of a label in front is read as a label, without blanks around. -/
@[simp] theorem ofText_label (name : Text) :
    Line.ofText (labelMarker ++ name) = .label (Text.trim name) := by
  rw [Line.ofText, afterMarker?_append]

/-- A line with the marker of a trigger in front is read as a trigger, without blanks around. -/
@[simp] theorem ofText_trigger (text : Text) :
    Line.ofText (triggerMarker ++ text) = .trigger (Text.trim text) := by
  -- the two markers differ in their second character
  have hl : afterMarker? labelMarker (triggerMarker ++ text) = none := rfl
  rw [Line.ofText, hl]
  dsimp only
  rw [afterMarker?_append]

/-- Every other line is read as it stands. -/
theorem ofText_body {line : Text} (hl : isLabelLine line = false)
    (ht : isTriggerLine line = false) : Line.ofText line = .body line := by
  rw [Line.ofText, afterMarker?_label_eq_none hl]
  dsimp only
  rw [afterMarker?_trigger_eq_none ht]

/-! ### One more line -/

/-- A trigger line gives one more trigger. -/
theorem triggersIn_concat_trigger (lines : List Text) (text : Text) :
    triggersIn (lines ++ [triggerMarker ++ text]) = triggersIn lines ++ [Text.trim text] := by
  have hdrop : (triggerMarker ++ text).drop triggerMarker.length = text := List.drop_left
  rw [triggersIn, List.filter_append, List.filter_cons_of_pos (isTriggerLine_append text),
    List.filter_nil, List.map_append, List.map_singleton, hdrop, triggersIn]

/-- Any other line gives none. -/
theorem triggersIn_concat_body {line : Text} (h : isTriggerLine line = false) (lines : List Text) :
    triggersIn (lines ++ [line]) = triggersIn lines := by
  have hother : ¬ isTriggerLine line = true := by simp [h]
  rw [triggersIn, List.filter_append, List.filter_cons_of_neg hother, List.filter_nil,
    List.append_nil, triggersIn]

/-- Whether a line counts depends on the lines in front of it only. -/
theorem bodyLines_concat (lines : List Text) (line : Text) : bodyLines (lines ++ [line]) =
    bodyLines lines ++ if !isTriggerLine line && opensBody lines then [line] else [] := by
  -- the lines in front of a line are the same as before, except in front of the last one
  have hfront : ∀ x ∈ lines.zipIdx,
      (if !isTriggerLine x.1 && opensBody ((lines ++ [line]).take x.2) then some x.1 else none) =
        if !isTriggerLine x.1 && opensBody (lines.take x.2) then some x.1 else none := by
    intro x hx
    have hlt : x.2 < lines.length := by
      simpa using List.snd_lt_add_of_mem_zipIdx hx
    rw [List.take_append_of_le_length (Nat.le_of_lt hlt)]
  rw [bodyLines, List.zipIdx_append, List.filterMap_append, bodyLines]
  congr 1
  · exact List.filterMap_congr hfront
  · rw [Nat.zero_add, List.zipIdx_singleton, List.filterMap_cons, List.filterMap_nil]
    dsimp only
    rw [List.take_left]
    cases !isTriggerLine line && opensBody lines <;> rfl

/-! ### The draft inside a section -/

/-- The draft that a reader holds after the label line and some more lines of a section. -/
def Draft.inSection (label : Text) (lines : List Text) : Draft where
  label := label
  trigger := (triggersIn lines).getLast?.getD []
  body := if label = [] then [] else bodyLines lines

/-- The draft after a line that is no label line. -/
def Draft.take (d : Draft) (line : Text) : Draft :=
  match Line.ofText line with
  | .label _ => d
  | .trigger text => { d with trigger := text }
  | .body text => d.addLine text

/-- The draft counts if neither the label nor the last trigger is blank. -/
theorem counts_inSection (label : Text) (lines : List Text) :
    (Draft.inSection label lines).counts = (!label.isEmpty && opensBody lines) := by
  rw [Draft.counts, Draft.inSection, opensBody]
  cases (triggersIn lines).getLast? <;> rfl

/-- **Step.**  The draft keeps to what its section says. -/
theorem take_inSection {line : Text} (h : isLabelLine line = false) (label : Text)
    (lines : List Text) :
    (Draft.inSection label lines).take line = Draft.inSection label (lines ++ [line]) := by
  cases ht : isTriggerLine line with
  | true =>
    -- a trigger line replaces the trigger and leaves the body, which keeps what has counted
    obtain ⟨text, rfl⟩ := List.isPrefixOf_iff_prefix.1 ht
    rw [Draft.take, ofText_trigger, Draft.inSection, Draft.inSection, triggersIn_concat_trigger,
      bodyLines_concat, ht]
    simp
  | false =>
    -- a body line counts if the draft does
    rw [Draft.take, ofText_body h ht]
    dsimp only
    rw [Draft.addLine, counts_inSection, Draft.inSection, Draft.inSection,
      triggersIn_concat_body ht, bodyLines_concat, ht]
    cases label with
    | nil => rfl
    | cons c r => cases opensBody lines <;> simp

/-- **Run.**  So it does over all lines of the section. -/
theorem foldl_take (label : Text) (lines : List Text)
    (h : ∀ line ∈ lines, isLabelLine line = false) :
    lines.foldl Draft.take ⟨label, [], []⟩ = Draft.inSection label lines := by
  -- from the end of the lines, since the draft is that of all lines so far
  induction lines using List.reverseRecOn with
  | nil => simp [Draft.inSection, triggersIn, bodyLines]
  | append_singleton lines line ih =>
    rw [List.foldl_append, ih fun l hl => h l (List.mem_append_left _ hl)]
    exact take_inSection (h line (by simp)) label lines

/-- A draft that has come to the end of its section gives the record of the section. -/
theorem finish?_inSection (s : Section) :
    (Draft.inSection s.label s.rest).finish? = s.record? := by
  rw [Draft.finish?, counts_inSection, Section.record?, opensBody, Draft.inSection]
  cases (triggersIn s.rest).getLast? with
  | none => simp
  -- all four cases of a blank label and a blank trigger
  | some trigger =>
    cases hl : s.label with
    | nil => simp
    | cons c r => cases trigger <;> simp

/-! ### The reader -/

namespace Record

/-- Lines that are no label lines only change the draft. -/
theorem readFrom_append (d : Draft) {rest : List Text}
    (h : ∀ line ∈ rest, isLabelLine line = false) (lines : List Text) :
    readFrom d (rest ++ lines) = readFrom (rest.foldl Draft.take d) lines := by
  induction rest generalizing d with
  | nil => rfl
  | cons line rest ih =>
    have hl := h line List.mem_cons_self
    have hr := fun l hl => h l (List.mem_cons_of_mem line hl)
    rw [List.cons_append, readFrom, List.foldl_cons, Draft.take]
    cases ht : isTriggerLine line with
    | true =>
      obtain ⟨text, rfl⟩ := List.isPrefixOf_iff_prefix.1 ht
      rw [ofText_trigger]
      exact ih _ hr
    | false =>
      rw [ofText_body hl ht]
      exact ih _ hr

/-- Without a label a draft never counts. -/
theorem readFrom_front {front : List Text} (h : ∀ line ∈ front, isLabelLine line = false) :
    ∃ trigger, front.foldl Draft.take .empty = ⟨[], trigger, []⟩ := by
  refine ⟨_, foldl_take [] front h⟩

/-- A reader that comes to a section finishes its draft, and after the section it holds the draft of
that section; so every section gives its own record. -/
theorem readFrom_sections (d : Draft) {sections : List Section}
    (h : ∀ s ∈ sections, ∀ line ∈ s.rest, isLabelLine line = false) :
    readFrom d (sections.flatMap Section.lines) =
      d.finish?.toList ++ sections.filterMap Section.record? := by
  -- the draft in hand is finished first, whatever it is
  induction sections generalizing d with
  | nil => simp [readFrom]
  | cons s sections ih =>
    have hs := h s List.mem_cons_self
    have hr := fun t ht => h t (List.mem_cons_of_mem s ht)
    rw [List.flatMap_cons, Section.lines, List.cons_append, readFrom, ofText_label]
    dsimp only
    -- the label line has finished the draft `d` and opened one of its own
    rw [readFrom_append _ hs, foldl_take _ _ hs, ih _ hr]
    have hf : (Draft.inSection (Text.trim s.head) s.rest).finish? = s.record? := finish?_inSection s
    rw [hf, List.filterMap_cons]
    cases s.record? <;> rfl

/-- Lines give the records of their sections, whatever stands in front. -/
theorem readLines_eq_filterMap {lines front : List Text} {sections : List Section}
    (h : IsCutInto lines front sections) :
    readLines lines = sections.filterMap Section.record? := by
  obtain ⟨trigger, ht⟩ := readFrom_front h.front_label
  rw [readLines, h.lines_eq, readFrom_append _ h.front_label, ht,
    readFrom_sections _ h.rest_label]
  rfl

end Record

/-! ### Cutting lines into sections -/

/-- Every list of lines falls into sections and what stands in front of them. -/
theorem isCutInto_sectionsOf (lines : List Text) :
    IsCutInto lines (lines.takeWhile fun l => !isLabelLine l) (sectionsOf lines) where
  lines_eq := by
    induction lines with
    | nil => rfl
    | cons line lines ih =>
      cases hl : isLabelLine line with
      | true =>
        -- a label line opens a section, and the lines in front of the next one are its own
        obtain ⟨head, hh⟩ := isLabelLine_iff.1 hl
        rw [List.takeWhile_cons, hl, sectionsOf, hh]
        dsimp only
        rw [List.flatMap_cons, Section.lines, ← afterMarker?_eq_some_iff.1 hh]
        simpa using ih
      | false =>
        rw [List.takeWhile_cons, hl, sectionsOf, afterMarker?_label_eq_none hl]
        simpa using ih
  front_label := by
    intro line hl
    simpa using List.mem_takeWhile_imp hl
  rest_label := by
    induction lines with
    | nil => exact fun s hs => absurd hs List.not_mem_nil
    | cons line lines ih =>
      intro s hs
      rw [sectionsOf] at hs
      cases hh : afterMarker? labelMarker line with
      | none =>
        rw [hh] at hs
        exact ih s hs
      | some head =>
        rw [hh] at hs
        rcases List.mem_cons.1 hs with rfl | hs
        · intro l hl
          simpa using List.mem_takeWhile_imp hl
        · exact ih s hs

/-- **The grammar of snippet files.**  However what stands in a file is cut into lines and these
into sections (there is such a cut), the file gives the records of its sections, in order, and no
other record. -/
theorem readAll_eq_sections (content : Text) :
    (∃ body lines front sections, HasBody content body ∧ Text.HasLines body lines ∧
      IsCutInto lines front sections) ∧
    ∀ (body : Text) (lines front : List Text) (sections : List Section),
      HasBody content body → Text.HasLines body lines → IsCutInto lines front sections →
        Record.readAll content = sections.filterMap Section.record? := by
  constructor
  · -- the cut that the reader makes is one
    exact ⟨_, _, _, _, hasBody_iff.2 rfl, Text.hasLines_fileLines _, isCutInto_sectionsOf _⟩
  · intro body lines front sections hbody hl hs
    rw [Record.readAll, hasBody_iff.1 hbody, hl.fileLines_eq]
    exact Record.readLines_eq_filterMap hs

namespace MarkedFile

/-- A section with a body line in front of the trigger, a trigger that is blank for a while, and a
blank line at the end. -/
def body : Text := "#t= A\nlost\n#g=a\r\nkept\n#g=\nlost\n#g=b\n \n".toList

/-- The file with a mark directly in front of the label line. -/
def content : Text := '\ufeff' :: body

end MarkedFile

open MarkedFile in
/-- The section is read behind the mark.  Behind two marks there is no label line any more. -/
theorem readAll_eq_sections_mixed :
    (∃ lines front sections, HasBody content body ∧ Text.HasLines body lines ∧
      IsCutInto lines front sections ∧
      sections.filterMap Section.record? = [⟨['A'], ['b'], ["kept".toList]⟩] ∧
      Record.readAll content = sections.filterMap Section.record?) ∧
    Record.readAll ('\ufeff' :: content) = [] := by
  have hlines := Text.hasLines_fileLines body
  have hcut := isCutInto_sectionsOf (Text.fileLines body)
  constructor
  · exact ⟨_, _, _, Or.inl rfl, hlines, hcut, by decide,
      (readAll_eq_sections content).2 _ _ _ _ (Or.inl rfl) hlines hcut⟩
  · rw [(readAll_eq_sections ('\ufeff' :: content)).2 content _ _ _ (Or.inl rfl)
      (Text.hasLines_fileLines content) (isCutInto_sectionsOf _)]
    decide

end SnippetServer.Snippet
