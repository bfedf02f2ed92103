import SnippetServer.Proofs.Snippet.Section

namespace SnippetServer.Snippet

/-!
# Writing and reading records

A record is *well-formed* if its written form can be read back: label and trigger are trimmed and
not empty, no line holds an LF, no body line looks like a marker line, and the body does not end in
a blank line.  Reading gives well-formed records only, whatever the content, and gives back the
records that were written.

* `Record.WellFormed` — well-formed records;
* `Record.toSection`, `Record.record?_toSection` — the section that is written for a record gives
  that record;
* `wellFormed_of_record?` — a section without LF gives a well-formed record;
* `readAll_renderAll` — reading undoes writing;
* `read_render_inverse` — both, and what follows for reading, writing and reading again.
-/

/-! ### Well-formed records -/

/-- A record that can be written and read back. -/
structure Record.WellFormed (r : Record) : Prop where
  /-- It has a label. -/
  label_ne_nil : r.label ≠ []
  /-- The label has no blanks around it. -/
  label_trimmed : Text.IsTrimmed r.label
  /-- The label is on one line. -/
  label_line : '\n' ∉ r.label
  /-- It has a trigger. -/
  trigger_ne_nil : r.trigger ≠ []
  /-- The trigger has no blanks around it. -/
  trigger_trimmed : Text.IsTrimmed r.trigger
  /-- The trigger is on one line. -/
  trigger_line : '\n' ∉ r.trigger
  /-- A body line is one line. -/
  body_line : ∀ line ∈ r.body, '\n' ∉ line
  /-- A body line does not begin with the marker of a label. -/
  body_label : ∀ line ∈ r.body, ¬ labelMarker <+: line
  /-- A body line does not begin with the marker of a trigger. -/
  body_trigger : ∀ line ∈ r.body, ¬ triggerMarker <+: line
  /-- The body does not end in a blank line. -/
  body_end : ∀ line ∈ r.body.getLast?, Text.isBlankText line = false

/-- A line is no label line exactly if it does not begin with the marker. -/
theorem isLabelLine_eq_false_iff {line : Text} :
    isLabelLine line = false ↔ ¬ labelMarker <+: line := by
  rw [isLabelLine, ← Bool.not_eq_true, List.isPrefixOf_iff_prefix]

/-- A line is no trigger line exactly if it does not begin with the marker. -/
theorem isTriggerLine_eq_false_iff {line : Text} :
    isTriggerLine line = false ↔ ¬ triggerMarker <+: line := by
  rw [isTriggerLine, ← Bool.not_eq_true, List.isPrefixOf_iff_prefix]

/-! ### Writing and then reading -/

/-- The section that is written for a record. -/
def Record.toSection (r : Record) : Section := ⟨r.label, (triggerMarker ++ r.trigger) :: r.body⟩

/-- A trigger line and lines that are none hold one trigger. -/
theorem triggersIn_cons_body (text : Text) {body : List Text}
    (h : ∀ line ∈ body, isTriggerLine line = false) :
    triggersIn ((triggerMarker ++ text) :: body) = [Text.trim text] := by
  have hnone : body.filter isTriggerLine = [] := by
    rw [List.filter_eq_nil_iff]
    intro line hl
    simp [h line hl]
  rw [triggersIn, List.filter_cons_of_pos (isTriggerLine_append text), hnone, List.map_singleton,
    List.drop_left]

/-- Behind a trigger line that is not blank every body line counts. -/
theorem bodyLines_cons_body {text : Text} (ht : Text.trim text ≠ []) {body : List Text}
    (h : ∀ line ∈ body, isTriggerLine line = false) :
    bodyLines ((triggerMarker ++ text) :: body) = body := by
  induction body using List.reverseRecOn with
  | nil =>
    show bodyLines ([] ++ [triggerMarker ++ text]) = []
    rw [bodyLines_concat, isTriggerLine_append]
    rfl
  | append_singleton body line ih =>
    have hb : ∀ l ∈ body, isTriggerLine l = false := fun l hl => h l (List.mem_append_left _ hl)
    have hline : isTriggerLine line = false := h line (by simp)
    -- the only trigger line is the first one, and it is not blank
    have hopen : opensBody ((triggerMarker ++ text) :: body) = true := by
      rw [opensBody, triggersIn_cons_body text hb]
      simpa using ht
    rw [← List.cons_append, bodyLines_concat, ih hb, hline, hopen]
    rfl

/-- The section that is written for a well-formed record gives that record. -/
theorem Record.record?_toSection {r : Record} (h : r.WellFormed) :
    r.toSection.record? = some r := by
  have hbody : ∀ line ∈ r.body, isTriggerLine line = false := fun line hl =>
    isTriggerLine_eq_false_iff.2 (h.body_trigger line hl)
  have ht : Text.trim r.trigger = r.trigger := Text.trim_eq_self h.trigger_trimmed
  have hl : r.toSection.label = r.label := Text.trim_eq_self h.label_trimmed
  have hrest : r.toSection.rest = (triggerMarker ++ r.trigger) :: r.body := rfl
  have htne : Text.trim r.trigger ≠ [] := by
    rw [ht]
    exact h.trigger_ne_nil
  -- nothing is trimmed, no body line is left out, and none is taken off at the end
  rw [Section.record?, hl, hrest, triggersIn_cons_body _ hbody, bodyLines_cons_body htne hbody, ht,
    dropTrailing_eq_self h.body_end]
  exact if_pos ⟨h.label_ne_nil, h.trigger_ne_nil⟩

/-- Lines without LF that are written with CR LF are read as they were. -/
theorem fileLines_flatMap_crlf {lines : List Text} (h : ∀ line ∈ lines, '\n' ∉ line) :
    Text.fileLines (lines.flatMap fun line => line ++ ['\r', '\n']) = lines := by
  induction lines with
  | nil => rfl
  | cons line lines ih =>
    rw [List.flatMap_cons, List.append_assoc]
    show Text.fileLines (line ++ '\r' :: '\n' :: lines.flatMap fun line => line ++ ['\r', '\n']) = _
    rw [Text.fileLines_append_crlf (h line List.mem_cons_self),
      ih fun l hl => h l (List.mem_cons_of_mem line hl)]

/-- The written form of records is that of the lines of their sections. -/
theorem renderAll_eq_flatMap (rs : List Record) : Record.renderAll rs =
    ((rs.map Record.toSection).flatMap Section.lines).flatMap fun line => line ++ ['\r', '\n'] := by
  rw [List.flatMap_map, List.flatMap_assoc]
  rfl

/-- A written text begins with a marker, if with anything, so it loses no byte-order mark. -/
theorem withoutMark_renderAll (rs : List Record) :
    withoutMark (Record.renderAll rs) = Record.renderAll rs := by
  cases rs with
  | nil => rfl
  | cons r rs => rfl

/-- **Round trip.**  Reading gives back the well-formed records that were written. -/
theorem readAll_renderAll {rs : List Record} (h : ∀ r ∈ rs, r.WellFormed) :
    Record.readAll (Record.renderAll rs) = rs := by
  -- the lines that are written are cut where they were put together
  have hcut : IsCutInto ((rs.map Record.toSection).flatMap Section.lines) []
      (rs.map Record.toSection) := by
    refine ⟨rfl, fun line hl => absurd hl List.not_mem_nil, ?_⟩
    intro s hs line hline
    obtain ⟨r, hr, rfl⟩ := List.mem_map.1 hs
    rcases List.mem_cons.1 hline with rfl | hline
    · rfl
    · exact isLabelLine_eq_false_iff.2 ((h r hr).body_label line hline)
  -- none of them holds an LF, so that they are read as they were written
  have hlf : ∀ line ∈ (rs.map Record.toSection).flatMap Section.lines, '\n' ∉ line := by
    intro line hline
    obtain ⟨s, hs, hline⟩ := List.mem_flatMap.1 hline
    obtain ⟨r, hr, rfl⟩ := List.mem_map.1 hs
    have hw := h r hr
    rcases List.mem_cons.1 hline with rfl | hline
    · show '\n' ∉ labelMarker ++ r.label
      simpa [labelMarker] using hw.label_line
    · rcases List.mem_cons.1 hline with rfl | hline
      · simpa [triggerMarker] using hw.trigger_line
      · exact hw.body_line line hline
  have hsome : rs.filterMap (Section.record? ∘ Record.toSection) = rs.filterMap some :=
    List.filterMap_congr fun r hr => Record.record?_toSection (h r hr)
  rw [Record.readAll, withoutMark_renderAll, renderAll_eq_flatMap, fileLines_flatMap_crlf hlf,
    Record.readLines_eq_filterMap hcut, List.filterMap_map, hsome]
  exact List.filterMap_some

/-! ### What reading can give -/

/-- A trigger is what stands on some trigger line, without blanks around. -/
theorem mem_triggersIn {lines : List Text} {trigger : Text} : trigger ∈ triggersIn lines ↔
    ∃ text, triggerMarker ++ text ∈ lines ∧ Text.trim text = trigger := by
  rw [triggersIn, List.mem_map]
  constructor
  · rintro ⟨line, hl, rfl⟩
    obtain ⟨hmem, htrigger⟩ := List.mem_filter.1 hl
    obtain ⟨text, rfl⟩ := List.isPrefixOf_iff_prefix.1 htrigger
    exact ⟨text, hmem, by rw [List.drop_left]⟩
  · rintro ⟨text, hl, rfl⟩
    exact ⟨triggerMarker ++ text, List.mem_filter.2 ⟨hl, isTriggerLine_append text⟩,
      by rw [List.drop_left]⟩

/-- A body line is a line of its section and no trigger line. -/
theorem mem_bodyLines {lines : List Text} {line : Text} (h : line ∈ bodyLines lines) :
    line ∈ lines ∧ isTriggerLine line = false := by
  obtain ⟨⟨l, i⟩, hl, h⟩ := List.mem_filterMap.1 h
  rw [Option.ite_none_right_eq_some, Bool.and_eq_true, Bool.not_eq_true'] at h
  obtain ⟨⟨ht, -⟩, h⟩ := h
  obtain rfl := Option.some.inj h
  exact ⟨List.fst_mem_of_mem_zipIdx hl, ht⟩

/-- A section gives a well-formed record if no line of it holds an LF and only the first one is a
label line. -/
theorem wellFormed_of_record? {s : Section} (hlf : ∀ line ∈ s.lines, '\n' ∉ line)
    (hlabel : ∀ line ∈ s.rest, isLabelLine line = false) {r : Record} (h : s.record? = some r) :
    r.WellFormed := by
  have hrest : ∀ line ∈ s.rest, '\n' ∉ line := fun line hl => hlf line (List.mem_cons_of_mem _ hl)
  rw [Section.record?] at h
  split at h
  · rename_i trigger ht
    rw [Option.ite_none_right_eq_some] at h
    obtain ⟨⟨hl, htne⟩, h⟩ := h
    obtain rfl := Option.some.inj h
    -- the trigger comes from a trigger line of the section, trimmed
    obtain ⟨text, htext, rfl⟩ := mem_triggersIn.1 (List.mem_of_getLast? ht)
    have hbody : ∀ line ∈ dropTrailing Text.isBlankText (bodyLines s.rest),
        line ∈ s.rest ∧ isTriggerLine line = false := fun line hline =>
      mem_bodyLines ((dropTrailing_prefix_self _ _).subset hline)
    exact {
      label_ne_nil := hl
      label_trimmed := Text.isTrimmed_trim s.head
      label_line := fun h =>
        hlf _ List.mem_cons_self (List.mem_append_right _ (Text.mem_of_mem_trim h))
      trigger_ne_nil := htne
      trigger_trimmed := Text.isTrimmed_trim text
      trigger_line := fun h => hrest _ htext (List.mem_append_right _ (Text.mem_of_mem_trim h))
      body_line := fun line hline => hrest line (hbody line hline).1
      body_label := fun line hline => isLabelLine_eq_false_iff.1 (hlabel line (hbody line hline).1)
      body_trigger := fun line hline => isTriggerLine_eq_false_iff.1 (hbody line hline).2
      body_end := not_getLast?_dropTrailing }
  · exact absurd h (by simp)

/-- Reading gives well-formed records only, whatever the content. -/
theorem wellFormed_of_mem_readAll {content : Text} {r : Record} (h : r ∈ Record.readAll content) :
    r.WellFormed := by
  have hcut := isCutInto_sectionsOf (Text.fileLines (withoutMark content))
  rw [Record.readAll, Record.readLines_eq_filterMap hcut] at h
  obtain ⟨s, hs, hr⟩ := List.mem_filterMap.1 h
  refine wellFormed_of_record? (fun line hline => ?_) (hcut.rest_label s hs) hr
  -- the lines of a section are lines of the file, and these hold no LF
  apply Text.not_mem_of_mem_fileLines (t := withoutMark content)
  rw [hcut.lines_eq]
  exact List.mem_append_right _ (List.mem_flatMap.2 ⟨s, hs, hline⟩)

/-! ### Both directions -/

/-- **Reading and writing are inverse.**  What well-formed records are written as reads back as
these records; whatever a content holds, it reads as well-formed records; so reading, writing and
reading again is the same as reading once. -/
theorem read_render_inverse :
    (∀ rs : List Record, (∀ r ∈ rs, r.WellFormed) → Record.readAll (Record.renderAll rs) = rs) ∧
      ∀ content : Text, (∀ r ∈ Record.readAll content, r.WellFormed) ∧
        Record.readAll (Record.renderAll (Record.readAll content)) = Record.readAll content := by
  refine ⟨fun rs h => readAll_renderAll h, fun content => ⟨fun r h => ?_, ?_⟩⟩
  · exact wellFormed_of_mem_readAll h
  · exact readAll_renderAll fun r h => wellFormed_of_mem_readAll h

/-- A label with a CR inside, body lines that end in CR or look almost like markers, a blank line
inside the body, and a record without a body. -/
theorem read_render_inverse_pair :
    ∃ rs : List Record,
      rs = [⟨"a\rb".toList, ['x'], ["#t".toList, [], " #g=\r".toList, "y\r".toList]⟩,
        ⟨['c'], "#t=".toList, []⟩] ∧
      (∀ r ∈ rs, r.WellFormed) ∧ Record.readAll (Record.renderAll rs) = rs := by
  have h : ∀ r ∈
      [(⟨"a\rb".toList, ['x'], ["#t".toList, [], " #g=\r".toList, "y\r".toList]⟩ : Record),
        ⟨['c'], "#t=".toList, []⟩], r.WellFormed := by
    intro r hr
    rcases List.mem_cons.1 hr with rfl | hr
    · constructor <;> decide
    · obtain rfl := List.mem_singleton.1 hr
      constructor <;> decide
  exact ⟨_, rfl, h, read_render_inverse.1 _ h⟩

end SnippetServer.Snippet
