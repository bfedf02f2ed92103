import SnippetServer.Proofs.Snippet.RoundTrip
import SnippetServer.Proofs.Snippet.Summary
import Mathlib.Data.List.Find

namespace SnippetServer.Snippet

/-!
# Bodies as texts and as lines

An index looks its entries up by the body as one text, the lines joined by LF.  Joining does not
tell every list of lines from every other: no line and one empty line give the same text, and so do
two lines and one line with an LF inside.  The lines that reading gives are never of that kind,
since they hold no LF and the last one is not blank.

* `Record.WellFormed.splitOn_bodyText` — splitting a body text at its LFs gives the lines back;
* `bodyText_eq_iff` — the text of a body tells its lines;
* `Index.KeyedByLines rs index` — the index of records with the lines in the place of the text;
* `body_text_faithful` — this for whatever is read.
-/

/-! ### Splitting what has been joined -/

namespace Record.WellFormed

variable {r r' : Record}

/-- No line of a body holds an LF, so the text is split where the lines were joined. -/
theorem splitOn_bodyText (h : r.WellFormed) (hne : r.body ≠ []) :
    r.bodyText.splitOn '\n' = r.body := by
  rw [bodyText, Text.joinWith_eq_intercalate]
  exact List.splitOn_intercalate '\n' h.body_line hne

/-- Only a body without lines has the empty text. -/
theorem bodyText_eq_nil_iff (h : r.WellFormed) : r.bodyText = [] ↔ r.body = [] := by
  constructor
  · intro hnil
    by_contra hne
    -- otherwise its only line would be the empty one, which is blank
    have hsplit := h.splitOn_bodyText hne
    rw [hnil] at hsplit
    have hlast : [] ∈ r.body.getLast? := by
      rw [← hsplit]
      rfl
    exact absurd (h.body_end [] hlast) (by decide)
  · intro hnil
    rw [bodyText, hnil]
    rfl

/-- **Faithful.**  The text of a body tells its lines. -/
theorem bodyText_eq_iff (h : r.WellFormed) (h' : r'.WellFormed) :
    r.bodyText = r'.bodyText ↔ r.body = r'.body := by
  constructor
  · intro heq
    by_cases hne : r.body = []
    · -- without lines the text is empty, and so is that of the other one
      rw [hne, eq_comm, ← h'.bodyText_eq_nil_iff, ← heq]
      exact h.bodyText_eq_nil_iff.2 hne
    · have hne' : r'.body ≠ [] := by
        rwa [Ne, ← h'.bodyText_eq_nil_iff, ← heq, h.bodyText_eq_nil_iff]
      -- both are what the common text is split into
      calc r.body = r.bodyText.splitOn '\n' := (h.splitOn_bodyText hne).symm
        _ = r'.bodyText.splitOn '\n' := by rw [heq]
        _ = r'.body := h'.splitOn_bodyText hne'
  · intro heq
    rw [bodyText, heq, bodyText]

end Record.WellFormed

/-! ### Looking up by lines -/

/-- Elements that a function tells apart are repeated exactly where their images are. -/
theorem eraseDups_map {α β : Type _} [BEq α] [LawfulBEq α] [BEq β] [LawfulBEq β] {f : α → β}
    {l : List α} (h : ∀ a ∈ l, ∀ b ∈ l, f a = f b → a = b) :
    (l.map f).eraseDups = l.eraseDups.map f := by
  induction l using List.reverseRecOn with
  | nil => rfl
  | append_singleton l a ih =>
    have hl : ∀ b ∈ l, ∀ c ∈ l, f b = f c → b = c := fun b hb c hc =>
      h b (List.mem_append_left _ hb) c (List.mem_append_left _ hc)
    -- the image has been met exactly if the element has
    have hmem : f a ∈ l.eraseDups.map f ↔ a ∈ l.eraseDups := by
      constructor
      · intro hfa
        obtain ⟨b, hb, hba⟩ := List.mem_map.1 hfa
        have hbl : b ∈ l := List.mem_eraseDups.1 hb
        rwa [← h b (List.mem_append_left _ hbl) a (by simp) hba]
      · exact List.mem_map_of_mem
    rw [List.map_append, List.map_singleton, eraseDups_concat, eraseDups_concat, ih hl]
    by_cases ha : a ∈ l.eraseDups
    · rw [if_pos (hmem.2 ha), if_pos ha]
    · rw [if_neg fun hfa => ha (hmem.1 hfa), if_neg ha, List.map_append, List.map_singleton]

namespace Index

/-- What an index says about the lines of records. -/
structure KeyedByLines (rs : List Record) (index : Index) : Prop where
  /-- There is one key for every distinct list of lines, in the order in which these are first
  met. -/
  keys_eq : index.slots.map Prod.fst = (rs.map Record.body).eraseDups.map (Text.joinWith ['\n'])
  /-- A record is found under its body.  The first record with the same lines gives the label, and
  all of them give their triggers. -/
  found : ∀ r ∈ rs, ∃ e, index.get? r.bodyText = some e ∧ e.body = r.bodyText ∧
    (∃ first, (rs.find? fun r' => r'.body = r.body) = some first ∧ e.label = first.label) ∧
    e.triggers = ((rs.filter fun r' => r'.body = r.body).map Record.trigger).eraseDups
  /-- Two records share an entry exactly if they have the same lines. -/
  merged_iff : ∀ r ∈ rs, ∀ r' ∈ rs,
    index.get? r.bodyText = index.get? r'.bodyText ↔ r.body = r'.body
  /-- Every entry comes from a record. -/
  exists_record : ∀ e ∈ index.entries, ∃ r ∈ rs, r.bodyText = e.body
  /-- A body that is not empty is split into the lines of the records that have it. -/
  split_eq : ∀ e ∈ index.entries, e.body ≠ [] → ∀ r ∈ rs, r.bodyText = e.body →
    e.body.splitOn '\n' = r.body

variable {rs : List Record}

/-- A record stands under its body, with all records that have the same lines. -/
theorem exists_get?_ofRecords (h : ∀ r ∈ rs, r.WellFormed) {r : Record} (hr : r ∈ rs) :
    ∃ e, (ofRecords rs).get? r.bodyText = some e ∧ e.body = r.bodyText ∧
      (∃ first, (rs.find? fun r' => r'.body = r.body) = some first ∧ e.label = first.label) ∧
      e.triggers = ((rs.filter fun r' => r'.body = r.body).map Record.trigger).eraseDups := by
  have hsum := summarizes_ofRecords rs
  cases he : (ofRecords rs).get? r.bodyText with
  | none => exact absurd rfl ((hsum.get?_eq_none _).1 he r hr)
  | some e =>
    obtain ⟨hmem, hbody⟩ := (hsum.get?_eq_some _ _).1 he
    -- the records with the text of this body are those with its lines
    have hsame : ∀ r' ∈ rs, decide (r'.bodyText = e.body) = decide (r'.body = r.body) := by
      intro r' hr'
      rw [hbody, decide_eq_decide]
      exact (h r' hr').bodyText_eq_iff (h r hr)
    obtain ⟨first, hfirst, hlabel⟩ := hsum.label_eq e hmem
    have htriggers := hsum.triggers_eq e hmem
    rw [List.find?_congr hsame] at hfirst
    rw [List.filter_congr hsame] at htriggers
    exact ⟨e, rfl, hbody, ⟨first, hfirst, hlabel⟩, htriggers⟩

/-- The index of well-formed records can be read with their lines in the place of the texts. -/
theorem keyedByLines_ofRecords (h : ∀ r ∈ rs, r.WellFormed) : (ofRecords rs).KeyedByLines rs where
  keys_eq := by
    have hmap : rs.map Record.bodyText = (rs.map Record.body).map (Text.joinWith ['\n']) := by
      rw [List.map_map]
      rfl
    rw [(summarizes_ofRecords rs).keys_eq, hmap]
    refine eraseDups_map ?_
    intro lines hlines lines' hlines' heq
    obtain ⟨r, hr, rfl⟩ := List.mem_map.1 hlines
    obtain ⟨r', hr', rfl⟩ := List.mem_map.1 hlines'
    exact ((h r hr).bodyText_eq_iff (h r' hr')).1 heq
  found := fun _ hr => exists_get?_ofRecords h hr
  merged_iff := by
    intro r hr r' hr'
    constructor
    · intro hget
      obtain ⟨e, he, hbody, -⟩ := exists_get?_ofRecords h hr
      obtain ⟨e', he', hbody', -⟩ := exists_get?_ofRecords h hr'
      rw [he, he'] at hget
      obtain rfl := Option.some.inj hget
      exact ((h r hr).bodyText_eq_iff (h r' hr')).1 (hbody.symm.trans hbody')
    · intro hlines
      rw [((h r hr).bodyText_eq_iff (h r' hr')).2 hlines]
  exists_record := by
    intro e he
    obtain ⟨r, hfirst, -⟩ := (summarizes_ofRecords rs).label_eq e he
    exact ⟨r, List.mem_of_find?_eq_some hfirst, by simpa using List.find?_some hfirst⟩
  split_eq := by
    intro e _ hne r hr hbody
    rw [← hbody] at hne ⊢
    exact (h r hr).splitOn_bodyText fun hnil => hne ((h r hr).bodyText_eq_nil_iff.2 hnil)

end Index

/-- **Bodies are told apart by their lines.**  Records that are read, from whatever contents, have
one body text exactly if they have the same lines.  So an index merges records exactly if they agree
line by line, and every body that is not empty falls apart into the lines of its records. -/
theorem body_text_faithful :
    (∀ content content' : Text, ∀ r ∈ Record.readAll content, ∀ r' ∈ Record.readAll content',
      (r.bodyText = r'.bodyText ↔ r.body = r'.body)) ∧
    ∀ (order : List Text) (files : List File),
      (Index.build order files).KeyedByLines (Index.recordsOf order files) := by
  constructor
  · intro content content' r hr r' hr'
    exact (wellFormed_of_mem_readAll hr).bodyText_eq_iff (wellFormed_of_mem_readAll hr')
  · intro order files
    refine Index.keyedByLines_ofRecords fun r hr => ?_
    obtain ⟨f, -, hf⟩ := Index.mem_recordsOf.1 hr
    exact wellFormed_of_mem_readAll hf

/-- A body that begins with an empty line and is followed by blank lines, and the same one with CR
LF and without them. -/
theorem body_text_faithful_blank_lines :
    ∃ r ∈ Record.readAll "#t=A\n#g=a\n\nx\n \n\n".toList,
    ∃ r' ∈ Record.readAll "\ufeff#t=B\r\n#g=b\r\n\r\nx".toList,
      r.body = [[], ['x']] ∧ r'.bodyText = "\nx".toList ∧
        (r.bodyText = r'.bodyText ↔ r.body = r'.body) := by
  have hr : ⟨['A'], ['a'], [[], ['x']]⟩ ∈
      Record.readAll "#t=A\n#g=a\n\nx\n \n\n".toList := by decide
  have hr' : ⟨['B'], ['b'], [[], ['x']]⟩ ∈
      Record.readAll "\ufeff#t=B\r\n#g=b\r\n\r\nx".toList := by decide
  exact ⟨_, hr, _, hr', rfl, by decide, body_text_faithful.1 _ _ _ hr _ hr'⟩

end SnippetServer.Snippet
