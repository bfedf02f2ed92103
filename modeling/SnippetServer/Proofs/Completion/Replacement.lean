import SnippetServer.Completion.Item
import SnippetServer.Proofs.Completion.Token
import SnippetServer.Proofs.Text.EditorLines
import SnippetServer.Proofs.Text.Units

namespace SnippetServer.Completion

open Snippet
open Text (EditorLine editorLines joinLines CRBeforeLF splitColumn? stopColumn units upToUnit)

/-!
# The edit of a completion item

Three scans decide which columns an item replaces: the text is cut into lines, the line is cut at
the cursor, and the token is read backwards from there.  The editor that carries out the edit makes
the first two cuts in its own way.  Both sides meet at the same characters.

* `Edit.textAfter?` — the text after an edit, as an editor carries it out;
* `IsTypedAt` — how a line falls apart around the token that ends at the cursor;
* `ReplacesToken` — what it means that items replace this token and nothing else;
* `edits_replace_token` — the items at a position do, or there is no such token.
-/

/-! ### Carrying out an edit -/

/-- The text after an edit.  There is none if the line does not exist, if a column falls on no
boundary of its characters, or if the columns stand in the wrong order. -/
def Edit.textAfter? (e : Edit) (text : Text) : Option Text := do
  let lines := editorLines text
  let l ← lines[e.line]?
  let (front, _) ← splitColumn? e.span.start l.content
  let (_, back) ← splitColumn? e.span.stop l.content
  if e.span.start ≤ e.span.stop then
    some (joinLines (lines.take e.line) ++ (front ++ e.newText ++ back ++ l.ending) ++
      joinLines (lines.drop (e.line + 1)))
  else none

/-- An edit between two boundaries of a line keeps what stands around them. -/
theorem Edit.textAfter?_eq {text : Text} {i : Nat} {l : EditorLine}
    (hl : (editorLines text)[i]? = some l) {front token back : Text}
    (hc : l.content = front ++ token ++ back) (newText : Text) :
    (Edit.mk i ⟨units front, units (front ++ token)⟩ newText).textAfter? text =
      some (joinLines ((editorLines text).take i) ++ (front ++ newText ++ back ++ l.ending) ++
        joinLines ((editorLines text).drop (i + 1))) := by
  -- both columns fall on boundaries, where the parts meet
  have hstart : splitColumn? (units front) l.content = some (front, token ++ back) := by
    rw [hc, List.append_assoc]
    exact Text.splitColumn?_append front (token ++ back)
  have hstop : splitColumn? (units (front ++ token)) l.content = some (front ++ token, back) := by
    rw [hc]
    exact Text.splitColumn?_append (front ++ token) back
  have hle : units front ≤ units (front ++ token) := by
    rw [Text.units_append]
    omega
  unfold Edit.textAfter?
  dsimp only
  rw [hl, Option.bind_eq_bind, Option.bind_some, hstart, Option.bind_eq_bind, Option.bind_some,
    hstop, Option.bind_some]
  exact if_pos hle

/-! ### The token at the cursor -/

/-- How a line falls apart into what stands before the token at a cursor, the token, and what
stands after it. -/
structure IsTypedAt (line : Text) (column : Nat) (cls : TokenClass) (front token back : Text) :
    Prop where
  /-- The line is the three together. -/
  line_eq : line = front ++ token ++ back
  /-- The middle one is a whole run of a class. -/
  isToken : IsToken cls front token
  /-- It ends where a cut at the cursor ends. -/
  stop_eq : units (front ++ token) = stopColumn line column

variable {line : Text} {column : Nat} {cls : TokenClass} {front token back : Text}

/-- The token ends where the line is cut, so the line up to the cursor ends in it. -/
theorem IsTypedAt.upToUnit_eq (h : IsTypedAt line column cls front token back) :
    upToUnit column line = front ++ token := by
  obtain ⟨rest, hr⟩ := Text.upToUnit_prefix column line
  -- two prefixes of the line that end at the same column
  have hu : units (upToUnit column line) = units (front ++ token) := by
    rw [Text.units_upToUnit, h.stop_eq]
  exact (Text.append_inj_of_units_eq (hr.trans h.line_eq) hu).1

/-- A token at the end of the line up to the cursor is the one at the cursor. -/
theorem isTypedAt_of_upToUnit_eq (hu : upToUnit column line = front ++ token)
    (ht : IsToken cls front token) : ∃ back, IsTypedAt line column cls front token back := by
  obtain ⟨back, hb⟩ := Text.upToUnit_prefix column line
  refine ⟨back, ?_, ht, ?_⟩
  · rw [← hu, hb]
  · rw [← hu, Text.units_upToUnit]

/-- What is read in front of the cursor is the token at the cursor. -/
theorem atEnd?_upToUnit_eq_some_iff {t : Token} : Token.atEnd? (upToUnit column line) = some t ↔
    ∃ cls front back, IsTypedAt line column cls front t.text back ∧
      t.span = ⟨units front, units (front ++ t.text)⟩ := by
  rw [Token.atEnd?_eq_some_iff]
  constructor
  · rintro ⟨cls, front, hu, ht, hs⟩
    obtain ⟨back, h⟩ := isTypedAt_of_upToUnit_eq hu ht
    exact ⟨cls, front, back, h, hu ▸ hs⟩
  · rintro ⟨cls, front, back, h, hs⟩
    have hu := h.upToUnit_eq
    exact ⟨cls, front, hu, h.isToken, hu.symm ▸ hs⟩

namespace IsTypedAt

/-- A token has a character, and so at least one column. -/
theorem start_lt_stop (h : IsTypedAt line column cls front token back) :
    units front < units (front ++ token) := by
  obtain ⟨c, r, rfl⟩ := List.exists_cons_of_ne_nil h.isToken.ne_nil
  have hc := Text.charUnits_pos c
  rw [Text.units_append, Text.units_cons]
  omega

/-- The token does not begin after the cursor. -/
theorem start_le_cursor (h : IsTypedAt line column cls front token back) :
    units front ≤ min column (units line) := by
  have hlt := h.start_lt_stop
  rw [h.stop_eq, stopColumn] at hlt
  split at hlt
  · -- inside a pair the cut ends one unit after the cursor, and the token begins before that
    rename_i hpair
    have := hpair.lt_units
    omega
  · omega

/-- The token does not end before the cursor, unless the line does. -/
theorem cursor_le_stop (h : IsTypedAt line column cls front token back) :
    min column (units line) ≤ units (front ++ token) := by
  rw [h.stop_eq]
  exact Text.min_le_stopColumn line column

/-- The token ends in the line. -/
theorem stop_le_units (h : IsTypedAt line column cls front token back) :
    units (front ++ token) ≤ units line := by
  rw [h.stop_eq]
  exact Text.stopColumn_le_units line column

end IsTypedAt

/-! ### The items at a position -/

/-- In a text whose lines the editor sees too, the line of a cursor is cut at the cursor. -/
theorem linePrefix?_ofText {text : Text} (hcr : CRBeforeLF text) {p : Position} {l : EditorLine}
    (hl : (editorLines text)[p.line]? = some l) :
    (Document.ofText text).linePrefix? p = some (upToUnit p.character l.content) := by
  rw [Document.linePrefix?, Document.lines_ofText, ← Text.contents_editorLines hcr,
    List.getElem?_map, hl]
  rfl

/-- Every item inserts the body of its entry. -/
theorem map_insertText_itemsAt (index : Index) (d : Document) (p : Position) :
    (itemsAt index d p).map Item.insertText = index.entries.map Entry.body := by
  -- whatever is typed, the body of a candidate is the body of its entry
  rw [itemsAt, completeLine_eq, List.map_map, List.map_map]
  rfl

/-- Every item replaces the token that is read in front of the cursor. -/
theorem edit_of_mem_itemsAt {index : Index} {d : Document} {p : Position} {item : Item}
    (h : item ∈ itemsAt index d p) :
    item.edit = (Token.atEnd? ((d.linePrefix? p).getD [])).map fun t =>
      ⟨p.line, t.span, item.insertText⟩ := by
  obtain ⟨candidate, hc, rfl⟩ := List.mem_map.1 h
  rw [Item.ofCandidate, replacement_of_mem_completeLine hc, Option.map_map]
  rfl

/-- What it means that items replace the token at a cursor of a text and nothing else. -/
structure ReplacesToken (items : List Item) (text : Text) (p : Position) (l : EditorLine)
    (cls : TokenClass) (front token back : Text) : Prop where
  /-- The token at the cursor is the middle one of the three parts of its line. -/
  typed : IsTypedAt l.content p.character cls front token back
  /-- Something is replaced. -/
  start_lt_stop : units front < units (front ++ token)
  /-- It does not begin after the cursor, and not after the end of the line. -/
  start_le_cursor : units front ≤ min p.character (units l.content)
  /-- It does not end before the cursor, or not before the end of the line. -/
  cursor_le_stop : min p.character (units l.content) ≤ units (front ++ token)
  /-- It ends in the line. -/
  stop_le_units : units (front ++ token) ≤ units l.content
  /-- All items replace the columns of the token, on the line of the cursor. -/
  edit_eq : ∀ item ∈ items,
    item.edit = some ⟨p.line, ⟨units front, units (front ++ token)⟩, item.insertText⟩
  /-- The text is the token and what stands around it. -/
  text_eq : text = joinLines ((editorLines text).take p.line) ++
    (front ++ token ++ back ++ l.ending) ++ joinLines ((editorLines text).drop (p.line + 1))
  /-- An edit puts what the item inserts in the place of the token, and keeps the rest. -/
  textAfter_eq : ∀ item ∈ items, ∀ e ∈ item.edit,
    e.textAfter? text = some (joinLines ((editorLines text).take p.line) ++
      (front ++ item.insertText ++ back ++ l.ending) ++
        joinLines ((editorLines text).drop (p.line + 1)))

/-- Items that replace the columns of the token keep what stands around it. -/
theorem IsTypedAt.replacesToken {text : Text} {p : Position} {l : EditorLine}
    (h : IsTypedAt l.content p.character cls front token back)
    (hl : (editorLines text)[p.line]? = some l) {items : List Item}
    (hi : ∀ item ∈ items,
      item.edit = some ⟨p.line, ⟨units front, units (front ++ token)⟩, item.insertText⟩) :
    ReplacesToken items text p l cls front token back where
  typed := h
  start_lt_stop := h.start_lt_stop
  start_le_cursor := h.start_le_cursor
  cursor_le_stop := h.cursor_le_stop
  stop_le_units := h.stop_le_units
  edit_eq := hi
  text_eq := by
    have ht := Text.eq_around_line hl
    rwa [h.line_eq] at ht
  textAfter_eq := by
    intro item hm e he
    rw [hi item hm] at he
    obtain rfl := Option.some.inj he
    exact Edit.textAfter?_eq hl h.line_eq item.insertText

/-- **Completion replaces the token being typed.**  Every item inserts the body of its entry.  If a
token ends at the cursor, all items replace exactly it, and the text stays as it is around it; if
there is none, no item has an edit. -/
theorem edits_replace_token (index : Index) {text : Text} (hcr : CRBeforeLF text) {p : Position}
    {l : EditorLine} (hl : (editorLines text)[p.line]? = some l) :
    (itemsAt index (.ofText text) p).map Item.insertText = index.entries.map Entry.body ∧
    (((¬ ∃ cls front token back, IsTypedAt l.content p.character cls front token back) ∧
        ∀ item ∈ itemsAt index (.ofText text) p, item.edit = none) ∨
      ∃ cls front token back,
        ReplacesToken (itemsAt index (.ofText text) p) text p l cls front token back) := by
  refine ⟨map_insertText_itemsAt index _ p, ?_⟩
  -- whether there is an edit depends on the line up to the cursor only
  have hedit : ∀ item ∈ itemsAt index (.ofText text) p, item.edit =
      (Token.atEnd? (upToUnit p.character l.content)).map fun t =>
        ⟨p.line, t.span, item.insertText⟩ := by
    intro item hm
    rw [edit_of_mem_itemsAt hm, linePrefix?_ofText hcr hl, Option.getD_some]
  cases ht : Token.atEnd? (upToUnit p.character l.content) with
  | none =>
    refine Or.inl ⟨?_, ?_⟩
    · -- a token at the cursor would have been found
      rintro ⟨cls, front, token, back, h⟩
      have hs : Token.atEnd? (upToUnit p.character l.content) =
          some ⟨token, units front, units (front ++ token)⟩ :=
        atEnd?_upToUnit_eq_some_iff.2 ⟨cls, front, back, h, rfl⟩
      rw [ht] at hs
      exact absurd hs (by simp)
    · intro item hm
      rw [hedit item hm, ht, Option.map_none]
  | some t =>
    obtain ⟨cls, front, back, h, hs⟩ := atEnd?_upToUnit_eq_some_iff.1 ht
    refine Or.inr ⟨cls, front, t.text, back, h.replacesToken hl ?_⟩
    intro item hm
    rw [hedit item hm, ht, Option.map_some, hs]

/-- A cursor between the two units of a character: the token takes the whole character. -/
theorem edits_replace_token_pair :
    CRBeforeLF "a\r\nw代𝒜 b\r\n".toList ∧
    (editorLines "a\r\nw代𝒜 b\r\n".toList)[1]? = some ⟨"w代𝒜 b".toList, ['\r', '\n']⟩ ∧
    ∃ cls front token back,
      ReplacesToken
        (itemsAt (.ofRecords [⟨['A'], ['代'], [['X']]⟩]) (.ofText "a\r\nw代𝒜 b\r\n".toList) ⟨1, 3⟩)
        "a\r\nw代𝒜 b\r\n".toList ⟨1, 3⟩ ⟨"w代𝒜 b".toList, ['\r', '\n']⟩ cls front token back := by
  have hcr : CRBeforeLF "a\r\nw代𝒜 b\r\n".toList := by decide
  have hl : (editorLines "a\r\nw代𝒜 b\r\n".toList)[1]? = some ⟨"w代𝒜 b".toList, ['\r', '\n']⟩ := by
    decide
  refine ⟨hcr, hl, (edits_replace_token _ hcr (p := ⟨1, 3⟩) hl).2.resolve_left ?_⟩
  have hclass : ∀ c ∈ ['代', '𝒜'], TokenClass.foreign.Has c :=
    List.forall_mem_cons.2 ⟨by decide, List.forall_mem_singleton.2 (by decide)⟩
  have hfront : ∀ c ∈ ['w'].getLast?, ¬ TokenClass.foreign.Has c := by
    intro c hc
    obtain rfl := Option.some.inj hc
    decide
  have ht : IsTypedAt "w代𝒜 b".toList 3 .foreign ['w'] ['代', '𝒜'] [' ', 'b'] :=
    ⟨rfl, ⟨by decide, hclass, hfront⟩, by decide⟩
  exact fun h => h.1 ⟨_, _, _, _, ht⟩

end SnippetServer.Completion
