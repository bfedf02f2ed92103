import SnippetServer.Proofs.Compiler.Output
import SnippetServer.Proofs.Text.Decoding
import Mathlib.Data.List.Induction

namespace SnippetServer.Compiler

/-!
# Nothing that is printed is lost

Lines are decoded one by one, as soon as they are complete.  An LF ends whatever is unfinished
before it and is part of no other character, so this gives the text of the whole stream, and its
lines.

* `textLines` — the lines of a text that has been decoded as a whole;
* `linesOf_eq_textLines` — they are the lines of the stream;
* `DecodesByLine stream` — what decoding line by line gives;
* `ForwardsAll events` — what arrives of the two streams of a process;
* `forwards_every_line` — both, for every stream and for all processes.
-/

/-- The lines of a text.  What stands after the last LF is a line if it is not empty, and every CR
at the end of a line is left out. -/
def textLines (t : Text) : List Text :=
  match Text.cutAt '\n' t with
  | (done, rest) =>
    (done ++ if rest.isEmpty then [] else [rest]).map (dropTrailing (· == '\r'))

/-- The lines of a text, with the two parts of the cut by themselves. -/
theorem textLines_eq (t : Text) : textLines t =
    ((Text.cutAt '\n' t).1 ++ if (Text.cutAt '\n' t).2.isEmpty then [] else
      [(Text.cutAt '\n' t).2]).map (dropTrailing (· == '\r')) := rfl

/-- LF is an ASCII character. -/
theorem lineFeed_isAscii : lineFeed.toNat < 0x80 := by decide

/-- Cutting a stream at LFs cuts its text. -/
theorem cutAt_decodeLossy (stream : Bytes) :
    Text.cutAt '\n' (Text.decodeLossy stream) =
      ((Text.cutAt lineFeed stream).1.map Text.decodeLossy,
        Text.decodeLossy (Text.cutAt lineFeed stream).2) :=
  Text.cutAt_decodeLossy lineFeed_isAscii stream

/-- The lines of a stream are those of its text. -/
theorem linesOf_eq_textLines (stream : Bytes) :
    linesOf stream = textLines (Text.decodeLossy stream) := by
  -- the rest is a line on both sides, or on neither
  have hrest : (Text.decodeLossy (Text.cutAt lineFeed stream).2).isEmpty =
      (Text.cutAt lineFeed stream).2.isEmpty := by
    rw [Bool.eq_iff_iff, List.isEmpty_iff, List.isEmpty_iff, Text.decodeLossy_eq_nil_iff]
  rw [linesOf_eq, textLines_eq, cutAt_decodeLossy, List.map_append, List.map_map, hrest, lastLine]
  congr 1
  split <;> rfl

/-- A piece and its LF are read apart. -/
theorem decodeLossy_piece (piece : Bytes) :
    Text.decodeLossy (piece ++ [lineFeed]) = Text.decodeLossy piece ++ ['\n'] :=
  Text.decodeLossy_append_ascii lineFeed_isAscii piece []

/-- Every piece of a stream up to an LF can be decoded on its own. -/
theorem decodeLossy_by_line (stream : Bytes) :
    Text.decodeLossy stream =
      ((Text.cutAt lineFeed stream).1.flatMap fun piece =>
        Text.decodeLossy (piece ++ [lineFeed])) ++
        Text.decodeLossy (Text.cutAt lineFeed stream).2 := by
  have hjoin := Text.cutAt_join '\n' (Text.decodeLossy stream)
  rw [cutAt_decodeLossy, List.flatMap_map] at hjoin
  simp only [decodeLossy_piece]
  exact hjoin.symm

/-- What is dropped at an end depends on the elements that are there only. -/
theorem dropTrailing_congr {α : Type _} {p q : α → Bool} {xs : List α}
    (h : ∀ a ∈ xs, p a = q a) : dropTrailing p xs = dropTrailing q xs := by
  induction xs using List.reverseRecOn with
  | nil => rfl
  | append_singleton xs a ih =>
    rw [dropTrailing_concat, dropTrailing_concat, h a (by simp),
      ih fun b hb => h b (List.mem_append_left _ hb)]

/-- A line can be decoded with its LF, and both CRs and LFs left out at its end. -/
theorem lineText_eq {piece : Bytes} (h : lineFeed ∉ piece) :
    lineText piece =
      dropTrailing (fun c => c == '\r' || c == '\n') (Text.decodeLossy (piece ++ [lineFeed])) := by
  -- the text of the piece holds no LF, so only CRs are left out of it
  have hnot : '\n' ∉ Text.decodeLossy piece := fun hmem =>
    h (Text.mem_of_mem_decodeLossy lineFeed_isAscii hmem)
  rw [decodeLossy_piece, dropTrailing_concat, if_pos (by decide), lineText]
  refine dropTrailing_congr fun c hc => ?_
  have hne : c ≠ '\n' := fun heq => hnot (heq ▸ hc)
  simp [hne]

/-- Decoding a stream line by line: its text is the one that it is read as, with U+FFFD for each run
of bytes that is lost, and its lines are those of that text. -/
structure DecodesByLine (stream : Bytes) : Prop where
  /-- The stream is read as this text, and as no other one. -/
  reads : ∀ t, Text.ReadsAs stream t ↔ Text.decodeLossy stream = t
  /-- The text is put together from those of the pieces up to each LF. -/
  text_eq : Text.decodeLossy stream =
    (Text.cutAt lineFeed stream).1.flatMap (fun piece => Text.decodeLossy (piece ++ [lineFeed])) ++
      Text.decodeLossy (Text.cutAt lineFeed stream).2
  /-- The line of a piece is its text up to the LF, without the CRs before it. -/
  line_eq : ∀ piece ∈ (Text.cutAt lineFeed stream).1, lineText piece =
    dropTrailing (fun c => c == '\r' || c == '\n') (Text.decodeLossy (piece ++ [lineFeed]))
  /-- The lines of the pieces are those of the text. -/
  lines_eq : linesOf stream = textLines (Text.decodeLossy stream)

/-- What arrives of the two streams of a process. -/
structure ForwardsAll (events : List PipeEvent) : Prop where
  /-- The lines of both streams are mixed; none is lost, and none comes twice. -/
  mixed : Interleaves (textLines (Text.decodeLossy (written .out events)))
    (textLines (Text.decodeLossy (written .err events))) (forward events)
  /-- If only one pipe is written on, its lines are all that arrives. -/
  alone : ∀ pipe, (∀ other, other ≠ pipe → written other events = []) →
    forward events = textLines (Text.decodeLossy (written pipe events))

/-- From pipes on which nothing is written after they are closed every line arrives. -/
theorem forwardsAll_of_staysClosed {events : List PipeEvent} (h : StaysClosed events) :
    ForwardsAll events := by
  have hmixed := interleaves_forward h
  refine ⟨by rwa [linesOf_eq_textLines, linesOf_eq_textLines] at hmixed, fun pipe hother => ?_⟩
  rw [← linesOf_eq_textLines]
  cases pipe with
  -- with nothing on the other pipe, the mixture is the one list
  | out =>
    rw [hother .err (by decide)] at hmixed
    exact hmixed.eq_of_right_nil
  | err =>
    rw [hother .out (by decide)] at hmixed
    exact hmixed.symm.eq_of_right_nil

/-- **Nothing that is printed is lost.**  Every stream has one text, which is the same whether it is
decoded as a whole or line by line.  The lines that arrive from a process are the lines of the texts
of its two streams, mixed. -/
theorem forwards_every_line :
    (∀ stream, DecodesByLine stream) ∧
      ∀ events, StaysClosed events → ForwardsAll events := by
  refine ⟨fun stream => ?_, fun events h => forwardsAll_of_staysClosed h⟩
  exact ⟨fun _ => Text.readsAs_iff, decodeLossy_by_line stream,
    fun piece hpiece => lineText_eq ((Text.not_mem_cutAt lineFeed stream).1 piece hpiece),
    linesOf_eq_textLines stream⟩

namespace BrokenOutput

/-- A character that an LF breaks off, CRs before an LF, and a last line without one; the writes end
anywhere. -/
def events : List PipeEvent :=
  [.wrote .out [0xE4, 0xBD], .wrote .err [0x78, 0x0D], .wrote .out [0x0A, 0xA0, 0x0A, 0xE4],
    .wrote .err [0x0D, 0x0A], .closed .err, .wrote .out [0xBD, 0xA0], .closed .out]

end BrokenOutput

open BrokenOutput in
/-- Each part of the broken character is a loss in its own line. -/
theorem forwards_every_line_broken :
    StaysClosed events ∧ ForwardsAll events ∧
      written .out events = [0xE4, 0xBD, 0x0A, 0xA0, 0x0A, 0xE4, 0xBD, 0xA0] ∧
      DecodesByLine (written .out events) ∧
      Text.decodeLossy (written .out events) = ['\ufffd', '\n', '\ufffd', '\n', '你'] ∧
      forward events = [['\ufffd'], ['\ufffd'], ['x'], ['你']] := by
  have hclosed : StaysClosed events := by
    simp [StaysClosed, events]
  exact ⟨hclosed, forwards_every_line.2 events hclosed, by decide,
    forwards_every_line.1 (written .out events), by decide, by decide⟩

end SnippetServer.Compiler
