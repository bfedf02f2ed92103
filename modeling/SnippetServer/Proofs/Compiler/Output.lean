import SnippetServer.Compiler.Output
import SnippetServer.Proofs.Text.Lines

namespace SnippetServer.Compiler

/-!
# The lines of two pipes

What arrives on the two pipes of a process becomes lines one by one.  Each pipe gives the lines of
all that is written on it, in their order, and the lines of the two pipes are mixed as they come.

* `Interleaves xs ys zs` — a mixture of two lists;
* `written pipe events` — all that is written on a pipe;
* `StaysClosed events` — nothing is written on a pipe that is closed;
* `interleaves_forward` — the lines of a run are a mixture of the lines of its two pipes.
-/

/-! ### Mixtures of two lists -/

/-- The third list holds the elements of the other two, each of them in its own order. -/
inductive Interleaves {α : Type _} : List α → List α → List α → Prop where
  /-- Nothing is left of either list. -/
  | nil : Interleaves [] [] []
  /-- The next element comes from the first list. -/
  | left {xs ys zs : List α} (x : α) : Interleaves xs ys zs → Interleaves (x :: xs) ys (x :: zs)
  /-- The next element comes from the second list. -/
  | right {xs ys zs : List α} (y : α) : Interleaves xs ys zs → Interleaves xs (y :: ys) (y :: zs)

namespace Interleaves

variable {α : Type _} {xs ys zs : List α}

/-- More of the first list may come first. -/
theorem append_left (front : List α) (h : Interleaves xs ys zs) :
    Interleaves (front ++ xs) ys (front ++ zs) := by
  induction front with
  | nil => exact h
  | cons x front ih => exact .left x ih

/-- More of the second list may come first. -/
theorem append_right (front : List α) (h : Interleaves xs ys zs) :
    Interleaves xs (front ++ ys) (front ++ zs) := by
  induction front with
  | nil => exact h
  | cons y front ih => exact .right y ih

/-- In a mixture neither list is the first one. -/
theorem symm (h : Interleaves xs ys zs) : Interleaves ys xs zs := by
  induction h with
  | nil => exact .nil
  | left x _ ih => exact .right x ih
  | right y _ ih => exact .left y ih

/-- With nothing, a list is mixed to itself. -/
theorem eq_of_right_nil (h : Interleaves xs [] zs) : zs = xs := by
  -- the induction asks for a variable in the place of the empty list
  generalize hys : ([] : List α) = ys at h
  induction h with
  | nil => rfl
  | left x _ ih => rw [ih hys]
  | right y _ _ => cases hys

end Interleaves

/-! ### What is written on a pipe -/

/-- All that is written on a pipe. -/
def written (pipe : Pipe) : List PipeEvent → Bytes
  | [] => []
  | .wrote p bytes :: events => (if p = pipe then bytes else []) ++ written pipe events
  | .closed _ :: events => written pipe events

/-- Nothing is written on a pipe after it has been closed. -/
def StaysClosed (events : List PipeEvent) : Prop :=
  events.Pairwise fun e later => ∀ pipe bytes, e = .closed pipe → later ≠ .wrote pipe bytes

/-- Nothing is written on a pipe that never is written on. -/
theorem written_eq_nil {pipe : Pipe} {events : List PipeEvent}
    (h : ∀ e ∈ events, ∀ bytes, e ≠ .wrote pipe bytes) : written pipe events = [] := by
  induction events with
  | nil => rfl
  | cons e events ih =>
    have hrest := ih fun e he => h e (List.mem_cons_of_mem _ he)
    cases e with
    | wrote p bytes =>
      have hp : p ≠ pipe := fun hp => h _ List.mem_cons_self bytes (hp ▸ rfl)
      rw [written, if_neg hp, hrest]
      rfl
    | closed p => rw [written, hrest]

/-- Nothing comes from a pipe that has been closed. -/
theorem StaysClosed.written_eq_nil {pipe : Pipe} {events : List PipeEvent}
    (h : StaysClosed (.closed pipe :: events)) : written pipe events = [] :=
  Compiler.written_eq_nil fun e he bytes => (List.pairwise_cons.1 h).1 e he pipe bytes rfl

/-! ### The lines of both pipes -/

/-- The lines of a stream, with the two parts of the cut by themselves. -/
theorem linesOf_eq (stream : Bytes) :
    linesOf stream = (Text.cutAt lineFeed stream).1.map lineText ++
      lastLine (Text.cutAt lineFeed stream).2 := rfl

/-- The lines of a stream are those that are complete, and those of the rest with what follows. -/
theorem linesOf_append (stream more : Bytes) :
    linesOf (stream ++ more) =
      (Text.cutAt lineFeed stream).1.map lineText ++
        linesOf ((Text.cutAt lineFeed stream).2 ++ more) := by
  rw [linesOf_eq, Text.cutAt_append, List.map_append, List.append_assoc, ← linesOf_eq]

/-- What holds no LF is at most one line. -/
theorem linesOf_of_not_mem {rest : Bytes} (h : lineFeed ∉ rest) : linesOf rest = lastLine rest := by
  rw [linesOf_eq, Text.cutAt_of_not_mem h]
  rfl

/-- The invariant of forwarding: what is left on either pipe holds no LF, and the lines to come are
a mixture of the lines that either pipe makes of it and of what is written on it later. -/
theorem interleaves_forwardFrom {events : List PipeEvent} (h : StaysClosed events) {out err : Bytes}
    (hout : lineFeed ∉ out) (herr : lineFeed ∉ err) :
    Interleaves (linesOf (out ++ written .out events)) (linesOf (err ++ written .err events))
      (forwardFrom out err events) := by
  -- what is left on the pipes changes with every event
  induction events generalizing out err with
  | nil =>
    rw [written, written, List.append_nil, List.append_nil, linesOf_of_not_mem hout,
      linesOf_of_not_mem herr, forwardFrom]
    simpa using (Interleaves.nil.append_right (lastLine err)).append_left (lastLine out)
  | cons e events ih =>
    have hrest : StaysClosed events := (List.pairwise_cons.1 h).2
    cases e with
    | wrote pipe bytes =>
      cases pipe with
      | out =>
        have hleft := (Text.not_mem_cutAt lineFeed (out ++ bytes)).2
        rw [written, written, if_pos rfl, if_neg (by decide), List.nil_append, ← List.append_assoc,
          linesOf_append, forwardFrom]
        exact (ih hrest hleft herr).append_left _
      | err =>
        have hleft := (Text.not_mem_cutAt lineFeed (err ++ bytes)).2
        rw [written, written, if_neg (by decide), if_pos rfl, List.nil_append, ← List.append_assoc,
          linesOf_append (err ++ bytes), forwardFrom]
        exact (ih hrest hout hleft).append_right _
    | closed pipe =>
      -- nothing follows on the pipe, so what is left on it is its last line
      have hnone := h.written_eq_nil
      cases pipe with
      | out =>
        have ih := ih hrest (List.not_mem_nil (a := lineFeed)) herr
        rw [hnone] at ih
        rw [written, written, hnone, List.append_nil, linesOf_of_not_mem hout, forwardFrom]
        simpa using ih.append_left (lastLine out)
      | err =>
        have ih := ih hrest hout (List.not_mem_nil (a := lineFeed))
        rw [hnone] at ih
        rw [written, written, hnone, List.append_nil, linesOf_of_not_mem herr, forwardFrom]
        simpa using ih.append_right (lastLine err)

/-- The lines of a run are a mixture of the lines of its two pipes. -/
theorem interleaves_forward {events : List PipeEvent} (h : StaysClosed events) :
    Interleaves (linesOf (written .out events)) (linesOf (written .err events)) (forward events) :=
  interleaves_forwardFrom h List.not_mem_nil List.not_mem_nil

end SnippetServer.Compiler
