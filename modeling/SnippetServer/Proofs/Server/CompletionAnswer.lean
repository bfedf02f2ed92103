import SnippetServer.Proofs.Server.ServedIndex

namespace SnippetServer.Server

open Snippet Compiler

/-!
# Completion answers from the current text

A completion request is answered from the current text of its document and from the index that is
served.  Of everything that has been told, only what is about this document counts, and of that only
what came with its latest opening or closing, or after it.

* `lastCycle uri notices` — what has been told about a document since it was last opened or closed;
* `currentText?_lastCycle` — nothing else decides its text;
* `AnswersFrom turns uri p reply` — a reply that fits what has happened before;
* `completion_answers_from` — every completion request gets such a reply, and the same one after
  every run in which as much is alike.
-/

/-! ### The latest cycle of a document -/

/-- What has been told about a document, from its latest opening or closing on. -/
def lastCycle (uri : Uri) (notices : List Notice) : List Notice :=
  notices.foldl
    (fun cycle n =>
      if (n.opened? uri).isSome || n.closes uri then [n]
      else if n.document? = some uri then cycle ++ [n]
      else cycle)
    []

/-- **Step.**  A notice begins a new cycle, or it belongs to the latest one, or it is about
something else. -/
theorem lastCycle_concat (uri : Uri) (notices : List Notice) (n : Notice) :
    lastCycle uri (notices ++ [n]) =
      if (n.opened? uri).isSome || n.closes uri then [n]
      else if n.document? = some uri then lastCycle uri notices ++ [n]
      else lastCycle uri notices := by
  rw [lastCycle, List.foldl_append]
  rfl

namespace Notice

/-- A notice that opens a document or closes it decides its text alone. -/
theorem textAfter?_of_boundary {uri : Uri} {n : Notice}
    (h : ((n.opened? uri).isSome || n.closes uri) = true) (text? : Option Text) :
    n.textAfter? uri text? = n.textAfter? uri none := by
  cases n with
  | didOpen u text =>
    by_cases hu : u = uri
    · rw [textAfter?, textAfter?, if_pos hu, if_pos hu]
    · simp [opened?, closes, hu] at h
  | didClose u =>
    by_cases hu : u = uri
    · rw [textAfter?, textAfter?, if_pos hu, if_pos hu]
    · simp [opened?, closes, hu] at h
  | _ => simp [opened?, closes] at h

/-- A notice about something else leaves the text of a document as it is. -/
theorem textAfter?_of_other {uri : Uri} {n : Notice} (h : n.document? ≠ some uri)
    (text? : Option Text) : n.textAfter? uri text? = text? := by
  cases n with
  | didOpen u text =>
    have hu : u ≠ uri := fun hu => h (congrArg some hu)
    rw [textAfter?, if_neg hu]
  | didChange u texts =>
    have hu : u ≠ uri := fun hu => h (congrArg some hu)
    rw [textAfter?, if_neg hu]
  | didClose u =>
    have hu : u ≠ uri := fun hu => h (congrArg some hu)
    rw [textAfter?, if_neg hu]
  | _ => rfl

end Notice

/-- The latest cycle decides the text of a document. -/
theorem currentText?_lastCycle (uri : Uri) (notices : List Notice) :
    currentText? uri (lastCycle uri notices) = currentText? uri notices := by
  -- the cycle and the text both take the latest notice last
  induction notices using List.reverseRecOn with
  | nil => rfl
  | append_singleton notices n ih =>
    rw [lastCycle_concat, currentText?_concat]
    by_cases hboundary : (n.opened? uri).isSome || n.closes uri
    · -- a new cycle begins
      rw [if_pos hboundary, Notice.textAfter?_of_boundary hboundary]
      exact currentText?_concat uri [] n
    rw [if_neg hboundary]
    by_cases habout : n.document? = some uri
    · rw [if_pos habout, currentText?_concat, ih]
    · rw [if_neg habout, ih, Notice.textAfter?_of_other habout]

/-! ### Answers -/

/-- What has happened before fits a reply to a completion request: the request is answered by
nothing if the document is not open, and otherwise by the items at the position in a new document
with the current text, from the index that has been read last. -/
structure AnswersFrom (turns : List Turn) (uri : Uri) (p : Position) (reply : Reply) : Prop where
  /-- The answer is nothing exactly if the document is not open. -/
  nothing_iff : reply = .result .nothing ↔ currentText? uri (told turns) = none
  /-- The items for the current text. -/
  items_eq : ∀ text, currentText? uri (told turns) = some text →
    reply = .result (.items (Completion.itemsAt (lastLoaded turns) (.ofText text) p))

/-- The answer that has been read off what has happened fits it. -/
theorem answersFrom_completionAnswer (turns : List Turn) (uri : Uri) (p : Position) :
    AnswersFrom turns uri p (.result (completionAnswer turns uri p)) := by
  cases htext : currentText? uri (told turns) with
  | none =>
    rw [completionAnswer, htext]
    exact ⟨iff_of_true rfl htext, fun text h => by simp [htext] at h⟩
  | some text =>
    rw [completionAnswer, htext]
    refine ⟨iff_of_false (by simp) (by simp [htext]), fun text' h => ?_⟩
    rw [Option.some.inj (htext.symm.trans h)]

/-- After any run a completion request is answered from the current text of its document and the
index that has been read last.  After another run in which this index is the same, and the latest
cycle of the document gives it the same text, the answer is the same, whatever else has happened. -/
theorem completion_answers_from (settings : Settings) (traces : Bool) (events : List Event)
    (event : Event) (uri : Uri) (p : Position)
    (h : (Turn.mk ((Session.new settings traces).run events) event).request? =
      some (.completion uri p)) :
    AnswersFrom ((Session.new settings traces).turns events) uri p
        (Turn.mk ((Session.new settings traces).run events) event).reply ∧
      ∀ settings' traces' events' event',
        (Turn.mk ((Session.new settings' traces').run events') event').request? =
          some (.completion uri p) →
        lastLoaded ((Session.new settings' traces').turns events') =
          lastLoaded ((Session.new settings traces).turns events) →
        currentText? uri (lastCycle uri (told ((Session.new settings' traces').turns events'))) =
          currentText? uri (lastCycle uri (told ((Session.new settings traces).turns events))) →
        (Turn.mk ((Session.new settings' traces').run events') event').reply =
          (Turn.mk ((Session.new settings traces).run events) event).reply := by
  rw [completion_run settings traces events h]
  refine ⟨answersFrom_completionAnswer _ uri p, ?_⟩
  -- the other run decides its answer in the same way, from the same index and the same text
  intro settings' traces' events' event' h' hindex htext
  rw [currentText?_lastCycle, currentText?_lastCycle] at htext
  rw [completion_run settings' traces' events' h', completionAnswer, completionAnswer, htext,
    hindex]

namespace Reopened

open FirstFile

/-- A document is opened and closed, opened again and changed. -/
def twice : List Event :=
  [.start filled .null, .didOpen bare "a:b".toList ['x'], .didClose bare "a:b".toList,
    .didOpen bare "a:b".toList ['y'], .didChange bare "a:b".toList [['z'], ['a']]]

/-- The document is opened with the text that it has in the end. -/
def once : List Event := [.start filled .null, .didOpen bare "a:b".toList ['a']]

end Reopened

open FirstFile Reopened in
/-- The text of the latest change is completed, as if there had been no other text. -/
theorem completion_answers_from_reopened :
    (Turn.mk (server.run twice) last).request? = some (.completion uri ⟨0, 1⟩) ∧
      (∃ items, (Turn.mk (server.run twice) last).reply = .result (.items items) ∧
        items.length = 1) ∧
      (Turn.mk (server.run once) last).reply = (Turn.mk (server.run twice) last).reply := by
  have hlast : (Turn.mk (server.run twice) last).request? = some (.completion uri ⟨0, 1⟩) := by
    rfl
  have hlast' : (Turn.mk (server.run once) last).request? = some (.completion uri ⟨0, 1⟩) := by
    rfl
  have htext : currentText? uri (told (server.turns twice)) = some ['a'] := rfl
  have hsize : (lastLoaded (server.turns twice)).size = 1 := size_load_filled
  have hindex : lastLoaded (server.turns once) = lastLoaded (server.turns twice) := by
    rfl
  have hcycle : currentText? uri (lastCycle uri (told (server.turns once))) =
      currentText? uri (lastCycle uri (told (server.turns twice))) := rfl
  obtain ⟨hanswer, hsame⟩ := completion_answers_from _ _ twice last uri ⟨0, 1⟩ hlast
  refine ⟨hlast, ⟨_, hanswer.items_eq ['a'] htext, ?_⟩, hsame _ _ once last hlast' hindex hcycle⟩
  rw [Completion.length_itemsAt]
  exact hsize

end SnippetServer.Server
