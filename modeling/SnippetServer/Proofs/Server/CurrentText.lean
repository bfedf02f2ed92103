import SnippetServer.Proofs.Server.Run

namespace SnippetServer.Server

open Compiler

/-!
# The current text of a document

What has been told about a document decides its text: the latest opening, unless the document has
been closed since, and the latest change after it.  Nothing else does, and in particular nothing
that was told before the latest opening.

* `told` — the notices that a server has handled in its turns;
* `currentText? uri notices` — the text of a document according to these notices, if it is open;
* `document?_run` — after any run a server holds the document of this text, or none.
-/

/-! ### What has been told about a document -/

/-- The notices that a server has handled, in order. -/
def told (turns : List Turn) : List Notice := turns.filterMap Turn.notice?

@[simp] theorem told_nil : told [] = [] := rfl

/-- A turn tells at most one notice, and tells it last. -/
theorem told_concat (turns : List Turn) (t : Turn) :
    told (turns ++ [t]) = told turns ++ t.notice?.toList := by
  rw [told, List.filterMap_append, told]
  cases h : t.notice? <;> simp [h]

namespace Notice

/-- The document that a notice is about. -/
def document? : Notice → Option Uri
  | .didOpen uri _ => some uri
  | .didChange uri _ => some uri
  | .didClose uri => some uri
  | _ => none

/-- The text with which a notice opens the document. -/
def opened? (uri : Uri) : Notice → Option Text
  | .didOpen u text => if u = uri then some text else none
  | _ => none

/-- Whether a notice closes the document. -/
def closes (uri : Uri) : Notice → Bool
  | .didClose u => u = uri
  | _ => false

/-- The last text of a change of the document, if the change has any. -/
def lastText? (uri : Uri) : Notice → Option Text
  | .didChange u texts => if u = uri then texts.getLast? else none
  | _ => none

/-- The text of the document after one more notice. -/
def textAfter? (uri : Uri) (text? : Option Text) : Notice → Option Text
  | .didOpen u text => if u = uri then some text else text?
  | .didChange u texts => if u = uri then text?.map fun text => texts.getLast?.getD text else text?
  | .didClose u => if u = uri then none else text?
  | _ => text?

/-- A document that has a text after a notice has been opened by it with this text, or changed by it
to this text, or it had this text before and the notice is about something else. -/
theorem of_textAfter?_eq_some {uri : Uri} {text? : Option Text} {n : Notice} {text : Text}
    (h : n.textAfter? uri text? = some text) :
    n = .didOpen uri text ∨
      (∃ texts old, n = .didChange uri texts ∧ text? = some old ∧
        text = texts.getLast?.getD old) ∨
      (n.document? ≠ some uri ∧ text? = some text) := by
  cases n with
  | didOpen u opened =>
    rw [textAfter?] at h
    by_cases hu : u = uri
    · rw [if_pos hu, Option.some.injEq] at h
      exact Or.inl (by rw [hu, h])
    · rw [if_neg hu] at h
      exact Or.inr (Or.inr ⟨fun hd => hu (Option.some.inj hd), h⟩)
  | didChange u texts =>
    rw [textAfter?] at h
    by_cases hu : u = uri
    · rw [if_pos hu] at h
      obtain ⟨old, hold, hnew⟩ := Option.map_eq_some_iff.1 h
      exact Or.inr (Or.inl ⟨texts, old, by rw [hu], hold, hnew.symm⟩)
    · rw [if_neg hu] at h
      exact Or.inr (Or.inr ⟨fun hd => hu (Option.some.inj hd), h⟩)
  | didClose u =>
    rw [textAfter?] at h
    by_cases hu : u = uri
    · -- a document that has been closed has no text
      rw [if_pos hu] at h
      cases h
    · rw [if_neg hu] at h
      exact Or.inr (Or.inr ⟨fun hd => hu (Option.some.inj hd), h⟩)
  | _ => exact Or.inr (Or.inr ⟨nofun, h⟩)

end Notice

/-- The text with which the document was opened last, and what has been told since. -/
def sinceOpened? (uri : Uri) : List Notice → Option (Text × List Notice)
  | [] => none
  | n :: later => (sinceOpened? uri later).or ((n.opened? uri).map fun text => (text, later))

/-- The text of a document: that of its latest opening, or of the latest change since that has one.
A document that has never been opened, or has been closed since, has none. -/
def currentText? (uri : Uri) (notices : List Notice) : Option Text :=
  match sinceOpened? uri notices with
  | none => none
  | some (text, since) =>
    if since.any (Notice.closes uri) then none
    else some ((since.filterMap (Notice.lastText? uri)).getLast?.getD text)

@[simp] theorem currentText?_nil (uri : Uri) : currentText? uri [] = none := rfl

/-- A notice that opens the document leaves what was told before behind, and any other notice has
been told since the latest opening. -/
theorem sinceOpened?_concat (uri : Uri) (notices : List Notice) (n : Notice) :
    sinceOpened? uri (notices ++ [n]) =
      match n.opened? uri with
      | some text => some (text, [])
      | none => (sinceOpened? uri notices).map fun (text, since) => (text, since ++ [n]) := by
  induction notices with
  | nil =>
    show (none : Option (Text × List Notice)).or ((n.opened? uri).map fun text => (text, [])) = _
    cases n.opened? uri <;> rfl
  | cons m notices ih =>
    rw [List.cons_append, sinceOpened?, ih, sinceOpened?]
    -- the new notice opens the document, or the latest opening is where it was
    cases n.opened? uri with
    | some text => rfl
    | none => cases sinceOpened? uri notices <;> cases m.opened? uri <;> rfl

/-- A document that has just been opened has the text with which it was opened. -/
theorem currentText?_concat_opened {uri : Uri} {n : Notice} {text : Text}
    (h : n.opened? uri = some text) (notices : List Notice) :
    currentText? uri (notices ++ [n]) = some text := by
  rw [currentText?, sinceOpened?_concat, h]
  rfl

/-- A notice that does not open the document can close it, or give it a new text if it is open. -/
theorem currentText?_concat_of_not_opened {uri : Uri} {n : Notice} (h : n.opened? uri = none)
    (notices : List Notice) : currentText? uri (notices ++ [n]) =
      if n.closes uri then none
      else (currentText? uri notices).map fun text => (n.lastText? uri).getD text := by
  rw [currentText?, sinceOpened?_concat, h, currentText?]
  cases sinceOpened? uri notices with
  | none => by_cases hn : n.closes uri <;> simp [hn]
  | some p =>
    by_cases hp : p.2.any (Notice.closes uri)
    · by_cases hn : n.closes uri <;> simp [hp, hn]
    · by_cases hn : n.closes uri
      · simp [hn]
      · -- the document is open, and the notice may have a text for it
        cases ht : n.lastText? uri <;> simp [hp, hn, ht]

/-- **Step.**  One more notice has its effect on the text so far. -/
theorem currentText?_concat (uri : Uri) (notices : List Notice) (n : Notice) :
    currentText? uri (notices ++ [n]) = n.textAfter? uri (currentText? uri notices) := by
  -- what a notice is about decides whether it has an effect at all
  cases n with
  | didOpen u text =>
    by_cases hu : u = uri
    · subst hu
      have hopened : (Notice.didOpen u text).opened? u = some text := by simp [Notice.opened?]
      rw [currentText?_concat_opened hopened, Notice.textAfter?, if_pos rfl]
    · rw [currentText?_concat_of_not_opened (by simp [Notice.opened?, hu])]
      simp [Notice.textAfter?, Notice.closes, Notice.lastText?, hu]
  | didChange u texts =>
    rw [currentText?_concat_of_not_opened rfl]
    by_cases hu : u = uri <;> simp [Notice.textAfter?, Notice.closes, Notice.lastText?, hu]
  | didClose u =>
    rw [currentText?_concat_of_not_opened rfl]
    by_cases hu : u = uri <;> simp [Notice.textAfter?, Notice.closes, Notice.lastText?, hu]
  | _ =>
    rw [currentText?_concat_of_not_opened rfl]
    simp [Notice.textAfter?, Notice.closes, Notice.lastText?]

/-! ### What handlers do to documents -/

namespace State

/-- What else is in a state does not matter for its documents. -/
theorem document?_congr {s s' : State} (h : s.documents = s'.documents) (uri : Uri) :
    s.document? uri = s'.document? uri := by
  rw [document?, document?, h]

/-- One more new text decides what the document is, and the status before it what is told. -/
theorem replaceAll_concat (d : Document) (texts : List Text) (text : Text) :
    replaceAll d (texts ++ [text]) =
      (.ofText text, (replaceAll d texts).2 ||
        ((Document.ofText text).isEventFile != (replaceAll d texts).1.isEventFile)) := by
  rw [replaceAll, List.foldl_append]
  rfl

/-- The last of several new texts is the text afterwards. -/
theorem replaceAll_fst (text : Text) (texts : List Text) :
    (replaceAll (.ofText text) texts).1 = .ofText (texts.getLast?.getD text) := by
  rcases List.eq_nil_or_concat texts with rfl | ⟨front, last, rfl⟩
  · rfl
  · rw [List.concat_eq_append, replaceAll_concat, List.getLast?_concat]
    rfl

/-- A document that is not open is not opened by a change. -/
theorem didChange_of_closed {s : State} {uri : Uri} (h : s.document? uri = none)
    (texts : List Text) : s.didChange uri texts = ({ s with active := some uri }, []) := by
  rw [didChange, h]

/-- The new texts of an open document replace its text, one after the other, and the client is told
if one of them flips the status. -/
theorem didChange_of_open {s : State} {uri : Uri} {d : Document} (h : s.document? uri = some d)
    (texts : List Text) : s.didChange uri texts =
      ({ s.putDocument uri (replaceAll d texts).1 with active := some uri },
        if (replaceAll d texts).2 then [.eventFile uri (replaceAll d texts).1.isEventFile]
        else []) := by
  rw [didChange, h]

section

variable {s : State} {uri : Uri} {text? : Option Text}

/-- Opening a document gives it a text, and leaves all others alone. -/
theorem document?_didOpen (h : s.document? uri = text?.map Document.ofText) (u : Uri)
    (text : Text) : (s.didOpen u text).1.document? uri =
      ((Notice.didOpen u text).textAfter? uri text?).map Document.ofText := by
  show (s.putDocument u (.ofText text)).document? uri = _
  rw [Notice.textAfter?]
  by_cases hu : u = uri
  · rw [if_pos hu, hu, document?_putDocument_self]
    rfl
  · rw [if_neg hu, document?_putDocument_of_ne _ _ (Ne.symm hu), h]

/-- Changing a document gives it its new text if it is open, and leaves all others alone. -/
theorem document?_didChange (h : s.document? uri = text?.map Document.ofText) (u : Uri)
    (texts : List Text) : (s.didChange u texts).1.document? uri =
      ((Notice.didChange u texts).textAfter? uri text?).map Document.ofText := by
  rw [Notice.textAfter?]
  by_cases hu : u = uri
  · -- a change has an effect on an open document only
    subst hu
    rw [if_pos rfl]
    cases text? with
    | none =>
      rw [didChange_of_closed h]
      exact h
    | some text =>
      rw [didChange_of_open h]
      show (s.putDocument u (replaceAll (.ofText text) texts).1).document? u = _
      rw [document?_putDocument_self, replaceAll_fst]
      rfl
  · rw [if_neg hu, ← h]
    cases hd : s.document? u with
    | none =>
      rw [didChange_of_closed hd]
      rfl
    | some d =>
      rw [didChange_of_open hd]
      exact document?_putDocument_of_ne _ _ (Ne.symm hu)

/-- Closing a document takes its text away, and leaves all others alone. -/
theorem document?_didClose (h : s.document? uri = text?.map Document.ofText) (u : Uri) :
    (s.didClose u).document? uri =
      ((Notice.didClose u).textAfter? uri text?).map Document.ofText := by
  have hs : (s.didClose u).documents = (s.dropDocument u).documents := by
    unfold didClose
    split <;> rfl
  rw [document?_congr hs, Notice.textAfter?]
  by_cases hu : u = uri
  · rw [if_pos hu, hu, document?_dropDocument_self]
    rfl
  · rw [if_neg hu, document?_dropDocument_of_ne _ (Ne.symm hu), h]

/-- A notice has its effect on the text of a document, and that is all it does to the document. -/
theorem document?_tell (h : s.document? uri = text?.map Document.ofText) (tree : FileTree)
    (n : Notice) :
    (s.tell tree n).1.document? uri = (n.textAfter? uri text?).map Document.ofText := by
  cases n with
  | didOpen u text => exact document?_didOpen h u text
  | didChange u texts => exact document?_didChange h u texts
  | didClose u => exact document?_didClose h u
  | exit => exact h
  | initialized =>
    have hd : (s.startWatcher tree).1.documents = s.documents := by
      unfold startWatcher
      split <;> rfl
    exact (document?_congr hd uri).trans h
  | didChangeConfiguration settings =>
    have hd : (s.didChangeConfiguration settings).1.documents = s.documents := by
      unfold didChangeConfiguration
      split <;> rfl
    exact (document?_congr hd uri).trans h
  | didChangeFiles uris =>
    have hd : (s.didChangeFiles tree uris).1.documents = s.documents := by
      unfold didChangeFiles
      split <;> rfl
    exact (document?_congr hd uri).trans h

end

/-- No request does anything to a document. -/
theorem documents_ask (s : State) (launch : Launcher) (tree : FileTree) (r : Request) :
    (s.ask launch tree r).1.documents = s.documents := by
  cases r with
  | start options =>
    show ((s.configure options).rebuild tree).documents = _
    unfold configure
    split <;> rfl
  | shutdown => rfl
  | completion uri p => rfl
  | execute command arguments =>
    show (s.execute launch tree command arguments).1.documents = _
    unfold execute
    split
    · split <;> rfl
    · split <;> rfl

end State

/-! ### Documents along a run -/

/-- **Step.**  A turn has the effect of its notice, if it has one, on every document. -/
theorem Turn.document?_after {t : Turn} {uri : Uri} {notices : List Notice}
    (h : t.before.state.document? uri = (currentText? uri notices).map Document.ofText) :
    t.after.state.document? uri =
      (currentText? uri (notices ++ t.notice?.toList)).map Document.ofText := by
  cases t.step with
  | notice n notice_eq request_eq batch_eq state_eq sent_eq unanswered =>
    rw [state_eq, notice_eq, Option.toList_some, currentText?_concat]
    exact State.document?_tell h t.event.tree n
  | request r launch notice_eq request_eq batch_eq state_eq sent_eq reply_eq =>
    rw [state_eq, notice_eq, Option.toList_none, List.append_nil, ← h]
    exact State.document?_congr (State.documents_ask _ launch _ r) uri
  | batch watcher notice_eq request_eq state_eq sent_eq unanswered =>
    rw [state_eq, notice_eq, Option.toList_none, List.append_nil, ← h]
    rfl

/-- **Run.**  After any run the open documents are those that have a text, with this text. -/
theorem document?_run (settings : Settings) (traces : Bool) (events : List Event) (uri : Uri) :
    ((Session.new settings traces).run events).state.document? uri =
      (currentText? uri (told ((Session.new settings traces).turns events))).map
        Document.ofText := by
  -- the text after a turn is that before it, with the effect of its notice
  induction events using List.reverseRecOn with
  | nil => rfl
  | append_singleton events event ih =>
    rw [Session.run_concat, Session.turns_concat, told_concat]
    exact Turn.document?_after ih

end SnippetServer.Server
