import SnippetServer.Proofs.Server.CurrentText

namespace SnippetServer.Server

open Compiler

/-!
# What the client knows of a document

The client is told whether a document is an event source file when the document is opened, and after
that only if a change has made it one or has made it something else.  So the client has to rely on
what it was told last.

* `lastStatus? uri sent` — what the client was told last about a document;
* `State.replaceAll_unchanged` — new texts that never flip the status leave it as it was;
* `eventFile_status_current` — what the client was told last about an open document holds of its
  current text, and the client is told about open documents only.
-/

/-! ### What is sent about a document -/

/-- What the server has sent in turns, in order. -/
def sentIn (turns : List Turn) : List Notification := turns.flatMap Turn.sent

/-- What one more turn sends is sent last. -/
theorem sentIn_concat (turns : List Turn) (t : Turn) :
    sentIn (turns ++ [t]) = sentIn turns ++ t.sent := by
  simp [sentIn]

/-- The status of a document that a notification tells. -/
def Notification.status? (uri : Uri) : Notification → Option Bool
  | .eventFile u isEventFile => if u = uri then some isEventFile else none
  | _ => none

/-- The status of a document that has been told last. -/
def lastStatus? (uri : Uri) (sent : List Notification) : Option Bool :=
  (sent.filterMap (Notification.status? uri)).getLast?

/-- What is sent later is told last. -/
theorem lastStatus?_append (uri : Uri) (sent more : List Notification) :
    lastStatus? uri (sent ++ more) = (lastStatus? uri more).or (lastStatus? uri sent) := by
  rw [lastStatus?, List.filterMap_append, List.getLast?_append]
  rfl

/-- If no notification is about a document, its status has not been told. -/
theorem lastStatus?_eq_none {uri : Uri} {sent : List Notification}
    (h : ∀ status, Notification.eventFile uri status ∉ sent) : lastStatus? uri sent = none := by
  rw [lastStatus?, List.getLast?_eq_none_iff, List.filterMap_eq_nil_iff]
  intro n hn
  cases n with
  | eventFile u status =>
    have hu : u ≠ uri := by
      rintro rfl
      exact h status hn
    rw [Notification.status?, if_neg hu]
  | log level message => rfl
  | popup level message => rfl

/-! ### What handlers send -/

namespace State

variable {s : State} {uri : Uri} {status : Bool}

/-- A trace tells nothing about documents. -/
theorem eventFile_not_mem_trace (s : State) (message : Text) :
    Notification.eventFile uri status ∉ s.trace message := by
  unfold trace
  split <;> simp

/-- New texts none of which flips the status leave it as it was. -/
theorem replaceAll_unchanged {d : Document} {texts : List Text}
    (h : (replaceAll d texts).2 = false) :
    (replaceAll d texts).1.isEventFile = d.isEventFile := by
  induction texts using List.reverseRecOn with
  | nil => rfl
  | append_singleton texts text ih =>
    rw [replaceAll_concat, Bool.or_eq_false_iff, bne_eq_false_iff_eq] at h
    rw [replaceAll_concat, h.2, ih h.1]

/-- A request tells nothing about documents. -/
theorem eventFile_not_mem_ask (s : State) (launch : Launcher) (tree : FileTree) (r : Request) :
    Notification.eventFile uri status ∉ (s.ask launch tree r).2.2 := by
  cases r with
  | start options =>
    simp [ask, traceCount, eventFile_not_mem_trace]
  | shutdown => exact eventFile_not_mem_trace s _
  | completion u p => exact eventFile_not_mem_trace s _
  | execute command arguments =>
    -- a compilation sends a popup and log lines only
    have hcompile : ∀ target, Notification.eventFile uri status ∉
        s.compileMessages launch tree target := by
      intro target
      obtain ⟨level, message, hverdict⟩ :=
        exists_verdict_eq_popup (compile launch tree s.settings.compiler target).result
      simp [compileMessages, hverdict]
    have hexecute : Notification.eventFile uri status ∉
        (s.execute launch tree command arguments).2.2 := by
      unfold execute
      split
      · split
        · simp
        · exact hcompile _
      · split <;> simp
    show Notification.eventFile uri status ∉ s.trace _ ++ _
    rw [List.mem_append, not_or]
    exact ⟨eventFile_not_mem_trace s _, hexecute⟩

/-- A notice tells about a document only if it opens it, or changes it while it is open. -/
theorem of_eventFile_mem_tell {tree : FileTree} {n : Notice}
    (h : Notification.eventFile uri status ∈ (s.tell tree n).2) :
    (∃ text, n = .didOpen uri text) ∨
      ∃ texts, n = .didChange uri texts ∧ (s.document? uri).isSome := by
  -- traces, counts and watch reports are of other kinds, so that only two notices are left
  cases n with
  | didOpen u text =>
    have hm : Notification.eventFile uri status ∈
        s.trace _ ++ [.eventFile u (Document.ofText text).isEventFile] := h
    rcases List.mem_append.1 hm with hm | hm
    · exact absurd hm (eventFile_not_mem_trace s _)
    · obtain ⟨rfl, -⟩ := Notification.eventFile.inj (List.mem_singleton.1 hm)
      exact Or.inl ⟨text, rfl⟩
  | didChange u texts =>
    have hm : Notification.eventFile uri status ∈ s.trace _ ++ (s.didChange u texts).2 := h
    rcases List.mem_append.1 hm with hm | hm
    · exact absurd hm (eventFile_not_mem_trace s _)
    cases hd : s.document? u with
    | none =>
      rw [didChange_of_closed hd] at hm
      exact absurd hm List.not_mem_nil
    | some d =>
      rw [didChange_of_open hd] at hm
      dsimp only at hm
      split at hm
      · obtain ⟨rfl, -⟩ := Notification.eventFile.inj (List.mem_singleton.1 hm)
        exact Or.inr ⟨texts, rfl, by rw [hd]; rfl⟩
      · exact absurd hm List.not_mem_nil
  | initialized =>
    exfalso
    have hm : Notification.eventFile uri status ∈
        (s.startWatcher tree).2 ++ [.log .info "Taikou5 LSP server initialized".toList] := h
    unfold startWatcher at hm
    split at hm <;> simp at hm
  | exit => exact absurd h List.not_mem_nil
  | didClose u => exact absurd h (eventFile_not_mem_trace s _)
  | didChangeConfiguration settings =>
    exfalso
    have hm : Notification.eventFile uri status ∈ (s.didChangeConfiguration settings).2 := h
    unfold didChangeConfiguration at hm
    split at hm
    · exact absurd hm List.not_mem_nil
    · exact absurd hm (eventFile_not_mem_trace _ _)
  | didChangeFiles uris =>
    exfalso
    have hm : Notification.eventFile uri status ∈ (s.didChangeFiles tree uris).2 := h
    unfold didChangeFiles at hm
    split at hm
    · exact absurd hm (eventFile_not_mem_trace _ _)
    · exact absurd hm List.not_mem_nil

/-- **Step.**  After a notice the client is told the status of an open document, or the status is
what it was before. -/
theorem lastStatus?_tell {text? : Option Text} (h : s.document? uri = text?.map Document.ofText)
    (tree : FileTree) {n : Notice} {text : Text} (ht : n.textAfter? uri text? = some text) :
    lastStatus? uri (s.tell tree n).2 = some (Document.ofText text).isEventFile ∨
      (lastStatus? uri (s.tell tree n).2 = none ∧ ∃ old, text? = some old ∧
        (Document.ofText old).isEventFile = (Document.ofText text).isEventFile) := by
  -- the document has its text from this opening, from this change, or from before
  rcases Notice.of_textAfter?_eq_some ht with rfl | ⟨texts, old, rfl, rfl, rfl⟩ | ⟨hother, htext⟩
  · left
    show lastStatus? uri (s.trace _ ++ [.eventFile uri (Document.ofText text).isEventFile]) = _
    rw [lastStatus?_append]
    simp [lastStatus?, Notification.status?]
  · have hnew := replaceAll_fst old texts
    have hlast : lastStatus? uri (s.tell tree (.didChange uri texts)).2 =
        lastStatus? uri (s.didChange uri texts).2 := by
      show lastStatus? uri (s.trace _ ++ (s.didChange uri texts).2) = _
      rw [lastStatus?_append, lastStatus?_eq_none fun _ => eventFile_not_mem_trace s _,
        Option.or_none]
    rw [hlast, didChange_of_open h]
    cases hflip : (replaceAll (.ofText old) texts).2 with
    | true =>
      left
      simp [lastStatus?, Notification.status?, hnew]
    | false =>
      -- the status may have flipped twice, but it is what the client has been told before
      right
      refine ⟨by simp [lastStatus?], old, rfl, ?_⟩
      rw [← hnew, replaceAll_unchanged hflip]
  · right
    refine ⟨lastStatus?_eq_none fun status hm => ?_, text, htext, rfl⟩
    rcases of_eventFile_mem_tell hm with ⟨opened, rfl⟩ | ⟨texts, rfl, -⟩
    · exact hother rfl
    · exact hother rfl

end State

/-! ### The status along a run -/

/-- **Step.**  If the client has been told the status of an open document, it still has after a
turn. -/
theorem Turn.lastStatus?_after {t : Turn} {uri : Uri} {notices : List Notice}
    {sent : List Notification}
    (hdocument : t.before.state.document? uri = (currentText? uri notices).map Document.ofText)
    (hsent : ∀ text, currentText? uri notices = some text →
      lastStatus? uri sent = some (Document.ofText text).isEventFile)
    {text : Text} (ht : currentText? uri (notices ++ t.notice?.toList) = some text) :
    lastStatus? uri (sent ++ t.sent) = some (Document.ofText text).isEventFile := by
  rw [lastStatus?_append]
  cases t.step with
  | notice n notice_eq request_eq batch_eq state_eq sent_eq unanswered =>
    rw [notice_eq, Option.toList_some, currentText?_concat] at ht
    rw [sent_eq]
    rcases State.lastStatus?_tell hdocument t.event.tree ht with hnew | ⟨hnone, old, hold, hsame⟩
    · rw [hnew]
      rfl
    · -- nothing is told, and what has been told before still holds
      rw [hnone, Option.none_or, hsent old hold, hsame]
  | request r launch notice_eq request_eq batch_eq state_eq sent_eq reply_eq =>
    rw [notice_eq, Option.toList_none, List.append_nil] at ht
    rw [sent_eq, lastStatus?_eq_none fun _ => State.eventFile_not_mem_ask _ launch _ r,
      Option.none_or]
    exact hsent text ht
  | batch watcher notice_eq request_eq state_eq sent_eq unanswered =>
    rw [notice_eq, Option.toList_none, List.append_nil] at ht
    rw [sent_eq]
    exact hsent text ht

/-- **Run.**  What the client was told last about an open document is its status. -/
theorem lastStatus?_run (settings : Settings) (traces : Bool) (events : List Event) (uri : Uri)
    (text : Text)
    (h : currentText? uri (told ((Session.new settings traces).turns events)) = some text) :
    lastStatus? uri (sentIn ((Session.new settings traces).turns events)) =
      some (Document.ofText text).isEventFile := by
  -- the text before the last turn may be another one, so the claim is about all texts
  induction events using List.reverseRecOn generalizing text with
  | nil => simp at h
  | append_singleton events event ih =>
    rw [Session.turns_concat, told_concat] at h
    rw [Session.turns_concat, sentIn_concat]
    exact Turn.lastStatus?_after (document?_run settings traces events uri) ih h

/-- The client is told about a document only in a turn that has a notice about it and leaves it
open. -/
theorem Turn.of_eventFile_mem_sent {t : Turn} {uri : Uri} {notices : List Notice} {status : Bool}
    (hdocument : t.before.state.document? uri = (currentText? uri notices).map Document.ofText)
    (h : Notification.eventFile uri status ∈ t.sent) :
    t.notice?.bind Notice.document? = some uri ∧
      (currentText? uri (notices ++ t.notice?.toList)).isSome := by
  cases t.step with
  | notice n notice_eq request_eq batch_eq state_eq sent_eq unanswered =>
    rw [sent_eq] at h
    rw [notice_eq, Option.toList_some, currentText?_concat]
    rcases State.of_eventFile_mem_tell h with ⟨text, rfl⟩ | ⟨texts, rfl, hopen⟩
    · exact ⟨rfl, by rw [Notice.textAfter?, if_pos rfl]; rfl⟩
    · rw [hdocument, Option.isSome_map] at hopen
      exact ⟨rfl, by rw [Notice.textAfter?, if_pos rfl, Option.isSome_map]; exact hopen⟩
  | request r launch notice_eq request_eq batch_eq state_eq sent_eq reply_eq =>
    rw [sent_eq] at h
    exact absurd h (State.eventFile_not_mem_ask _ launch _ r)
  | batch watcher notice_eq request_eq state_eq sent_eq unanswered =>
    rw [sent_eq] at h
    exact absurd h List.not_mem_nil

/-- After any run, what the client was told last about an open document holds of the first line of
its current text.  Whatever happens next, the client is told about a document only if that is a
notice about it which leaves it open. -/
theorem eventFile_status_current (settings : Settings) (traces : Bool) (events : List Event) :
    (∀ uri text, currentText? uri (told ((Session.new settings traces).turns events)) = some text →
      lastStatus? uri (sentIn ((Session.new settings traces).turns events)) =
        some (Document.isHeader (Document.ofText text).firstLine)) ∧
    ∀ event uri status,
      Notification.eventFile uri status ∈
        (Turn.mk ((Session.new settings traces).run events) event).sent →
      (Turn.mk ((Session.new settings traces).run events) event).notice?.bind Notice.document? =
          some uri ∧
        (currentText? uri
          (told ((Session.new settings traces).turns (events ++ [event])))).isSome := by
  refine ⟨fun uri text htext => ?_, fun event uri status hsent => ?_⟩
  · rw [lastStatus?_run settings traces events uri text htext]
    exact congrArg some (Document.ofText text).isEventFile_eq
  · rw [Session.turns_concat, told_concat]
    exact Turn.of_eventFile_mem_sent (document?_run settings traces events uri) hsent

namespace StatusFlips

/-- A server that finds no snippets. -/
def server : Session := .new (.ofCommandLine (Path.ofText ['/']) none none) false

/-- An empty file tree. -/
def tree : FileTree := ⟨[], []⟩

/-- The name of a document. -/
def name : Text := "a:b".toList

/-- The URI that this is. -/
def uri : Uri := ⟨['a'], none, .rootless ['b'], none, none⟩

/-- The first line of an event source file. -/
def header : Text := "太閣立志傳５事件源文件".toList

/-- The document is opened, becomes an event source file, ceases to be one and is one again; then it
is changed without a text.  The other document is changed without having been opened. -/
def events : List Event :=
  [.start tree .null, .didOpen tree name ['x'], .didChange tree name [header, ['x'], header],
    .didChange tree name [], .didChange tree "a:c".toList [header]]

/-- The document ceases to be an event source file. -/
def last : Event := .didChange tree name [header, ['x']]

end StatusFlips

open StatusFlips in
/-- The status flips three times in one change and is told once. -/
theorem eventFile_status_current_flips :
    currentText? uri (told (server.turns events)) = some header ∧
      lastStatus? uri (sentIn (server.turns events)) = some (Document.isHeader header) ∧
      Notification.eventFile uri false ∈ (Turn.mk (server.run events) last).sent ∧
      (currentText? uri (told (server.turns (events ++ [last])))).isSome := by
  have htext : currentText? uri (told (server.turns events)) = some header := rfl
  have hline : (Document.ofText header).firstLine = header := rfl
  have hsent : Notification.eventFile uri false ∈ (Turn.mk (server.run events) last).sent := by
    have h : (Turn.mk (server.run events) last).sent = [.eventFile uri false] := rfl
    rw [h]
    exact List.mem_singleton_self _
  obtain ⟨hstatus, hopen⟩ := eventFile_status_current _ _ events
  refine ⟨htext, ?_, hsent, (hopen last uri false hsent).2⟩
  rw [← hline]
  exact hstatus uri header htext

end SnippetServer.Server
