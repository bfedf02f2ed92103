import SnippetServer.Proofs.History
import SnippetServer.Proofs.Server.CurrentText

namespace SnippetServer.Server

open Compiler

/-!
# The document that is compiled

The command to compile takes the document that its first argument names, and without an argument the
one that is worked on: the document opened or changed last, as long as it is not closed.  A document
that is changed without being open is worked on too.  But if only open documents are changed, the
document that is worked on is open.

* `LastEdited`, `active?` — the document that is worked on according to what has been told, and
  `active?_eq_some_iff`;
* `active_run` — the document that is worked on after a run;
* `ChangesOpen`, `currentText?_of_lastEdited` — when that document is open;
* `Turn.Compiles` — what the command to compile does with a target;
* `CompilesLastEdited`, `compilesLastEdited_new` — which document is compiled along every run.
-/

/-! ### The document that is worked on -/

namespace Notice

/-- The document that a notice opens or changes. -/
def edited? : Notice → Option Uri
  | .didOpen uri _ => some uri
  | .didChange uri _ => some uri
  | _ => none

/-- The document that is worked on after one more notice. -/
def activeAfter? (active : Option Uri) : Notice → Option Uri
  | .didOpen uri _ => some uri
  | .didChange uri _ => some uri
  | .didClose uri => if active = some uri then none else active
  | _ => active

/-- What a notice opens or changes is worked on next.  Any other notice leaves the document that is
worked on, unless it closes it. -/
theorem activeAfter?_eq_some_iff {active : Option Uri} {n : Notice} {uri : Uri} :
    n.activeAfter? active = some uri ↔
      n.edited? = some uri ∨
        (n.edited? = none ∧ n.closes uri = false) ∧ active = some uri := by
  cases n with
  | didClose u =>
    by_cases hactive : active = some u
    · -- the document that was worked on is closed, and nothing takes its place
      simp [activeAfter?, edited?, closes, hactive]
    · have hne : active = some uri → u ≠ uri := fun h hu => hactive (hu ▸ h)
      simpa [activeAfter?, edited?, closes, hactive] using hne
  | _ => simp [activeAfter?, edited?, closes]

end Notice

/-- The document was opened or changed, and since then no document was opened or changed, and this
one was not closed. -/
def LastEdited (uri : Uri) : List Notice → Prop :=
  Since (fun _ n => n.edited? = some uri) fun m => m.edited? = none ∧ m.closes uri = false

/-- **Step.**  A document was edited last if the latest notice edits it, or if it was before and
that notice neither edits a document nor closes this one. -/
theorem lastEdited_concat {uri : Uri} {notices : List Notice} {n : Notice} :
    LastEdited uri (notices ++ [n]) ↔
      n.edited? = some uri ∨
        (n.edited? = none ∧ n.closes uri = false) ∧ LastEdited uri notices := since_concat

/-- The document that is worked on after notices, if none was worked on before. -/
def active? (notices : List Notice) : Option Uri := notices.foldl Notice.activeAfter? none

/-- One more notice has its effect on which document is worked on. -/
theorem active?_concat (notices : List Notice) (n : Notice) :
    active? (notices ++ [n]) = n.activeAfter? (active? notices) := List.foldl_append

/-- The document that is worked on is the one opened or changed last, unless it has been closed. -/
theorem active?_eq_some_iff {uri : Uri} {notices : List Notice} :
    active? notices = some uri ↔ LastEdited uri notices := by
  -- both sides take one more notice in the same way
  induction notices using List.reverseRecOn with
  | nil => exact ⟨nofun, fun h => absurd h not_since_nil⟩
  | append_singleton notices n ih =>
    rw [active?_concat, Notice.activeAfter?_eq_some_iff, lastEdited_concat, ih]

/-! ### When that document is open -/

/-- Every document that is changed is open at that time. -/
def ChangesOpen (notices : List Notice) : Prop :=
  ∀ before uri texts after, notices = before ++ .didChange uri texts :: after →
    (currentText? uri before).isSome

/-- What holds of all changes holds of those before the last notice. -/
theorem ChangesOpen.of_concat {notices : List Notice} {n : Notice}
    (h : ChangesOpen (notices ++ [n])) : ChangesOpen notices := by
  rintro before uri texts after rfl
  exact h before uri texts (after ++ [n]) (by simp)

/-- A notice that opens or changes an open document leaves it open. -/
theorem Notice.textAfter?_of_edited {uri : Uri} {text? : Option Text} {n : Notice}
    (hedited : n.edited? = some uri) (h : ∀ texts, n = .didChange uri texts → text?.isSome) :
    (n.textAfter? uri text?).isSome := by
  cases n with
  | didOpen u text =>
    obtain rfl := Option.some.inj hedited
    rw [textAfter?, if_pos rfl]
    rfl
  | didChange u texts =>
    obtain rfl := Option.some.inj hedited
    rw [textAfter?, if_pos rfl, Option.isSome_map]
    exact h texts rfl
  | _ => cases hedited

/-- A notice that neither opens nor changes nor closes a document leaves its text. -/
theorem Notice.textAfter?_of_kept {uri : Uri} {text? : Option Text} {n : Notice}
    (hedited : n.edited? = none) (hcloses : n.closes uri = false) :
    n.textAfter? uri text? = text? := by
  cases n with
  | didOpen u text => cases hedited
  | didChange u texts => cases hedited
  | didClose u => rw [textAfter?, if_neg (of_decide_eq_false hcloses)]
  | _ => rfl

/-- If only open documents are changed, the document that is worked on is open. -/
theorem currentText?_of_lastEdited {uri : Uri} {notices : List Notice}
    (hchanges : ChangesOpen notices) (h : LastEdited uri notices) :
    (currentText? uri notices).isSome := by
  induction notices using List.reverseRecOn with
  | nil => exact absurd h not_since_nil
  | append_singleton notices n ih =>
    rw [currentText?_concat]
    -- the last notice has edited the document, or has left it as it was
    rcases lastEdited_concat.1 h with hedited | ⟨⟨hedited, hcloses⟩, hbefore⟩
    · refine Notice.textAfter?_of_edited hedited ?_
      rintro texts rfl
      exact hchanges notices uri texts [] rfl
    · rw [Notice.textAfter?_of_kept hedited hcloses]
      exact ih hchanges.of_concat hbefore

/-! ### What handlers do to it -/

namespace State

/-- **Step.**  A notice has its effect on the document that is worked on. -/
theorem active_tell (s : State) (tree : FileTree) (n : Notice) :
    (s.tell tree n).1.active = n.activeAfter? s.active := by
  cases n with
  | didOpen uri text => rfl
  | didChange uri texts =>
    obtain ⟨documents, h⟩ := s.didChange_frame uri texts
    show (s.didChange uri texts).1.active = some uri
    rw [h]
  | didClose uri =>
    obtain ⟨documents, h⟩ := s.didClose_frame uri
    show (s.didClose uri).active = if s.active = some uri then none else s.active
    rw [h]
  | exit => rfl
  | initialized =>
    obtain ⟨watcher, h⟩ := s.startWatcher_frame tree
    show (s.startWatcher tree).1.active = s.active
    rw [h]
  | didChangeConfiguration settings =>
    obtain ⟨new, h⟩ := s.didChangeConfiguration_frame settings
    show (s.didChangeConfiguration settings).1.active = s.active
    rw [h]
  | didChangeFiles uris =>
    obtain ⟨store, h⟩ := s.didChangeFiles_frame tree uris
    show (s.didChangeFiles tree uris).1.active = s.active
    rw [h]

/-- **Step.**  No request changes which document is worked on. -/
theorem active_ask (s : State) (launch : Launcher) (tree : FileTree) (r : Request) :
    (s.ask launch tree r).1.active = s.active := by
  cases r with
  | start options =>
    obtain ⟨settings, store, h⟩ := s.configure_frame options
    show (s.configure options).active = s.active
    rw [h]
  | shutdown => rfl
  | completion uri p => rfl
  | execute command arguments =>
    obtain ⟨store, h⟩ := s.execute_frame launch tree command arguments
    show (s.execute launch tree command arguments).1.active = s.active
    rw [h]

end State

/-! ### The document that is worked on along a run -/

/-- **Step.**  A turn has the effect of its notice, if it has one. -/
theorem Turn.active_after (t : Turn) :
    t.after.state.active = t.notice?.toList.foldl Notice.activeAfter? t.before.state.active := by
  cases t.step with
  | notice n notice_eq request_eq batch_eq state_eq sent_eq unanswered =>
    rw [state_eq, notice_eq]
    exact State.active_tell _ _ n
  | request r launch notice_eq request_eq batch_eq state_eq sent_eq reply_eq =>
    rw [state_eq, notice_eq]
    exact State.active_ask _ launch _ r
  | batch watcher notice_eq request_eq state_eq sent_eq unanswered =>
    rw [state_eq, notice_eq]
    rfl

/-- **Run.**  What has been told decides which document is worked on. -/
theorem active_run (settings : Settings) (traces : Bool) (events : List Event) :
    ((Session.new settings traces).run events).state.active =
      active? (told ((Session.new settings traces).turns events)) := by
  induction events using List.reverseRecOn with
  | nil => rfl
  | append_singleton events event ih =>
    rw [Session.run_concat, Session.turns_concat, told_concat, active?, List.foldl_append,
      ← active?, ← ih]
    exact Turn.active_after _

/-! ### The command to compile -/

/-- What the command to compile does: the client is sent what the compiler gives for the target, the
answer says nothing, and the state stays. -/
structure Turn.Compiles (t : Turn) (launch : Launcher) (target : Option Uri) : Prop where
  /-- What the client is sent. -/
  sent_eq : t.sent =
    t.before.state.trace ("Execute command: ".toList ++ commands.compile) ++
      t.before.state.compileMessages launch t.event.tree target
  /-- The answer. -/
  reply_eq : t.reply = .result .nothing
  /-- The state of the server. -/
  state_eq : t.after.state = t.before.state

/-- What a command gives is what comes of the turn in which it is run. -/
theorem Turn.Serves.of_execute {t : Turn} {launch : Launcher} {command : Text}
    {arguments : List Json} {next : State} {answer : Except RequestError Result}
    {messages : List Notification} (h : t.Serves launch (.execute command arguments))
    (hexecute : t.before.state.execute launch t.event.tree command arguments =
      (next, answer, messages)) :
    t.after.state = next ∧ t.reply = Reply.ofAnswer answer ∧
      t.sent = t.before.state.trace ("Execute command: ".toList ++ command) ++ messages := by
  have hask : t.before.state.ask launch t.event.tree (.execute command arguments) =
      (next, answer,
        t.before.state.trace ("Execute command: ".toList ++ command) ++ messages) := by
    rw [State.ask, hexecute]
  refine ⟨?_, ?_, ?_⟩
  · rw [h.state_eq, hask]
  · rw [h.reply_eq, hask]
  · rw [h.sent_eq, hask]

/-- A document that its first argument names is what a command is about. -/
theorem State.target_of_uri {s : State} {argument : Json} {uri : Uri}
    (h : uri? argument = some uri) (rest : List Json) :
    s.target (argument :: rest) = .ok (some uri) := by
  rw [target, h]

/-- If a command is about a target, that is what it compiles. -/
theorem Turn.compiles_of_target {s : Session} {launch : Launcher} {tree : FileTree} {name : Text}
    {params : Option Json} {arguments : List Json} {target : Option Uri}
    (h : (Turn.mk s (.request launch tree name params)).request? =
      some (.execute commands.compile arguments))
    (htarget : s.state.target arguments = .ok target) :
    (Turn.mk s (.request launch tree name params)).Compiles launch target := by
  have hexecute : s.state.execute launch tree commands.compile arguments =
      (s.state, .ok .nothing, s.state.compileMessages launch tree target) := by
    rw [State.execute, if_pos rfl, htarget]
  obtain ⟨state_eq, reply_eq, sent_eq⟩ := (serves_of_request h).of_execute hexecute
  exact ⟨sent_eq, reply_eq, state_eq⟩

/-- The client is shown why nothing could be compiled. -/
theorem Turn.Compiles.sent_of_error {t : Turn} {launch : Launcher} {target : Option Uri}
    {cause : CompileError} (h : t.Compiles launch target) (htraces : t.before.state.traces = false)
    (hcompile : compile launch t.event.tree t.before.state.settings.compiler target =
      ⟨[], .error cause⟩) : t.sent = [.popup .error cause.message] := by
  rw [h.sent_eq, State.trace, htraces, State.compileMessages, hcompile]
  rfl

/-- Which document is compiled along every run of a session. -/
structure CompilesLastEdited (s : Session) : Prop where
  /-- Without an argument it is the document opened or changed last, unless it has been closed
  since, and there is none otherwise. -/
  by_default : ∀ events launch tree name params,
    (Turn.mk (s.run events) (.request launch tree name params)).request? =
      some (.execute commands.compile []) →
    ∃ target, (Turn.mk (s.run events) (.request launch tree name params)).Compiles launch target ∧
      ∀ uri, target = some uri ↔ LastEdited uri (told (s.turns events))
  /-- With an argument it is the document that the argument names, and what is compiled without an
  argument stays. -/
  by_argument : ∀ events launch tree name params argument rest uri,
    (Turn.mk (s.run events) (.request launch tree name params)).request? =
      some (.execute commands.compile (argument :: rest)) →
    uri? argument = some uri →
    (Turn.mk (s.run events) (.request launch tree name params)).Compiles launch (some uri) ∧
      ∀ u, LastEdited u (told (s.turns (events ++ [.request launch tree name params]))) ↔
        LastEdited u (told (s.turns events))
  /-- If only open documents are changed, the document that is worked on is open. -/
  always_open : ∀ events, ChangesOpen (told (s.turns events)) →
    ∀ uri, LastEdited uri (told (s.turns events)) → ((s.run events).state.document? uri).isSome
  /-- If only open documents are changed, no closed document is compiled without an argument. -/
  never_closed : ∀ events launch tree name params, ChangesOpen (told (s.turns events)) →
    (Turn.mk (s.run events) (.request launch tree name params)).request? =
      some (.execute commands.compile []) →
    ∃ target, (Turn.mk (s.run events) (.request launch tree name params)).Compiles launch target ∧
      ∀ uri, (s.run events).state.document? uri = none → target ≠ some uri

/-- If only open documents are changed, the document that is worked on after a run is open. -/
theorem document?_of_lastEdited {settings : Settings} {traces : Bool} {events : List Event}
    (hchanges : ChangesOpen (told ((Session.new settings traces).turns events))) {uri : Uri}
    (h : LastEdited uri (told ((Session.new settings traces).turns events))) :
    (((Session.new settings traces).run events).state.document? uri).isSome := by
  rw [document?_run, Option.isSome_map]
  exact currentText?_of_lastEdited hchanges h

/-- **The target of a compilation.**  A server compiles the document that it is given, and without
one the document opened or changed last that has not been closed since. -/
theorem compilesLastEdited_new (settings : Settings) (traces : Bool) :
    CompilesLastEdited (Session.new settings traces) where
  by_default := by
    intro events launch tree name params h
    refine ⟨_, Turn.compiles_of_target h rfl, ?_⟩
    intro uri
    rw [active_run, active?_eq_some_iff]
  by_argument := by
    intro events launch tree name params argument rest uri h huri
    refine ⟨Turn.compiles_of_target h (State.target_of_uri huri rest), ?_⟩
    intro u
    -- a request tells nothing about documents
    have htold : told ((Session.new settings traces).turns
        (events ++ [.request launch tree name params])) =
        told ((Session.new settings traces).turns events) := by
      rw [Session.turns_concat, told_concat]
      exact List.append_nil _
    rw [htold]
  always_open := fun _ hchanges _ h => document?_of_lastEdited hchanges h
  never_closed := by
    intro events launch tree name params hchanges h
    refine ⟨_, Turn.compiles_of_target h rfl, ?_⟩
    rintro uri hclosed htarget
    rw [active_run, active?_eq_some_iff] at htarget
    have hopen := document?_of_lastEdited hchanges htarget
    rw [hclosed] at hopen
    cases hopen

namespace TwoDocuments

/-- A server whose compiler is next to the root. -/
def server : Session :=
  .new (.ofCommandLine (Path.ofText ['/']) none (some (Path.ofText "/tkhack-dx.exe".toList))) false

/-- A tree with the compiler, which cannot be run. -/
def tree : FileTree where
  home := []
  nodes := [([Text.encode compilerName], .file [] none)]

/-- Two documents are opened, the first one is changed, and the second one is closed. -/
def events : List Event :=
  [.start tree .null, .didOpen tree "a:b".toList ['x'], .didOpen tree "a:c".toList ['y'],
    .didChange tree "a:b".toList [['z']], .didClose tree "a:c".toList]

/-- The client closes the first document, too. -/
def closing : Event := .didClose tree "a:b".toList

/-- The client compiles without an argument. -/
def compiling : Event := .execute tree commands.compile []

/-- The URI of the first document. -/
def first : Uri := ⟨['a'], none, .rootless ['b'], none, none⟩

end TwoDocuments

open TwoDocuments in
/-- The first document is compiled, which is no file, until it is closed. -/
theorem compilesLastEdited_new_two_documents :
    (Turn.mk (server.run events) compiling).sent =
        [.popup .error (CompileError.notAFile first).message] ∧
      (Turn.mk (server.run (events ++ [closing])) compiling).sent =
        [.popup .error CompileError.noDocument.message] := by
  have hcompiles : CompilesLastEdited server := compilesLastEdited_new _ _
  constructor
  · have hrequest : (Turn.mk (server.run events) compiling).request? =
        some (.execute commands.compile []) := rfl
    obtain ⟨target, htarget, hiff⟩ := hcompiles.by_default events _ tree _ _ hrequest
    have hactive : active? (told (server.turns events)) = some first := rfl
    obtain rfl := (hiff first).2 (active?_eq_some_iff.1 hactive)
    exact htarget.sent_of_error rfl rfl
  · have hrequest : (Turn.mk (server.run (events ++ [closing])) compiling).request? =
        some (.execute commands.compile []) := rfl
    obtain ⟨target, htarget, hiff⟩ := hcompiles.by_default (events ++ [closing]) _ tree _ _ hrequest
    have hactive : active? (told (server.turns (events ++ [closing]))) = none := rfl
    -- the last one edited was `first`, which has been closed
    cases target with
    | none => exact htarget.sent_of_error rfl rfl
    | some uri =>
      have hedited := active?_eq_some_iff.2 ((hiff uri).1 rfl)
      rw [hactive] at hedited
      cases hedited

end SnippetServer.Server
