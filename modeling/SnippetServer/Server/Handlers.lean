import SnippetServer.Compiler.Basic
import SnippetServer.Server.Message
import SnippetServer.Server.State
import SnippetServer.Text.Quoted

namespace SnippetServer.Server

open Snippet Compiler

/-!
# How messages are handled

Every message is handled as a whole before the next one.  A handler gives the state after the
message and what is sent to the client meanwhile, in order; that of a request gives an answer too.

* `State.tell` — handles a notice;
* `State.ask` — handles a request;
* `State.afterChanges` — handles what the watcher has noticed;
* `State.didChange_frame` and so on — which parts of the state a handler can change.
-/

namespace State

/-! ### Notices -/

/-- Starts a watcher; without one the user is warned that changes go unnoticed. -/
def startWatcher (s : State) (tree : FileTree) : State × List Notification :=
  match Watcher.start s.store.source tree with
  | .ok watcher => ({ s with watcher := some watcher }, [])
  | .error cause =>
    (s, [.log .warning ("Snippet live reload disabled: ".toList ++ cause.message)])

/-- A document is opened, or opened again. -/
def didOpen (s : State) (uri : Uri) (text : Text) : State × List Notification :=
  let d := Document.ofText text
  ({ s.putDocument uri d with active := some uri }, [.eventFile uri d.isEventFile])

/-- A document after several new texts, and whether one of them has changed its status. -/
def replaceAll (d : Document) (texts : List Text) : Document × Bool :=
  texts.foldl
    (fun (d, changed) text =>
      let (d, flips) := d.replace text
      (d, changed || flips))
    (d, false)

/-- A document is changed.  The client is told its status if one of the changes has changed it. -/
def didChange (s : State) (uri : Uri) (texts : List Text) : State × List Notification :=
  match s.document? uri with
  | none => ({ s with active := some uri }, [])
  | some d =>
    let (new, changed) := replaceAll d texts
    ({ s.putDocument uri new with active := some uri },
      if changed then [.eventFile uri new.isEventFile] else [])

/-- A document is closed. -/
def didClose (s : State) (uri : Uri) : State :=
  let closed := s.dropDocument uri
  if s.active = some uri then { closed with active := none } else closed

/-- The configuration of the client has changed. -/
def didChangeConfiguration (s : State) (settings : Json) : State × List Notification :=
  match Settings.compilerSetting? settings with
  | none => (s, [])
  | some path =>
    let changed := { s with settings := s.settings.setCompiler path }
    (changed, changed.trace ("Compiler path set to ".toList ++ Text.quoted path))

/-- Whether a URI names a file whose change concerns the snippets. -/
def concerns (s : State) (uri : Uri) : Bool := uri.toPath?.any s.store.source.acceptsPath

/-- Files have changed. -/
def didChangeFiles (s : State) (tree : FileTree) (uris : List Uri) : State × List Notification :=
  if uris.any s.concerns then
    let rebuilt := s.rebuild tree
    (rebuilt, rebuilt.traceCount "Reloaded".toList)
  else (s, [])

/-- Handles a notice. -/
def tell (s : State) (tree : FileTree) : Notice → State × List Notification
  | .initialized =>
    let (started, warnings) := s.startWatcher tree
    (started, warnings ++ [.log .info "Taikou5 LSP server initialized".toList])
  | .exit => (s, [])
  | .didOpen uri text =>
    let (opened, sent) := s.didOpen uri text
    (opened, s.trace ("Document opened: ".toList ++ uri.text) ++ sent)
  | .didChange uri texts =>
    let (changed, sent) := s.didChange uri texts
    (changed, s.trace ("Document changed: ".toList ++ uri.text) ++ sent)
  | .didClose uri => (s.didClose uri, s.trace ("Document closed: ".toList ++ uri.text))
  | .didChangeConfiguration settings => s.didChangeConfiguration settings
  | .didChangeFiles uris => s.didChangeFiles tree uris

/-- Handles what has happened in the file tree: the watcher is told and looks at it. -/
def afterChanges (s : State) (tree : FileTree) (changes : List Change) : State :=
  match s.watcher with
  | none => s
  | some watcher =>
    let (store, settled) := (changes.foldl Watcher.note watcher).settle s.store tree
    { s with store, watcher := some settled }

/-! ### Requests -/

/-- Takes the options of a client, unless they do not decode. -/
def configure (s : State) (options : Option Json) : State :=
  match options.bind Settings.Options.decode? with
  | none => s
  | some o =>
    let settings := s.settings.applyOptions o
    { s with settings, store := s.store.setSource settings.source }

/-- The message that tells the user what has come of a compilation. -/
def verdict : Except CompileError Ending → Notification
  | .ok (.exited code) =>
    if code = 0 then .popup .info "Compiled to EVM".toList else failed (toString code).toList
  | .ok .killed => failed "signal".toList
  | .error cause => .popup .error cause.message
where
  /-- The message for a compiler that has found something wrong, or has been stopped. -/
  failed (exit : Text) : Notification :=
    .popup .error
      ("Compilation failed (exit ".toList ++ exit ++ "), see output for details".toList)

/-- What is sent for a compilation: every printed line, then what came of it. -/
def compileMessages (s : State) (launch : Launcher) (tree : FileTree) (target : Option Uri) :
    List Notification :=
  let outcome := compile launch tree s.settings.compiler target
  outcome.lines.map (.log .log) ++ [verdict outcome.result]

/-- The document that a compile command is about: the one that its first argument names, or without
arguments the document that is worked on. -/
def target (s : State) (arguments : List Json) : Except ParamsFault (Option Uri) :=
  match arguments with
  | [] => .ok s.active
  | argument :: _ =>
    match uri? argument with
    | some uri => .ok (some uri)
    | none => .error (.notUri argument)

/-- Runs a command. -/
def execute (s : State) (launch : Launcher) (tree : FileTree) (command : Text)
    (arguments : List Json) : State × Except RequestError Result × List Notification :=
  if command = commands.compile then
    match s.target arguments with
    | .error fault => (s, .error (.invalidParams fault), [])
    | .ok target => (s, .ok .nothing, s.compileMessages launch tree target)
  else if command = commands.reload then
    let rebuilt := s.rebuild tree
    (rebuilt, .ok (.count rebuilt.store.index.size), [])
  else (s, .error (.invalidParams (.unknownCommand command)), [])

/-- The text of a position. -/
def positionText (p : Position) : Text :=
  "Position \x7b line: ".toList ++ Nat.toDigits 10 p.line ++ ", character: ".toList ++
    Nat.toDigits 10 p.character ++ " \x7d".toList

/-- Handles a request. -/
def ask (s : State) (launch : Launcher) (tree : FileTree) :
    Request → State × Except RequestError Result × List Notification
  | .start options =>
    let ready := (s.configure options).rebuild tree
    (ready, .ok .ready,
      s.trace "Initializing Taikou5 LSP server".toList ++ ready.traceCount "Loaded".toList)
  | .shutdown =>
    ({ s with watcher := none }, .ok .nothing, s.trace "Shutting down server".toList)
  | .completion uri p =>
    (s,
      .ok (match s.document? uri with
        | some d => .items (Completion.itemsAt s.store.index d p)
        | none => .nothing),
      s.trace ("Completion request at ".toList ++ positionText p))
  | .execute command arguments =>
    let (after, answer, sent) := s.execute launch tree command arguments
    (after, answer, s.trace ("Execute command: ".toList ++ command) ++ sent)

/-- Whatever has come of a compilation, its verdict is a message to the user. -/
theorem exists_verdict_eq_popup (result : Except CompileError Ending) :
    ∃ level message, verdict result = .popup level message := by
  cases result with
  | error cause => exact ⟨_, _, rfl⟩
  | ok ending =>
    cases ending with
    | exited code =>
      rw [verdict]
      split <;> exact ⟨_, _, rfl⟩
    | killed => exact ⟨_, _, rfl⟩

/-! ### What a handler can change -/

section

variable (s : State) (launch : Launcher) (tree : FileTree)

/-- Starting to watch changes the watcher only. -/
theorem startWatcher_frame : ∃ watcher, (s.startWatcher tree).1 = { s with watcher } := by
  unfold startWatcher
  split
  · exact ⟨some _, rfl⟩
  · exact ⟨s.watcher, rfl⟩

/-- A change of a document changes the documents, and makes that one the active one. -/
theorem didChange_frame (uri : Uri) (texts : List Text) :
    ∃ documents, (s.didChange uri texts).1 = { s with documents, active := some uri } := by
  unfold didChange
  split <;> exact ⟨_, rfl⟩

/-- Closing a document changes the documents, and nothing is active if it was active. -/
theorem didClose_frame (uri : Uri) : ∃ documents, s.didClose uri =
    { s with documents, active := if s.active = some uri then none else s.active } := by
  unfold didClose
  split <;> exact ⟨_, rfl⟩

/-- A new configuration changes the settings only. -/
theorem didChangeConfiguration_frame (settings : Json) :
    ∃ new, (s.didChangeConfiguration settings).1 = { s with settings := new } := by
  unfold didChangeConfiguration
  split <;> exact ⟨_, rfl⟩

/-- A report of changed files changes the snippets only. -/
theorem didChangeFiles_frame (uris : List Uri) :
    ∃ store, (s.didChangeFiles tree uris).1 = { s with store } := by
  unfold didChangeFiles
  split <;> exact ⟨_, rfl⟩

/-- The options of a session change the settings, and the source of the snippets. -/
theorem configure_frame (options : Option Json) :
    ∃ settings store, s.configure options = { s with settings, store } := by
  unfold configure
  split <;> exact ⟨_, _, rfl⟩

/-- A command changes the snippets only. -/
theorem execute_frame (command : Text) (arguments : List Json) :
    ∃ store, (s.execute launch tree command arguments).1 = { s with store } := by
  unfold execute
  split
  · split <;> exact ⟨s.store, rfl⟩
  · split
    · exact ⟨s.store.rebuild tree, rfl⟩
    · exact ⟨s.store, rfl⟩

end

end State

end SnippetServer.Server
