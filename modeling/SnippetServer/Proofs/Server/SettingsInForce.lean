import SnippetServer.Proofs.Server.ServedIndex
import SnippetServer.Proofs.Settings.Precedence

namespace SnippetServer.Server

open Snippet Compiler

/-!
# The settings of a server

A server takes settings from two kinds of message only: the request that starts its session and the
notice that a configuration has changed.  So along every run its settings are those of its command
line after these supplies, and its snippets come from where these settings say.

* `Turn.supply?`, `supplied` — what is supplied in a turn, and in several;
* `Turn.settings_after` — what a turn does to the settings, `settings_run` — the settings after a
  run;
* `KeepsPrecedence`, `keepsPrecedence` — which settings are in force, whatever is supplied and
  whatever happens to the server.
-/

/-! ### What is supplied in a turn -/

/-- What a request supplies to the settings. -/
def Request.supply? : Request → Option Settings.Supply
  | .start (some payload) => some (.options payload)
  | _ => none

/-- What a notice supplies to the settings. -/
def Notice.supply? : Notice → Option Settings.Supply
  | .didChangeConfiguration settings => some (.configuration settings)
  | _ => none

/-- What is supplied to the settings in a turn. -/
def Turn.supply? (t : Turn) : Option Settings.Supply :=
  (t.request?.bind Request.supply?).or (t.notice?.bind Notice.supply?)

/-- What is supplied to the settings in turns, in order. -/
def supplied (turns : List Turn) : List Settings.Supply := turns.filterMap Turn.supply?

/-- A turn supplies at most one thing, and supplies it last. -/
theorem supplied_concat (turns : List Turn) (t : Turn) :
    supplied (turns ++ [t]) = supplied turns ++ t.supply?.toList := by
  rw [supplied, List.filterMap_append, supplied]
  cases h : t.supply? <;> simp [h]

/-! ### What handlers do to the settings -/

namespace State

/-- **Step.**  A notice has the effect on the settings of what it supplies. -/
theorem settings_tell (s : State) (tree : FileTree) (n : Notice) :
    (s.tell tree n).1.settings = s.settings.takeAll n.supply?.toList := by
  -- a configuration supplies a compiler or nothing, and no other notice supplies anything
  cases n with
  | didChangeConfiguration settings =>
    show (s.didChangeConfiguration settings).1.settings = s.settings.take (.configuration settings)
    rw [didChangeConfiguration, Settings.take]
    cases Settings.compilerSetting? settings <;> rfl
  | initialized =>
    obtain ⟨watcher, h⟩ := s.startWatcher_frame tree
    show (s.startWatcher tree).1.settings = s.settings
    rw [h]
  | exit => rfl
  | didOpen uri text => rfl
  | didChange uri texts =>
    obtain ⟨documents, h⟩ := s.didChange_frame uri texts
    show (s.didChange uri texts).1.settings = s.settings
    rw [h]
  | didClose uri =>
    obtain ⟨documents, h⟩ := s.didClose_frame uri
    show (s.didClose uri).settings = s.settings
    rw [h]
  | didChangeFiles uris =>
    obtain ⟨store, h⟩ := s.didChangeFiles_frame tree uris
    show (s.didChangeFiles tree uris).1.settings = s.settings
    rw [h]

/-- **Step.**  A request has the effect on the settings of what it supplies. -/
theorem settings_ask (s : State) (launch : Launcher) (tree : FileTree) (r : Request) :
    (s.ask launch tree r).1.settings = s.settings.takeAll r.supply?.toList := by
  -- only the start of a session brings options
  cases r with
  | start options =>
    show (s.configure options).settings = _
    cases options with
    | none => rfl
    | some payload =>
      show (s.configure (some payload)).settings = s.settings.take (.options payload)
      rw [configure, Settings.take, Option.bind_some]
      cases Settings.Options.decode? payload <;> rfl
  | shutdown => rfl
  | completion uri p => rfl
  | execute command arguments =>
    obtain ⟨store, h⟩ := s.execute_frame launch tree command arguments
    show (s.execute launch tree command arguments).1.settings = s.settings
    rw [h]

end State

/-! ### The settings along a run -/

/-- **Step.**  A turn has the effect on the settings of what is supplied in it. -/
theorem Turn.settings_after (t : Turn) :
    t.after.state.settings = t.before.state.settings.takeAll t.supply?.toList := by
  cases t.step with
  | notice n notice_eq request_eq batch_eq state_eq sent_eq unanswered =>
    rw [state_eq, supply?, notice_eq, request_eq]
    exact State.settings_tell _ _ n
  | request r launch notice_eq request_eq batch_eq state_eq sent_eq reply_eq =>
    rw [state_eq, supply?, notice_eq, request_eq, Option.bind_none, Option.or_none]
    exact State.settings_ask _ launch _ r
  | batch watcher notice_eq request_eq state_eq sent_eq unanswered =>
    rw [state_eq, supply?, notice_eq, request_eq]
    rfl

/-- **Run.**  The settings after a run are those of the start after everything supplied in it. -/
theorem settings_run (settings : Settings) (traces : Bool) (events : List Event) :
    ((Session.new settings traces).run events).state.settings =
      settings.takeAll (supplied ((Session.new settings traces).turns events)) := by
  -- what the last turn supplies is taken after all else
  induction events using List.reverseRecOn with
  | nil => rfl
  | append_singleton events event ih =>
    rw [Session.run_concat, Session.turns_concat, supplied_concat, Settings.takeAll_append, ← ih]
    exact Turn.settings_after _

/-- Which settings are in force, if the command line gives these values. -/
structure KeepsPrecedence (home : Path) (directory compiler : Option Path) : Prop where
  /-- What the command line gives stays, and else what was supplied last counts. -/
  follows : ∀ supplies, Settings.FollowsPrecedence home directory compiler supplies
    ((Settings.ofCommandLine home directory compiler).takeAll supplies)
  /-- The options that count are those that are written. -/
  reads_options : ∀ payload o,
    Settings.Options.decode? payload = some o ↔ Settings.Options.Written payload o
  /-- The compiler that counts is the one that is configured. -/
  reads_compiler : ∀ payload path,
    Settings.compilerSetting? payload = some path ↔ Settings.Configured payload path
  /-- What is not written as options changes nothing, although some of its values may be. -/
  refuses : ∀ payload, (∀ o, ¬ Settings.Options.Written payload o) → ∀ before after,
    (Settings.ofCommandLine home directory compiler).takeAll (before ++ .options payload :: after) =
      (Settings.ofCommandLine home directory compiler).takeAll (before ++ after)
  /-- The settings of a server are those after what has been supplied to it. -/
  settings_eq : ∀ traces events,
    ((Session.new (.ofCommandLine home directory compiler) traces).run events).state.settings =
      (Settings.ofCommandLine home directory compiler).takeAll
        (supplied ((Session.new (.ofCommandLine home directory compiler) traces).turns events))
  /-- The snippets of a server come from where its settings say. -/
  source_eq : ∀ traces events,
    ((Session.new (.ofCommandLine home directory compiler) traces).run events).state.store.source =
      ((Session.new (.ofCommandLine home directory compiler) traces).run
        events).state.settings.source

/-- **Precedence.**  Whatever the command line gives, whatever is supplied and whatever happens to
the server, the settings in force are those that take precedence. -/
theorem keepsPrecedence (home : Path) (directory compiler : Option Path) :
    KeepsPrecedence home directory compiler where
  follows := Settings.followsPrecedence_takeAll home directory compiler
  reads_options := fun _ _ => Settings.Options.decode?_eq_some_iff
  reads_compiler := fun _ _ => Settings.compilerSetting?_eq_some_iff
  refuses := fun _ h before after => Settings.takeAll_of_not_written h _ before after
  settings_eq := settings_run _
  source_eq := source_run _

namespace TwoSessions

/-- The directory of a server whose command line gives nothing. -/
def home : Path := Path.ofText ['/']

/-- An empty file tree. -/
def tree : FileTree := ⟨[], []⟩

/-- A server before its session. -/
def fresh : Session := .new (.ofCommandLine home none none) false

/-- Options with a directory and a load order. -/
def valid : Json :=
  object [("loadOrder", .arr [.str ['x']]), ("snippetExtension", .null),
    ("snippetsDir", .str ['/', 'b'])]

/-- The same directory, and a load order that is no list. -/
def spoiled : Json := object [("loadOrder", .int 1), ("snippetsDir", .str ['/', 'b'])]

/-- A configuration with a compiler in the section of the server. -/
def nested : Json := object [("taikou5", object [("compilerPath", .str ['x'])])]

/-- A configuration with a compiler under one name, and blanks around its path. -/
def flat : Json := object [("taikou5.compilerPath", .str [' ', 'c', '\n'])]

/-- The client starts the session with these options, and configures the compiler twice. -/
def events (options : Json) : List Event :=
  [.start tree options, .didChangeConfiguration tree nested, .didChangeConfiguration tree flat]

/-- What is supplied after the options. -/
def later : List Settings.Supply := [.configuration nested, .configuration flat]

/-- What the options hold, of which the extension is left out. -/
def offered : Settings.Options where
  directory := some ['/', 'b']
  compiler := none
  loadOrder := some [['x']]
  extension := none

end TwoSessions

open TwoSessions in
/-- Valid options count, value by value.  Of spoiled ones the directory does not count either, so
that the defaults stay.  The compiler is the one configured last. -/
theorem keepsPrecedence_two_sessions :
    (Settings.Options.Written valid offered ∧
      (fresh.run (events valid)).state.store.source.directory = Path.ofText ['/', 'b'] ∧
      (fresh.run (events valid)).state.store.source.extension = ".snippet".toList ∧
      (fresh.run (events valid)).state.store.source.loadOrder = [['x']]) ∧
    ((∀ o, ¬ Settings.Options.Written spoiled o) ∧
      (fresh.run (events spoiled)).state.store.source.directory =
        Path.ofText "/everedit".toList ∧
      (fresh.run (events spoiled)).state.store.source.loadOrder =
        ["fast", "script", "keywords"].map String.toList) ∧
    Settings.Configured flat [' ', 'c', '\n'] ∧
    ∀ options ∈ [valid, spoiled],
      (fresh.run (events options)).state.settings.compiler = some (Path.ofText ['c']) := by
  have hkeeps : KeepsPrecedence home none none := keepsPrecedence home none none
  have hvalid : Settings.Options.Written valid offered := (hkeeps.reads_options _ _).1 rfl
  have hspoiled : ∀ o, ¬ Settings.Options.Written spoiled o := by
    intro o ho
    have hnone : Settings.Options.decode? spoiled = none := rfl
    cases hnone.symm.trans ((hkeeps.reads_options _ _).2 ho)
  have hflat : Settings.Configured flat [' ', 'c', '\n'] := (hkeeps.reads_compiler _ _).1 rfl
  -- the settings of both servers, of which the second one has heard of no options
  have hfirst : (fresh.run (events valid)).state.settings =
      (Settings.ofCommandLine home none none).takeAll (.options valid :: later) := by
    have hsupplied : supplied (fresh.turns (events valid)) = .options valid :: later := rfl
    rw [← hsupplied]
    exact hkeeps.settings_eq false (events valid)
  have hsecond : (fresh.run (events spoiled)).state.settings =
      (Settings.ofCommandLine home none none).takeAll ([] ++ later) := by
    have hsupplied : supplied (fresh.turns (events spoiled)) = [] ++ .options spoiled :: later := by
      rfl
    rw [← hkeeps.refuses spoiled hspoiled, ← hsupplied]
    exact hkeeps.settings_eq false (events spoiled)
  have hsource : ∀ options, (fresh.run (events options)).state.store.source =
      (fresh.run (events options)).state.settings.source := fun options =>
    hkeeps.source_eq false (events options)
  have hvalues := hkeeps.follows (.options valid :: later)
  have hdefaults := hkeeps.follows ([] ++ later)
  refine ⟨⟨hvalid, ?_⟩, ⟨hspoiled, ?_⟩, hflat, ?_⟩
  · rw [hsource, hfirst]
    exact ⟨(hvalues.directory_last rfl).trans rfl, hvalues.extension_last.trans rfl,
      hvalues.loadOrder_last.trans rfl⟩
  · rw [hsource, hsecond]
    exact ⟨(hdefaults.directory_last rfl).trans rfl, hdefaults.loadOrder_last.trans rfl⟩
  · intro options hoptions
    rcases List.mem_pair.1 hoptions with rfl | rfl
    · rw [hfirst]
      exact (hvalues.compiler_last rfl).trans rfl
    · rw [hsecond]
      exact (hdefaults.compiler_last rfl).trans rfl

end SnippetServer.Server
