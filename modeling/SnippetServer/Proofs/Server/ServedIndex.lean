import SnippetServer.Proofs.Server.CurrentText

namespace SnippetServer.Server

open Snippet Compiler

/-!
# The index that is served

Some turns make the server read the snippets again: the one that starts the session, the command to
reload them, and whatever tells that a path has changed which concerns them.  From one of these
turns to the next the same index is served: that of the directory as it was then, with the settings
in force.

* `Turn.triggers` — whether a turn makes the server read the snippets;
* `lastLoaded` — the index that has been read last;
* `Turn.updates` — what a turn does to the snippets, `index_run` — the index after a run;
* `completionAnswer`, `completion_run` — the answer to a completion request after a run;
* `ServesLastLoaded`, `servesLastLoaded_new` — what is served along every run.
-/

/-! ### Turns that read the snippets -/

/-- Whether a request has the snippets read. -/
def Request.reloads : Request → Bool
  | .start _ => true
  | .execute command _ => command == commands.reload
  | _ => false

/-- Whether a notice has the snippets read: one of its files concerns them. -/
def Notice.reloads (source : Source) : Notice → Bool
  | .didChangeFiles uris => uris.any fun uri => uri.toPath?.any source.acceptsPath
  | _ => false

/-- Whether the snippets are read in a turn. -/
def Turn.triggers (t : Turn) : Bool :=
  t.request?.any Request.reloads ||
    t.notice?.any (Notice.reloads t.before.state.settings.source) ||
    t.batch.any t.before.state.settings.source.acceptsPath

/-- The index of the directory as it was in the last turn that has read it, with the settings that
were in force then; before the first of these turns it is empty. -/
def lastLoaded (turns : List Turn) : Index :=
  match (turns.filter Turn.triggers).getLast? with
  | some t => t.after.state.settings.source.load t.event.tree
  | none => Index.empty

/-- **Step.**  A turn that reads the snippets counts from then on, and any other one does not. -/
theorem lastLoaded_concat (turns : List Turn) (t : Turn) :
    lastLoaded (turns ++ [t]) =
      if t.triggers then t.after.state.settings.source.load t.event.tree else lastLoaded turns := by
  rw [lastLoaded, List.filter_append, lastLoaded]
  by_cases ht : t.triggers <;> simp [ht]

/-- Turns that do not read the snippets do not count. -/
theorem lastLoaded_append {turns more : List Turn} (h : ∀ t ∈ more, t.triggers = false) :
    lastLoaded (turns ++ more) = lastLoaded turns := by
  have hmore : more.filter Turn.triggers = [] := by
    rw [List.filter_eq_nil_iff]
    intro t ht
    simp [h t ht]
  rw [lastLoaded, List.filter_append, hmore, List.append_nil, lastLoaded]

/-! ### What handlers do to the snippets -/

/-- What becomes of the snippets: they are those of the directory of the settings if they are read,
and those from before if not. -/
structure State.Updates (before after : State) (tree : FileTree) (reads : Bool) : Prop where
  /-- The next reading looks at the directory of the settings. -/
  source_eq : after.store.source = after.settings.source
  /-- The index. -/
  index_eq : after.store.index =
    if reads then after.settings.source.load tree else before.store.index

namespace State

variable {s s' : State} {tree : FileTree}

/-- Whatever else changes, the snippets stay. -/
theorem Updates.kept (h : s.store.source = s.settings.source) (store_eq : s'.store = s.store)
    (source_eq : s'.settings.source = s.settings.source) : s.Updates s' tree false where
  source_eq := by rw [store_eq, h, source_eq]
  index_eq := by rw [store_eq]; rfl

/-- The snippets are read again. -/
theorem Updates.rebuilt (h : s'.store.source = s'.settings.source) :
    s.Updates (s'.rebuild tree) tree true where
  source_eq := h
  index_eq := congrArg (Source.load · tree) h

/-- A notice of changed files has the snippets read if one of the files concerns them. -/
theorem updates_didChangeFiles (h : s.store.source = s.settings.source) (uris : List Uri) :
    s.Updates (s.didChangeFiles tree uris).1 tree
      ((Notice.didChangeFiles uris).reloads s.settings.source) := by
  have hconcerns : uris.any s.concerns =
      (Notice.didChangeFiles uris).reloads s.settings.source := by
    show (uris.any fun uri => uri.toPath?.any s.store.source.acceptsPath) = _
    rw [h]
    rfl
  rw [didChangeFiles, ← hconcerns]
  by_cases hany : uris.any s.concerns
  · rw [if_pos hany, hany]
    exact .rebuilt h
  · rw [if_neg hany, Bool.eq_false_iff.2 hany]
    exact .kept h rfl rfl

/-- A new configuration never has the snippets read. -/
theorem updates_didChangeConfiguration (h : s.store.source = s.settings.source) (settings : Json) :
    s.Updates (s.didChangeConfiguration settings).1 tree false := by
  unfold didChangeConfiguration
  split
  · exact .kept h rfl rfl
  · -- only the compiler is set
    refine .kept h rfl ?_
    simp only [Settings.setCompiler]
    split <;> rfl

/-- **Step.**  A notice leaves the snippets as they are, unless it has them read. -/
theorem updates_tell (h : s.store.source = s.settings.source) (tree : FileTree) (n : Notice) :
    s.Updates (s.tell tree n).1 tree (n.reloads s.settings.source) := by
  cases n with
  | didChangeFiles uris => exact updates_didChangeFiles h uris
  | didChangeConfiguration settings => exact updates_didChangeConfiguration h settings
  | initialized =>
    show s.Updates (s.startWatcher tree).1 tree false
    unfold startWatcher
    split <;> exact .kept h rfl rfl
  | exit => exact .kept h rfl rfl
  | didOpen uri text => exact .kept h rfl rfl
  | didChange uri texts =>
    show s.Updates (s.didChange uri texts).1 tree false
    unfold didChange
    split <;> exact .kept h rfl rfl
  | didClose uri =>
    show s.Updates (s.didClose uri) tree false
    unfold didClose
    split <;> exact .kept h rfl rfl

/-- The options of a client change the directory of the settings and that of the store alike. -/
theorem source_configure (h : s.store.source = s.settings.source) (options : Option Json) :
    (s.configure options).store.source = (s.configure options).settings.source := by
  unfold configure
  split
  · exact h
  · rfl

/-- **Step.**  A request leaves the snippets as they are, unless it has them read. -/
theorem updates_ask (h : s.store.source = s.settings.source) (launch : Launcher) (tree : FileTree)
    (r : Request) : s.Updates (s.ask launch tree r).1 tree r.reloads := by
  cases r with
  | start options => exact .rebuilt (source_configure h options)
  | shutdown => exact .kept h rfl rfl
  | completion uri p => exact .kept h rfl rfl
  | execute command arguments =>
    show s.Updates (s.execute launch tree command arguments).1 tree (command == commands.reload)
    unfold execute
    -- the command that is run decides whether the snippets are read
    by_cases hcompile : command = commands.compile
    · have hreload : (command == commands.reload) = false := by rw [hcompile]; decide
      rw [if_pos hcompile, hreload]
      split <;> exact .kept h rfl rfl
    by_cases hreload : command = commands.reload
    · rw [if_neg hcompile, if_pos hreload, beq_iff_eq.2 hreload]
      exact .rebuilt h
    · rw [if_neg hcompile, if_neg hreload, beq_eq_false_iff_ne.2 hreload]
      exact .kept h rfl rfl

/-- **Step.**  A batch of paths leaves the snippets as they are, unless one of them concerns
them. -/
theorem updates_batch (h : s.store.source = s.settings.source) (tree : FileTree)
    (paths : List Path) (watcher : Option Watcher) :
    s.Updates { s with store := s.store.afterBatch tree paths, watcher } tree
      (paths.any s.settings.source.acceptsPath) := by
  rw [← h, Store.afterBatch]
  by_cases hany : paths.any s.store.source.acceptsPath
  · have hrebuilt : s.Updates (({ s with watcher } : State).rebuild tree) tree true := .rebuilt h
    rw [if_pos hany, hany]
    exact hrebuilt
  · rw [if_neg hany, Bool.eq_false_iff.2 hany]
    exact .kept h rfl rfl

end State

/-- **Step.**  A turn leaves the snippets as they are, unless they are read in it. -/
theorem Turn.updates {t : Turn} (h : t.before.state.store.source = t.before.state.settings.source) :
    t.before.state.Updates t.after.state t.event.tree t.triggers := by
  -- in each kind of turn one of the three causes of a reading remains
  cases t.step with
  | notice n notice_eq request_eq batch_eq state_eq sent_eq unanswered =>
    have htriggers : t.triggers = n.reloads t.before.state.settings.source := by
      simp [triggers, notice_eq, request_eq, batch_eq]
    rw [state_eq, htriggers]
    exact State.updates_tell h t.event.tree n
  | request r launch notice_eq request_eq batch_eq state_eq sent_eq reply_eq =>
    have htriggers : t.triggers = r.reloads := by
      simp [triggers, notice_eq, request_eq, batch_eq]
    rw [state_eq, htriggers]
    exact State.updates_ask h launch t.event.tree r
  | batch watcher notice_eq request_eq state_eq sent_eq unanswered =>
    have htriggers : t.triggers = t.batch.any t.before.state.settings.source.acceptsPath := by
      simp [triggers, notice_eq, request_eq]
    rw [state_eq, htriggers]
    exact State.updates_batch h t.event.tree t.batch watcher

/-! ### The snippets along a run -/

/-- **Run.**  The store and the settings agree on where snippets come from. -/
theorem source_run (settings : Settings) (traces : Bool) (events : List Event) :
    ((Session.new settings traces).run events).state.store.source =
      ((Session.new settings traces).run events).state.settings.source := by
  -- the agreement before a turn is what its step needs
  induction events using List.reverseRecOn with
  | nil => rfl
  | append_singleton events event ih =>
    rw [Session.run_concat]
    exact (Turn.updates ih).source_eq

/-- **Run.**  The index after a run is the one that has been read last. -/
theorem index_run (settings : Settings) (traces : Bool) (events : List Event) :
    ((Session.new settings traces).run events).state.store.index =
      lastLoaded ((Session.new settings traces).turns events) := by
  induction events using List.reverseRecOn with
  | nil => rfl
  | append_singleton events event ih =>
    rw [Session.run_concat, Session.turns_concat, lastLoaded_concat, ← ih]
    exact (Turn.updates (source_run settings traces events)).index_eq

/-! ### Answers -/

namespace Turn

variable {t : Turn}

/-- A completion request is answered by what the index has for the document, if it is open. -/
theorem reply_of_completion {uri : Uri} {p : Position}
    (h : t.request? = some (.completion uri p)) :
    t.reply = .result (match t.before.state.document? uri with
      | some d => .items (Completion.itemsAt t.before.state.store.index d p)
      | none => .nothing) := by
  obtain ⟨launch, hserves⟩ := exists_serves h
  exact hserves.reply_eq

/-- The command to reload is answered by the size of the index that it has read. -/
theorem reply_of_reload {arguments : List Json}
    (h : t.request? = some (.execute commands.reload arguments)) :
    t.reply = .result (.count t.after.state.store.index.size) := by
  obtain ⟨launch, hserves⟩ := exists_serves h
  rw [hserves.reply_eq, hserves.state_eq]
  rfl

end Turn

/-- The answer to a completion request according to what has happened before. -/
def completionAnswer (turns : List Turn) (uri : Uri) (p : Position) : Result :=
  match currentText? uri (told turns) with
  | some text => .items (Completion.itemsAt (lastLoaded turns) (.ofText text) p)
  | none => .nothing

/-- **Run.**  What has happened before decides the answer to a completion request. -/
theorem completion_run (settings : Settings) (traces : Bool) (events : List Event) {event : Event}
    {uri : Uri} {p : Position}
    (h : (Turn.mk ((Session.new settings traces).run events) event).request? =
      some (.completion uri p)) :
    (Turn.mk ((Session.new settings traces).run events) event).reply =
      .result (completionAnswer ((Session.new settings traces).turns events) uri p) := by
  rw [Turn.reply_of_completion h, document?_run, index_run, completionAnswer]
  cases currentText? uri (told ((Session.new settings traces).turns events)) <;> rfl

/-- An open document is offered one item for every entry of the index that has been read last. -/
theorem length_items_run (settings : Settings) (traces : Bool) (events : List Event) {event : Event}
    {uri : Uri} {p : Position}
    (h : (Turn.mk ((Session.new settings traces).run events) event).request? =
      some (.completion uri p))
    (hopen : (currentText? uri (told ((Session.new settings traces).turns events))).isSome) :
    ∃ items, (Turn.mk ((Session.new settings traces).run events) event).reply =
      .result (.items items) ∧
        items.length = (lastLoaded ((Session.new settings traces).turns events)).size := by
  obtain ⟨text, htext⟩ := Option.isSome_iff_exists.1 hopen
  have hreply := completion_run settings traces events h
  rw [completionAnswer, htext] at hreply
  exact ⟨_, hreply, Completion.length_itemsAt _ _ p⟩

/-! ### What is served -/

/-- What is served along every run of a session. -/
structure ServesLastLoaded (s : Session) : Prop where
  /-- The index is always the one that has been read last. -/
  index_eq : ∀ events, (s.run events).state.store.index = lastLoaded (s.turns events)
  /-- The items of completion come from that index. -/
  items_eq : ∀ events event uri p,
    (Turn.mk (s.run events) event).request? = some (.completion uri p) →
    (Turn.mk (s.run events) event).reply = .result (completionAnswer (s.turns events) uri p)
  /-- The session is started at most once. -/
  starts_once : ∀ events, ((s.turns events).filter Turn.starts).length ≤ 1
  /-- Any other turn leaves the index as it is. -/
  index_unchanged : ∀ events event, (Turn.mk (s.run events) event).triggers = false →
    (s.run (events ++ [event])).state.store.index = (s.run events).state.store.index
  /-- Reading a directory that cannot be listed leaves nothing. -/
  index_empty : ∀ events event cause, (Turn.mk (s.run events) event).triggers = true →
    event.tree.listing (s.run (events ++ [event])).state.settings.source.directory =
      .error cause →
    (s.run (events ++ [event])).state.store.index = Index.empty
  /-- The command to reload is answered by the number of items that every open document is offered
  until the snippets are read again. -/
  reload_count : ∀ events event arguments,
    (Turn.mk (s.run events) event).request? = some (.execute commands.reload arguments) →
    ∃ n, (Turn.mk (s.run events) event).reply = .result (.count n) ∧
      ∀ later last uri p,
        (∀ t ∈ (s.run (events ++ [event])).turns later, t.triggers = false) →
        (Turn.mk (s.run (events ++ [event] ++ later)) last).request? = some (.completion uri p) →
        (currentText? uri (told (s.turns (events ++ [event] ++ later)))).isSome →
        ∃ items, (Turn.mk (s.run (events ++ [event] ++ later)) last).reply =
          .result (.items items) ∧ items.length = n

/-- A server always serves the index that it has read last. -/
theorem servesLastLoaded_new (settings : Settings) (traces : Bool) :
    ServesLastLoaded (Session.new settings traces) where
  index_eq := index_run settings traces
  items_eq := fun events _ _ _ h => completion_run settings traces events h
  starts_once := fun events => (starts_run _ events).1
  index_unchanged := by
    intro events event h
    rw [index_run, index_run, Session.turns_concat, lastLoaded_concat, h]
    rfl
  index_empty := by
    intro events event cause h hlisting
    rw [index_run, Session.turns_concat, lastLoaded_concat, h, if_pos rfl]
    rw [Session.run_concat] at hlisting
    rw [Source.load, Source.files, hlisting]
  reload_count := by
    intro events event arguments h
    refine ⟨_, Turn.reply_of_reload h, ?_⟩
    intro later last uri p hlater hlast hopen
    obtain ⟨items, hreply, hlength⟩ := length_items_run settings traces _ hlast hopen
    refine ⟨items, hreply, ?_⟩
    -- nothing has been read since, so that the items come from the index that has been counted
    rw [hlength, Session.turns_append, lastLoaded_append hlater, ← index_run, Session.run_concat]

namespace FirstFile

/-- A server whose snippets are in the root. -/
def server : Session :=
  .new (.ofCommandLine (Path.ofText ['/']) (some (Path.ofText ['/'])) none) false

/-- A tree without files. -/
def bare : FileTree where
  home := []
  nodes := []

/-- A tree with a file that holds one snippet. -/
def filled : FileTree where
  home := []
  nodes := [([Text.encode "a.snippet".toList], .file (Text.encode "#t=A\n#g=a\nx".toList) none)]

/-- A document is opened before there is a snippet file.  Then the file is noticed, and later, when
it is gone, another path is reported, which is not that of a snippet file. -/
def events : List Event :=
  [.start bare .null, .didOpen bare "a:b".toList ['x'],
    .batch filled [Path.ofText "/a.snippet".toList], .batch bare [Path.ofText "/a.txt".toList]]

/-- The client asks for the items at the end of the document. -/
def last : Event := .completion bare "a:b".toList 0 1

/-- The URI of the document. -/
def uri : Uri := ⟨['a'], none, .rootless ['b'], none, none⟩

/-- What the server reads of the tree with the file. -/
theorem size_load_filled : (server.state.settings.source.load filled).size = 1 := by
  have hfiles : server.state.settings.source.files filled =
      .ok [⟨"a.snippet".toList, "#t=A\n#g=a\nx".toList⟩] := rfl
  -- sorting does not reduce, but there is only one file
  simp only [Source.load, hfiles, Index.build, Index.recordsOf, inLoadOrder,
    List.mergeSort_singleton]
  rfl

end FirstFile

open FirstFile in
/-- One item comes from the file that has been noticed. -/
theorem servesLastLoaded_new_first_file :
    (server.run events).state.store.index.size = 1 ∧
      ∃ items, (Turn.mk (server.run events) last).reply = .result (.items items) ∧
        items.length = 1 := by
  have hserves : ServesLastLoaded server := servesLastLoaded_new _ _
  have hsize : (lastLoaded (server.turns events)).size = 1 := size_load_filled
  have htext : currentText? uri (told (server.turns events)) = some ['x'] := rfl
  have hlast : (Turn.mk (server.run events) last).request? = some (.completion uri ⟨0, 1⟩) := by
    rfl
  have hreply := hserves.items_eq events last uri ⟨0, 1⟩ hlast
  rw [completionAnswer, htext] at hreply
  refine ⟨?_, _, hreply, ?_⟩
  · rw [hserves.index_eq, hsize]
  · rw [Completion.length_itemsAt, hsize]

end SnippetServer.Server
