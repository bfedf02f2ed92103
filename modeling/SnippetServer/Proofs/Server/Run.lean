import SnippetServer.Server.Frame
import Mathlib.Data.List.Induction

namespace SnippetServer.Server

open Snippet Compiler

/-!
# Runs of a server

A server takes one message after the other.  Between two messages the file tree may change in any
way, and watchers may report any paths.  What a message asks of the server depends on the phase of
the session: much of what a client can send is refused or dropped, and leaves no trace.

* `Event` — what can happen to a server, with the file tree of that moment;
* `Turn` — an event and the session that it happens to; `Turn.after`, `Turn.reply`, `Turn.sent` are
  what comes of it;
* `Turn.notice?`, `Turn.request?` — the message that is handled in a turn, if any;
* `Turn.step` — everything that a turn can do to the state of the server;
* `Turn.Serves` — what comes of a turn in which a request is served;
* `Session.run`, `Session.turns` — the session after a list of events, and the turns of the run;
* `starts_run` — a run starts its session at most once;
* `Event.start` and so on — events as a client writes them.
-/

/-! ### Events and turns -/

/-- What can happen to a server. -/
inductive Event where
  /-- The client asks for something; processes run under this launcher. -/
  | request (launch : Launcher) (tree : FileTree) (method : Text) (params : Option Json)
  /-- The client tells something. -/
  | notice (tree : FileTree) (method : Text) (params : Option Json)
  /-- Something happens in the file tree; the watcher of the server is told and looks at it. -/
  | changes (tree : FileTree) (list : List Change)
  /-- Whatever watches the file tree reports a batch of paths. -/
  | batch (tree : FileTree) (paths : List Path)

/-- The file tree at the moment of an event. -/
def Event.tree : Event → FileTree
  | .request _ tree _ _ => tree
  | .notice tree _ _ => tree
  | .changes tree _ => tree
  | .batch tree _ => tree

/-- The server after a batch of paths has been reported to it. -/
def Session.afterBatch (s : Session) (tree : FileTree) (paths : List Path) : Session :=
  { s with state.store := s.state.store.afterBatch tree paths }

/-- An event and the session that it happens to. -/
structure Turn where
  /-- The session before the event. -/
  before : Session
  /-- The event. -/
  event : Event

namespace Turn

/-- The session after a turn, the reply, and what has been sent. -/
def outcome (t : Turn) : Session × Reply × List Notification :=
  match t.event with
  | .request launch tree method params => t.before.request launch tree method params
  | .notice tree method params => t.before.notify tree method params
  | .changes tree list => (t.before.afterChanges tree list, .silent, [])
  | .batch tree paths => (t.before.afterBatch tree paths, .silent, [])

/-- The session after a turn. -/
def after (t : Turn) : Session := t.outcome.1

/-- What becomes of the message of a turn. -/
def reply (t : Turn) : Reply := t.outcome.2.1

/-- What the server sends in a turn. -/
def sent (t : Turn) : List Notification := t.outcome.2.2

end Turn

/-! ### Messages as a client writes them -/

namespace Event

variable (tree : FileTree)

/-- The client starts the session, on a system that runs no processes. -/
def start (options : Json) : Event :=
  .request (fun _ _ _ => .error .unsupported) tree "initialize".toList
    (some (object [("initializationOptions", options), ("capabilities", object [])]))

/-- The client opens a document. -/
def didOpen (uri text : Text) : Event :=
  .notice tree "textDocument/didOpen".toList
    (some (object [("textDocument", object [("uri", .str uri), ("languageId", .str []),
      ("version", .int 0), ("text", .str text)])]))

/-- The client gives a document new texts. -/
def didChange (uri : Text) (texts : List Text) : Event :=
  .notice tree "textDocument/didChange".toList
    (some (object [("textDocument", object [("uri", .str uri), ("version", .int 0)]),
      ("contentChanges", .arr (texts.map fun text => object [("text", .str text)]))]))

/-- The client closes a document. -/
def didClose (uri : Text) : Event :=
  .notice tree "textDocument/didClose".toList
    (some (object [("textDocument", object [("uri", .str uri)])]))

/-- The configuration of the client has changed. -/
def didChangeConfiguration (settings : Json) : Event :=
  .notice tree "workspace/didChangeConfiguration".toList (some (object [("settings", settings)]))

/-- The client runs a command, on a system that runs no processes. -/
def execute (command : Text) (arguments : List Json) : Event :=
  .request (fun _ _ _ => .error .unsupported) tree "workspace/executeCommand".toList
    (some (object [("command", .str command), ("arguments", .arr arguments)]))

/-- The client asks for the items at a position. -/
def completion (uri : Text) (line column : Nat) : Event :=
  .request (fun _ _ _ => .error .unsupported) tree "textDocument/completion".toList
    (some (object [("textDocument", object [("uri", .str uri)]),
      ("position", positionJson line column)]))

end Event

/-! ### What is handled in a turn -/

/-- Whether a phase admits a request: the first one starts the session, and what comes before that
or after the end of the session is refused. -/
def Phase.admits : Phase → Method → Bool
  | .fresh, .start => true
  | .running, .completion => true
  | .running, .execute => true
  | .running, .shutdown => true
  | _, _ => false

/-- The paths that the watcher of a server looks at after it has been told of changes. -/
def State.gathered (s : State) (changes : List Change) : List Path :=
  match s.watcher with
  | none => []
  | some watcher => (changes.foldl Watcher.note watcher).gathered

/-- After changes the paths that the watcher has gathered are looked at. -/
theorem State.afterChanges_eq (s : State) (tree : FileTree) (changes : List Change) :
    ∃ watcher, s.afterChanges tree changes =
      { s with store := s.store.afterBatch tree (s.gathered changes), watcher } := by
  obtain ⟨documents, settings, store, watcher, active, traces⟩ := s
  cases watcher with
  | none => exact ⟨none, rfl⟩
  | some watcher => exact ⟨_, rfl⟩

namespace Turn

/-- The notice that is handled in a turn. -/
def notice? (t : Turn) : Option Notice :=
  match t.event with
  | .notice _ name params =>
    if t.before.phase = .running then
      (Method.ofText? name).bind fun method => Notice.decode? method params
    else none
  | _ => none

/-- The request that is served in a turn. -/
def request? (t : Turn) : Option Request :=
  match t.event with
  | .request _ _ name params =>
    (Method.ofText? name).bind fun method =>
      if t.before.phase.admits method then Request.decode? method params else none
  | _ => none

/-- The paths that are looked at in a turn. -/
def batch (t : Turn) : List Path :=
  match t.event with
  | .changes _ list => t.before.state.gathered list
  | .batch _ paths => paths
  | _ => []

/-- What a turn can do: it handles a notice, or it serves a request, or it does neither and looks at
a batch of paths, which is empty if a message is refused or dropped. -/
inductive Step (t : Turn) : Prop where
  /-- A notice is handled. -/
  | notice (n : Notice) (notice_eq : t.notice? = some n) (request_eq : t.request? = none)
    (batch_eq : t.batch = []) (state_eq : t.after.state = (t.before.state.tell t.event.tree n).1)
    (sent_eq : t.sent = (t.before.state.tell t.event.tree n).2)
    (unanswered : ∀ r, t.reply ≠ .result r)
  /-- A request is served. -/
  | request (r : Request) (launch : Launcher) (notice_eq : t.notice? = none)
    (request_eq : t.request? = some r) (batch_eq : t.batch = [])
    (state_eq : t.after.state = (t.before.state.ask launch t.event.tree r).1)
    (sent_eq : t.sent = (t.before.state.ask launch t.event.tree r).2.2)
    (reply_eq : t.reply = Reply.ofAnswer (t.before.state.ask launch t.event.tree r).2.1)
  /-- A batch of paths is looked at, and only the watcher and the snippets can change. -/
  | batch (watcher : Option Watcher) (notice_eq : t.notice? = none) (request_eq : t.request? = none)
    (state_eq : t.after.state = { t.before.state with
      store := t.before.state.store.afterBatch t.event.tree t.batch, watcher })
    (sent_eq : t.sent = []) (unanswered : ∀ r, t.reply ≠ .result r)

/-! ### Every turn is a step -/

/-- A turn in which nothing is handled looks at no paths either. -/
theorem Step.idle {t : Turn} {next : Session} {reply : Reply} (notice_eq : t.notice? = none)
    (request_eq : t.request? = none) (batch_eq : t.batch = [])
    (outcome_eq : t.outcome = (next, reply, [])) (state_eq : next.state = t.before.state)
    (unanswered : ∀ r, reply ≠ .result r) : t.Step := by
  refine .batch t.before.state.watcher notice_eq request_eq ?_ ?_ ?_
  · rw [after, outcome_eq, batch_eq]
    exact state_eq
  · rw [sent, outcome_eq]
  · rw [Turn.reply, outcome_eq]
    exact unanswered

/-- A turn that does what telling the server of a notice does handles that notice. -/
theorem Step.told {t : Turn} {next : Session} {sent : List Notification} {n : Notice}
    (notice_eq : t.notice? = some n) (request_eq : t.request? = none) (batch_eq : t.batch = [])
    (outcome_eq : t.outcome = (next, .silent, sent))
    (tell_eq : t.before.state.tell t.event.tree n = (next.state, sent)) : t.Step := by
  refine .notice n notice_eq request_eq batch_eq ?_ ?_ ?_
  · rw [after, outcome_eq, tell_eq]
  · rw [Turn.sent, outcome_eq, tell_eq]
  · rw [Turn.reply, outcome_eq]
    simp

/-- A turn that does what serving a request does serves that request. -/
theorem Step.served {t : Turn} {launch : Launcher} {next : Phase} {r : Request}
    (notice_eq : t.notice? = none) (request_eq : t.request? = some r) (batch_eq : t.batch = [])
    (outcome_eq : t.outcome = t.before.serve launch t.event.tree next r) : t.Step := by
  refine .request r launch notice_eq request_eq batch_eq ?_ ?_ ?_
  · rw [after, outcome_eq]
    rfl
  · rw [sent, outcome_eq]
    rfl
  · rw [reply, outcome_eq]
    rfl

/-- A notice that does not end the server or the session is told if the session runs. -/
theorem notify_eq {s : Session} {name : Text} {method : Method} (tree : FileTree)
    (params : Option Json) (hphase : s.phase ≠ .exited) (hname : Method.ofText? name = some method)
    (hexit : method ≠ .exit) (hshutdown : method ≠ .shutdown) :
    s.notify tree name params =
      if s.phase = .running then
        match Notice.decode? method params with
        | some n => ({ s with state := (s.state.tell tree n).1 }, .silent, (s.state.tell tree n).2)
        | none => (s, .silent, [])
      else (s, .silent, []) := by
  unfold Session.notify
  rw [if_neg hphase, hname]
  cases method with
  | exit => exact absurd rfl hexit
  | shutdown => exact absurd rfl hshutdown
  | _ => rfl

/-- What the client tells is handled, or it has no effect on the state of the server. -/
theorem step_notice (s : Session) (tree : FileTree) (name : Text) (params : Option Json) :
    Step ⟨s, .notice tree name params⟩ := by
  by_cases hexited : s.phase = .exited
  · have hout : s.notify tree name params = (s, .exited, []) := by simp [Session.notify, hexited]
    exact .idle (by simp [notice?, hexited]) rfl rfl hout rfl (by simp)
  -- until it has exited, the server drops what it does not know
  cases hname : Method.ofText? name with
  | none =>
    have hout : s.notify tree name params = (s, .silent, []) := by
      simp [Session.notify, hexited, hname]
    exact .idle (by simp [notice?, hname]) rfl rfl hout rfl (by simp)
  | some method =>
    by_cases hexit : method = .exit
    · subst hexit
      have hout : s.notify tree name params = ({ s with phase := .exited }, .silent, []) := by
        simp [Session.notify, hexited, hname]
      by_cases hrunning : s.phase = .running
      · -- the notice is taken note of, and the server ends
        have hn : notice? ⟨s, .notice tree name params⟩ = some .exit := by
          simp [notice?, hname, hrunning, Notice.decode?]
        exact .told hn rfl rfl hout rfl
      · exact .idle (by simp [notice?, hrunning]) rfl rfl hout rfl (by simp)
    by_cases hshutdown : method = .shutdown
    · subst hshutdown
      have hout : s.notify tree name params =
          (if s.phase = .running then { s with phase := .stopped } else s, .silent, []) := by
        simp [Session.notify, hexited, hname]
      refine .idle ?_ rfl rfl hout ?_ (by simp)
      · simp [notice?, hname, Notice.decode?]
      · split <;> rfl
    have hout := notify_eq tree params hexited hname hexit hshutdown
    by_cases hrunning : s.phase = .running
    · rw [if_pos hrunning] at hout
      cases hn : Notice.decode? method params with
      | none =>
        rw [hn] at hout
        exact .idle (by simp [notice?, hname, hn]) rfl rfl hout rfl (by simp)
      | some n =>
        rw [hn] at hout
        exact .told (by simp [notice?, hname, hrunning, hn]) rfl rfl hout rfl
    · rw [if_neg hrunning] at hout
      exact .idle (by simp [notice?, hrunning]) rfl rfl hout rfl (by simp)

/-- A request that the phase admits is served if it decodes. -/
theorem request_of_admitted {s : Session} {name : Text} {params : Option Json} {method : Method}
    {r : Request} (launch : Launcher) (tree : FileTree) (hname : Method.ofText? name = some method)
    (hadmits : s.phase.admits method = true) (hr : Request.decode? method params = some r) :
    ∃ next, s.request launch tree name params = s.serve launch tree next r := by
  obtain ⟨phase, state⟩ := s
  -- the phase and the method together select the branch that answers
  cases phase with
  | fresh =>
    cases method with
    | start => exact ⟨.running, by simp [Session.request, hname, hr]⟩
    | _ => simp [Phase.admits] at hadmits
  | running =>
    cases method with
    | completion =>
      exact ⟨.running, by simp [Session.request, Session.serveDecoded, hname, hr]⟩
    | execute => exact ⟨.running, by simp [Session.request, Session.serveDecoded, hname, hr]⟩
    | shutdown =>
      cases params with
      | none =>
        obtain rfl := Option.some.inj hr
        exact ⟨.stopped, by simp [Session.request, hname]⟩
      | some p => simp [Request.decode?] at hr
    | _ => simp [Phase.admits] at hadmits
  | stopped => cases method <;> simp [Phase.admits] at hadmits
  | exited => cases method <;> simp [Phase.admits] at hadmits

/-- Any other request is refused or not answered, and has no effect on the state of the server. -/
theorem request_of_not_admitted {s : Session} {launch : Launcher} {tree : FileTree} {name : Text}
    {params : Option Json} (h : request? ⟨s, .request launch tree name params⟩ = none) :
    ∃ phase reply, s.request launch tree name params = (⟨phase, s.state⟩, reply, []) ∧
      ∀ r, reply ≠ .result r := by
  unfold Session.request
  -- the branches of the definition, in order: in each one the state stays and no result is given,
  -- or the request would be served after all
  split
  · exact ⟨s.phase, .exited, rfl, by simp⟩
  split
  · refine ⟨s.phase, _, rfl, ?_⟩
    split <;> simp
  · exact ⟨.exited, .silent, rfl, by simp⟩
  · exact ⟨s.phase, .failure .invalidRequest, rfl, by simp⟩
  · rename_i hname
    split
    · rename_i hfresh
      have hr : Request.decode? .start params = none := by
        simpa [request?, hname, hfresh, Phase.admits] using h
      rw [hr]
      exact ⟨s.phase, .failure (Session.misfit .start params), rfl, by simp⟩
    · exact ⟨s.phase, .failure .invalidRequest, rfl, by simp⟩
  · rename_i method _ _ _ hname
    split
    · rename_i hrunning
      split
      · exact ⟨.stopped, _, rfl, by simp⟩
      · simp [request?, hname, hrunning, Phase.admits, Request.decode?] at h
      · exact ⟨s.phase, _, rfl, by simp⟩
      · exact ⟨s.phase, _, rfl, by simp⟩
      · have hr : Request.decode? .completion params = none := by
          simpa [request?, hname, hrunning, Phase.admits] using h
        rw [Session.serveDecoded, hr]
        exact ⟨s.phase, .failure (Session.misfit .completion params), rfl, by simp⟩
      · have hr : Request.decode? .execute params = none := by
          simpa [request?, hname, hrunning, Phase.admits] using h
        rw [Session.serveDecoded, hr]
        exact ⟨s.phase, .failure (Session.misfit .execute params), rfl, by simp⟩
      · exact ⟨s.phase, .failure .invalidRequest, rfl, by simp⟩
    · exact ⟨s.phase, .failure (Session.refusal s.phase), rfl, by simp⟩

/-- The request of a turn is served under the launcher of the event. -/
theorem request_of_served {s : Session} {launch : Launcher} {tree : FileTree} {name : Text}
    {params : Option Json} {r : Request}
    (h : request? ⟨s, .request launch tree name params⟩ = some r) :
    ∃ next, s.request launch tree name params = s.serve launch tree next r := by
  obtain ⟨method, hname, hr⟩ := Option.bind_eq_some_iff.1 h
  obtain ⟨hadmits, hdecode⟩ := Option.ite_none_right_eq_some.1 hr
  exact request_of_admitted launch tree hname hadmits hdecode

/-- What the client asks for is served, or it has no effect on the state of the server. -/
theorem step_request (s : Session) (launch : Launcher) (tree : FileTree) (name : Text)
    (params : Option Json) : Step ⟨s, .request launch tree name params⟩ := by
  cases hr : request? ⟨s, .request launch tree name params⟩ with
  | none =>
    obtain ⟨phase, reply, hout, hreply⟩ := request_of_not_admitted hr
    exact .idle rfl hr rfl hout rfl hreply
  | some r =>
    obtain ⟨next, hout⟩ := request_of_served hr
    exact .served rfl hr rfl hout

/-- Whatever happens to a server, it handles a notice, serves a request, or looks at a batch. -/
theorem step (t : Turn) : t.Step := by
  obtain ⟨s, event⟩ := t
  cases event with
  | request launch tree name params => exact step_request s launch tree name params
  | notice tree name params => exact step_notice s tree name params
  | changes tree list =>
    obtain ⟨watcher, hw⟩ := s.state.afterChanges_eq tree list
    exact .batch watcher rfl rfl hw rfl (by simp [reply, outcome])
  | batch tree paths => exact .batch s.state.watcher rfl rfl rfl rfl (by simp [reply, outcome])

/-! ### Turns that serve a request -/

/-- A request is served in a turn, under a launcher: all that comes of the turn comes of it. -/
structure Serves (t : Turn) (launch : Launcher) (r : Request) : Prop where
  /-- The state of the server. -/
  state_eq : t.after.state = (t.before.state.ask launch t.event.tree r).1
  /-- The answer. -/
  reply_eq : t.reply = Reply.ofAnswer (t.before.state.ask launch t.event.tree r).2.1
  /-- What is sent. -/
  sent_eq : t.sent = (t.before.state.ask launch t.event.tree r).2.2

/-- A request is served under the launcher that came with it. -/
theorem serves_of_request {s : Session} {launch : Launcher} {tree : FileTree} {name : Text}
    {params : Option Json} {r : Request}
    (h : request? ⟨s, .request launch tree name params⟩ = some r) :
    Serves ⟨s, .request launch tree name params⟩ launch r := by
  obtain ⟨next, hserve⟩ := request_of_served h
  have hout : outcome ⟨s, .request launch tree name params⟩ = s.serve launch tree next r := hserve
  exact ⟨by rw [after, hout]; rfl, by rw [reply, hout]; rfl, by rw [sent, hout]; rfl⟩

/-- A turn that has a request serves it. -/
theorem exists_serves {t : Turn} {r : Request} (h : t.request? = some r) :
    ∃ launch, t.Serves launch r := by
  obtain ⟨s, event⟩ := t
  cases event with
  | request launch tree name params => exact ⟨launch, serves_of_request h⟩
  | notice tree name params => cases h
  | changes tree list => cases h
  | batch tree paths => cases h

end Turn

/-! ### Runs -/

namespace Session

/-- The session after a list of events. -/
def run (s : Session) (events : List Event) : Session :=
  events.foldl (fun s event => (Turn.mk s event).after) s

/-- The turns of a run. -/
def turns : Session → List Event → List Turn
  | _, [] => []
  | s, event :: events => ⟨s, event⟩ :: (Turn.mk s event).after.turns events

@[simp] theorem run_nil (s : Session) : s.run [] = s := rfl

@[simp] theorem turns_nil (s : Session) : s.turns [] = [] := rfl

/-- A run can be stopped anywhere and taken up again. -/
theorem run_append (s : Session) (events more : List Event) :
    s.run (events ++ more) = (s.run events).run more := List.foldl_append

/-- The last event of a run happens to the session after the run so far. -/
theorem run_concat (s : Session) (events : List Event) (event : Event) :
    s.run (events ++ [event]) = (Turn.mk (s.run events) event).after := s.run_append events [event]

/-- The turns of a run that is taken up again follow those from before. -/
theorem turns_append (s : Session) (events more : List Event) :
    s.turns (events ++ more) = s.turns events ++ (s.run events).turns more := by
  induction events generalizing s with
  | nil => rfl
  | cons event events ih =>
    -- the rest of the run starts where the first turn ends
    rw [List.cons_append, turns, ih]
    rfl

/-- One more event is one more turn. -/
theorem turns_concat (s : Session) (events : List Event) (event : Event) :
    s.turns (events ++ [event]) = s.turns events ++ [⟨s.run events, event⟩] :=
  s.turns_append events [event]

end Session

/-! ### The start of a session -/

/-- No notice makes a session fresh again. -/
theorem Session.fresh_of_notify {s : Session} {tree : FileTree} {name : Text}
    {params : Option Json} (h : (s.notify tree name params).1.phase = .fresh) :
    s.phase = .fresh := by
  unfold notify at h
  split at h
  · exact h
  split at h
  · cases h
  · dsimp only at h
    split at h
    · cases h
    · exact h
  · split at h
    · split at h <;> exact h
    · exact h
  · exact h

/-- No request makes a session fresh again. -/
theorem Session.fresh_of_request {s : Session} {launch : Launcher} {tree : FileTree} {name : Text}
    {params : Option Json} (h : (s.request launch tree name params).1.phase = .fresh) :
    s.phase = .fresh := by
  unfold request at h
  split at h
  · exact h
  split at h
  · exact h
  · cases h
  · exact h
  · split at h
    · assumption
    · exact h
  · split at h
    · -- the session runs, and whatever is served leaves it running or stopped
      unfold serveDecoded at h
      split at h
      · cases h
      · cases h
      · exact h
      · exact h
      · split at h
        · cases h
        · exact h
      · split at h
        · cases h
        · exact h
      · exact h
    · exact h

/-- A session that has left the fresh phase never comes back to it. -/
theorem Turn.fresh_of_after {t : Turn} (h : t.after.phase = .fresh) : t.before.phase = .fresh := by
  obtain ⟨s, event⟩ := t
  cases event with
  | request launch tree name params => exact Session.fresh_of_request h
  | notice tree name params => exact Session.fresh_of_notify h
  | changes tree list => exact h
  | batch tree paths => exact h

/-- Only the method that starts a session asks for its start. -/
theorem Request.method_of_start {method : Method} {params options : Option Json}
    (h : Request.decode? method params = some (.start options)) : method = .start := by
  cases method with
  | start => rfl
  | shutdown => cases params <;> simp [decode?] at h
  | completion => cases params <;> simp [decode?, Option.bind_eq_some_iff] at h
  | execute => cases params <;> simp [decode?, Option.bind_eq_some_iff] at h
  | _ => simp [decode?] at h

namespace Turn

/-- Whether the session is started in a turn. -/
def starts (t : Turn) : Bool :=
  match t.request? with
  | some (.start _) => true
  | _ => false

/-- What starts a session finds it fresh and leaves it running. -/
theorem phase_of_starts {t : Turn} (h : t.starts = true) :
    t.before.phase = .fresh ∧ t.after.phase = .running := by
  unfold starts at h
  split at h
  · rename_i options hr
    obtain ⟨⟨phase, state⟩, event⟩ := t
    cases event with
    | request launch tree name params =>
      obtain ⟨method, hname, hr⟩ := Option.bind_eq_some_iff.1 hr
      obtain ⟨hadmits, hdecode⟩ := Option.ite_none_right_eq_some.1 hr
      obtain rfl := Request.method_of_start hdecode
      cases phase with
      | fresh =>
        refine ⟨rfl, ?_⟩
        show (Session.request ⟨.fresh, state⟩ launch tree name params).1.phase = .running
        simp [Session.request, hname, hdecode, Session.serve]
      | _ => cases hadmits
    | _ => cases hr
  · cases h

end Turn

/-- **Run.**  A session is started at most once, and as long as it is fresh it has not been. -/
theorem starts_run (s : Session) (events : List Event) :
    ((s.turns events).filter Turn.starts).length ≤ 1 ∧
      ((s.run events).phase = .fresh → (s.turns events).filter Turn.starts = []) := by
  -- the last turn is added to the run, because what it may do depends on the phase so far
  induction events using List.reverseRecOn with
  | nil => simp
  | append_singleton events event ih =>
    obtain ⟨hone, hfresh⟩ := ih
    rw [Session.run_concat, Session.turns_concat, List.filter_append]
    by_cases ht : (Turn.mk (s.run events) event).starts
    · -- the session was fresh so far, so that this start is the first
      obtain ⟨hbefore, hafter⟩ := Turn.phase_of_starts ht
      rw [hfresh hbefore, hafter]
      simp [ht]
    · rw [List.filter_cons_of_neg ht, List.filter_nil, List.append_nil]
      exact ⟨hone, fun h => hfresh (Turn.fresh_of_after h)⟩

end SnippetServer.Server
