import SnippetServer.Server.Handlers

namespace SnippetServer.Server

open Compiler

/-!
# Sessions

A session starts when the client initializes the server and ends when the client shuts it down; the
server itself ends when it is told to exit.  What does not fit into the order of a session is
refused if it is a request, and dropped if it is a notice.

* `Phase`, `Session` — a server and how far its session has come;
* `Reply` — what becomes of a request;
* `Session.request`, `Session.notify` — the server takes a message.
-/

/-- How far a session has come. -/
inductive Phase where
  /-- It has not started. -/
  | fresh
  /-- It runs. -/
  | running
  /-- It has been shut down. -/
  | stopped
  /-- The server has ended. -/
  | exited
  deriving DecidableEq, Repr

/-- A server and how far its session has come. -/
structure Session where
  /-- How far it has come. -/
  phase : Phase
  /-- The state of the server. -/
  state : State
  deriving DecidableEq, Repr

/-- What becomes of a message. -/
inductive Reply where
  /-- It is served. -/
  | result (r : Result)
  /-- It is refused. -/
  | failure (e : RequestError)
  /-- It is not answered. -/
  | silent
  /-- There is no server any more. -/
  | exited
  deriving Repr

/-- The reply with the answer of a handler. -/
def Reply.ofAnswer : Except RequestError Result → Reply
  | .ok r => .result r
  | .error e => .failure e

namespace Session

/-- The session of a server that has just been started. -/
def new (settings : Settings) (traces : Bool) : Session := ⟨.fresh, State.initial settings traces⟩

/-- Why a request of a method is refused with parameters that do not decode. -/
def misfit (method : Method) : Option Json → RequestError
  | none => .invalidParams .missing
  | some params => .invalidParams (.misfit method params)

/-- What a request is answered that comes before the session or after it. -/
def refusal : Phase → RequestError
  | .fresh => .notInitialized
  | _ => .invalidRequest

/-- Serves a request, whose effects the phase admits; afterwards the phase is `next`. -/
def serve (s : Session) (launch : Launcher) (tree : FileTree) (next : Phase) (r : Request) :
    Session × Reply × List Notification :=
  let (state, answer, sent) := s.state.ask launch tree r
  (⟨next, state⟩, Reply.ofAnswer answer, sent)

/-- Serves a request of a running session if its parameters decode. -/
def serveDecoded (s : Session) (launch : Launcher) (tree : FileTree) (method : Method)
    (params : Option Json) : Session × Reply × List Notification :=
  match Request.decode? method params with
  | some r => s.serve launch tree .running r
  | none => (s, .failure (misfit method params), [])

/-- The server takes a request. -/
def request (s : Session) (launch : Launcher) (tree : FileTree) (name : Text)
    (params : Option Json) : Session × Reply × List Notification :=
  if s.phase = .exited then (s, .exited, [])
  else match Method.ofText? name with
    | none =>
      (s, if ['$', '/'].isPrefixOf name then .silent else .failure .methodNotFound, [])
    | some .exit => ({ s with phase := .exited }, .silent, [])
    | some .cancel => (s, .failure .invalidRequest, [])
    | some .start =>
      if s.phase = .fresh then
        match Request.decode? .start params with
        | some r => s.serve launch tree .running r
        | none => (s, .failure (misfit .start params), [])
      else (s, .failure .invalidRequest, [])
    | some method =>
      if s.phase = .running then
        match method, params with
        | .shutdown, some p =>
          ({ s with phase := .stopped },
            .failure (.invalidParams (.unexpected p)), [])
        | .shutdown, none => s.serve launch tree .stopped .shutdown
        | .unserved, none => (s, .failure (.invalidParams .missing), [])
        | .unserved, some _ => (s, .failure .methodNotFound, [])
        | .completion, _ => s.serveDecoded launch tree method params
        | .execute, _ => s.serveDecoded launch tree method params
        | _, _ => (s, .failure .invalidRequest, [])
      else (s, .failure (refusal s.phase), [])

/-- The server takes a notice. -/
def notify (s : Session) (tree : FileTree) (name : Text) (params : Option Json) :
    Session × Reply × List Notification :=
  if s.phase = .exited then (s, .exited, [])
  else match Method.ofText? name with
    | some .exit => ({ s with phase := .exited }, .silent, [])
    | some .shutdown =>
      (if s.phase = .running then { s with phase := .stopped } else s, .silent, [])
    | some method =>
      if s.phase = .running then
        match Notice.decode? method params with
        | some notice =>
          let (state, sent) := s.state.tell tree notice
          ({ s with state }, .silent, sent)
        | none => (s, .silent, [])
      else (s, .silent, [])
    | none => (s, .silent, [])

end Session

end SnippetServer.Server
