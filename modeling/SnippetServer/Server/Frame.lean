import SnippetServer.Json.Reader
import SnippetServer.Server.Session

namespace SnippetServer.Server

/-!
# Messages on a stream

On a stream every message is a JSON object behind a header that gives its length in bytes.  A
message with an identifier is a request, and its answer carries the same identifier.

* `contentLength?` — the length that a line of the header gives;
* `Envelope`, `Envelope.decode?` — a message of the client;
* `frame` — a message of the server with its header;
* `Session.receive` — the server takes a message and gives what it sends for it.
-/

/-! ### Headers -/

/-- The name of the header line that gives the length. -/
def lengthHeader : Text := "content-length:".toList

/-- The length that a line of the header gives. -/
def contentLength? (line : Text) : Option Nat :=
  if lengthHeader.isPrefixOf (line.map Char.toLower) then
    match Text.trim (line.drop lengthHeader.length) with
    | [] => none
    | ds => if ds.all Char.isDigit then some (Json.decimalValue ds) else none
  else none

/-- A message of the server with its header. -/
def frame (j : Json) : Bytes :=
  let body := Text.encode j.render
  Text.encode ("Content-Length: ".toList ++ Nat.toDigits 10 body.length ++ "\r\n\r\n".toList) ++
    body

/-! ### Envelopes -/

/-- A message of the client. -/
structure Envelope where
  /-- What identifies a request. -/
  id : Option Json
  /-- The method. -/
  method : Text
  /-- The parameters. -/
  params : Option Json

/-- The message in a JSON object. -/
def Envelope.decode? (j : Json) : Option Envelope := do
  some
    { id := j.get? "id".toList
      method := ← (← j.get? "method".toList).text?
      params := j.get? "params".toList }

/-- A message of the server: its version and the given members. -/
def envelope (members : List (String × Json)) : Json :=
  object (("jsonrpc", .str "2.0".toList) :: members)

/-- A notification of the server. -/
def notificationEnvelope (n : Notification) : Json :=
  envelope [("method", .str n.method), ("params", n.params)]

/-- The answer to a request. -/
def answerEnvelope (wording : Wording) (id : Json) : Reply → Option Json
  | .result r => some (envelope [("id", id), ("result", r.toJson)])
  | .failure e =>
    some (envelope
      [("id", id),
        ("error", object [("code", .int e.code), ("message", .str (e.message wording))])])
  | .silent => none
  | .exited => none

/-- The answer to what is not a message. -/
def garbled : Json :=
  envelope
    [("id", .null),
      ("error", object [("code", .int (-32700)), ("message", .str "Parse error".toList)])]

namespace Session

open Compiler in
/-- The server takes the text of a message; it sends its notifications and then the answer. -/
def receive (s : Session) (wording : Wording) (launch : Launcher) (tree : FileTree)
    (body : Text) : Session × List Json :=
  match (Json.parse? body).bind Envelope.decode? with
  | none => (s, [garbled])
  | some e =>
    match e.id with
    | none =>
      let (after, _, sent) := s.notify tree e.method e.params
      (after, sent.map notificationEnvelope)
    | some id =>
      let (after, reply, sent) := s.request launch tree e.method e.params
      (after, sent.map notificationEnvelope ++ (answerEnvelope wording id reply).toList)

/-- The server after its watcher has noticed what has happened. -/
def afterChanges (s : Session) (tree : FileTree) (changes : List Change) : Session :=
  { s with state := s.state.afterChanges tree changes }

end Session

end SnippetServer.Server
