import SnippetServer.Completion.Item
import SnippetServer.Json.Basic
import SnippetServer.Uri.Parser

namespace SnippetServer.Server

/-!
# Messages of clients

A client sends requests, which are answered, and notices, which are not.  A message has the name of
its method and parameters as JSON; parameters that lack something or have a wrong type do not
decode.  Most parts of parameters are structures, which may be written as arrays of their fields.

* `Request`, `Notice` — what a client can ask for and tell;
* `Request.decode?`, `Notice.decode?` — the message with the given method and parameters;
* `Method.ofText?` — what the name of a method stands for.
-/

/-- What a client can ask for. -/
inductive Request where
  /-- Starts a session; the options are not decoded yet. -/
  | start (options : Option Json)
  /-- Ends the session. -/
  | shutdown
  /-- Asks for the items at a position. -/
  | completion (uri : Uri) (position : Position)
  /-- Runs a command. -/
  | execute (command : Text) (arguments : List Json)
  deriving Repr

/-- What a client can tell. -/
inductive Notice where
  /-- The client is ready. -/
  | initialized
  /-- The server is to end. -/
  | exit
  /-- A document is open, with this text. -/
  | didOpen (uri : Uri) (text : Text)
  /-- A document has been given new texts, one after the other. -/
  | didChange (uri : Uri) (texts : List Text)
  /-- A document is closed. -/
  | didClose (uri : Uri)
  /-- The configuration of the client has changed. -/
  | didChangeConfiguration (settings : Json)
  /-- Files have changed. -/
  | didChangeFiles (uris : List Uri)
  deriving Repr

/-! ### Decoding parameters -/

/-- The URI in a string. -/
def uri? (j : Json) : Option Uri := j.text?.bind Uri.parse?

/-- The URI in the identifier of a document. -/
def identifier? (j : Json) : Option Uri := do
  match ← j.fields? ["uri"] with
  | [uri] => uri? (← uri)
  | _ => none

/-- The URI in the identifier of a document with its version. -/
def versioned? (j : Json) : Option Uri := do
  match ← j.fields? ["uri", "version"] with
  | [uri, version] =>
    let _ ← (← version).signedWord?
    uri? (← uri)
  | _ => none

/-- The URI and the text of a document. -/
def documentItem? (j : Json) : Option (Uri × Text) := do
  match ← j.fields? ["uri", "languageId", "version", "text"] with
  | [uri, language, version, text] =>
    let _ ← (← language).text?
    let _ ← (← version).signedWord?
    some (← uri? (← uri), ← (← text).text?)
  | _ => none

/-- A field that may be left out, or null. -/
def leftOutOr? {α : Type} (read : Json → Option α) (field : Option Json) : Option Unit :=
  match field with
  | none => some ()
  | some .null => some ()
  | some j => (read j).map fun _ => ()

/-- A position. -/
def position? (j : Json) : Option Position := do
  match ← j.fields? ["line", "character"] with
  | [line, character] => some ⟨← (← line).word?, ← (← character).word?⟩
  | _ => none

/-- The range that a change is about; every change of this server is about the whole text. -/
def range? (j : Json) : Option Unit := do
  match ← j.fields? ["start", "end"] with
  | [start, stop] =>
    let _ ← position? (← start)
    let _ ← position? (← stop)
  | _ => none

/-- The text of one change. -/
def change? (j : Json) : Option Text := do
  match ← j.fields? ["range", "rangeLength", "text"] with
  | [range, length, text] =>
    leftOutOr? range? range
    leftOutOr? Json.word? length
    (← text).text?
  | _ => none

/-- The URI of one changed file. -/
def changedFile? (j : Json) : Option Uri := do
  match ← j.fields? ["uri", "type"] with
  | [uri, type] =>
    let _ ← (← type).signedWord?
    uri? (← uri)
  | _ => none

/-- A value that is written as a structure, whatever its fields. -/
def structure? : Json → Option Unit
  | .obj _ => some ()
  | .arr _ => some ()
  | _ => none

/-- The capabilities of a client, of which only the form matters. -/
def clientCapabilities? (j : Json) : Option Unit := do
  match ← j.fields? ["workspace", "textDocument", "window", "general", "experimental"] with
  | [workspace, document, window, general, _] =>
    [workspace, document, window, general].forM (leftOutOr? structure?)
  | _ => none

/-- How much a client wants to be told about the work of the server. -/
def trace? : Json → Option Unit
  | .str t => if ["off", "messages", "verbose"].contains (String.ofList t) then some () else none
  | _ => none

/-- The URI of a folder. -/
def folder? (j : Json) : Option Uri := do
  match ← j.fields? ["uri", "name"] with
  | [uri, name] =>
    let _ ← (← name).text?
    uri? (← uri)
  | _ => none

/-- The name of a client. -/
def client? (j : Json) : Option Text := do
  match ← j.fields? ["name", "version"] with
  | [name, version] =>
    leftOutOr? Json.text? version
    (← name).text?
  | _ => none

/-- The fields of the parameters of initialization. -/
def initializeFields : List String :=
  ["processId", "rootPath", "rootUri", "initializationOptions", "capabilities", "trace",
    "workspaceFolders", "clientInfo", "locale"]

/-- The options among the parameters of initialization. -/
def initializeParams? (params : Json) : Option (Option Json) := do
  match ← params.fields? initializeFields with
  | [process, rootPath, root, options, capabilities, trace, folders, client, locale] =>
    leftOutOr? Json.word? process
    leftOutOr? Json.text? rootPath
    leftOutOr? uri? root
    clientCapabilities? (← capabilities)
    leftOutOr? trace? trace
    leftOutOr? (fun j => do (← j.items?).mapM folder?) folders
    leftOutOr? client? client
    leftOutOr? Json.text? locale
    if let some .null := options then some none else some options
  | _ => none

/-- The arguments of a command; they may be left out. -/
def arguments? (params : Json) : Option (List Json) :=
  match params.get? "arguments".toList with
  | none => some []
  | some j => j.items?

/-! ### Methods -/

/-- What a method stands for. -/
inductive Method where
  /-- A request of this server, by its method. -/
  | start | shutdown | completion | execute
  /-- A notice of this server. -/
  | initialized | exit | didOpen | didChange | didClose | didChangeConfiguration | didChangeFiles
  /-- A notice that takes a request back; every request is answered before the next message. -/
  | cancel
  /-- A request of the protocol that this server does not serve. -/
  | unserved
  /-- A notice of the protocol that this server does not heed. -/
  | unheeded
  deriving DecidableEq, Repr

/-- The requests of the protocol that this server does not serve. -/
def unservedMethods : List Text :=
  (["textDocument/willSaveWaitUntil", "textDocument/declaration", "textDocument/definition",
    "textDocument/typeDefinition", "textDocument/implementation", "textDocument/references",
    "textDocument/prepareCallHierarchy", "callHierarchy/incomingCalls",
    "callHierarchy/outgoingCalls", "textDocument/prepareTypeHierarchy",
    "typeHierarchy/supertypes", "typeHierarchy/subtypes", "textDocument/documentHighlight",
    "textDocument/documentLink", "documentLink/resolve", "textDocument/hover",
    "textDocument/codeLens", "codeLens/resolve", "textDocument/foldingRange",
    "textDocument/selectionRange", "textDocument/documentSymbol",
    "textDocument/semanticTokens/full", "textDocument/semanticTokens/full/delta",
    "textDocument/semanticTokens/range", "textDocument/inlineValue", "textDocument/inlayHint",
    "inlayHint/resolve", "textDocument/moniker", "completionItem/resolve",
    "textDocument/diagnostic", "workspace/diagnostic", "textDocument/signatureHelp",
    "textDocument/codeAction", "codeAction/resolve", "textDocument/documentColor",
    "textDocument/colorPresentation", "textDocument/formatting",
    "textDocument/rangeFormatting", "textDocument/onTypeFormatting", "textDocument/rename",
    "textDocument/prepareRename", "textDocument/linkedEditingRange", "workspace/symbol",
    "workspaceSymbol/resolve", "workspace/willCreateFiles", "workspace/willRenameFiles",
    "workspace/willDeleteFiles"] : List String).map String.toList

/-- The notices of the protocol that this server does not heed. -/
def unheededMethods : List Text :=
  (["textDocument/willSave", "textDocument/didSave", "workspace/didChangeWorkspaceFolders",
    "workspace/didCreateFiles", "workspace/didRenameFiles",
    "workspace/didDeleteFiles"] : List String).map String.toList

/-- The methods that this server serves. -/
def servedMethods : List (Text × Method) :=
  ([("initialize", .start), ("shutdown", .shutdown),
    ("textDocument/completion", .completion), ("workspace/executeCommand", .execute),
    ("initialized", .initialized), ("exit", .exit), ("textDocument/didOpen", .didOpen),
    ("textDocument/didChange", .didChange), ("textDocument/didClose", .didClose),
    ("workspace/didChangeConfiguration", .didChangeConfiguration),
    ("workspace/didChangeWatchedFiles", .didChangeFiles),
    ("$/cancelRequest", .cancel)] : List (String × Method)).map
      fun (name, method) => (name.toList, method)

/-- What the name of a method stands for, if it is one of the protocol. -/
def Method.ofText? (name : Text) : Option Method :=
  match servedMethods.lookup name with
  | some method => some method
  | none =>
    if unservedMethods.contains name then some .unserved
    else if unheededMethods.contains name then some .unheeded
    else none

/-- The request of a method with parameters. -/
def Request.decode? (method : Method) (params : Option Json) : Option Request :=
  match method, params with
  | .start, some p => (initializeParams? p).map .start
  | .shutdown, none => some .shutdown
  | .completion, some p => do
    some (.completion (← identifier? (← p.get? "textDocument".toList))
      (← position? (← p.get? "position".toList)))
  | .execute, some p => do
    some (.execute (← (← p.get? "command".toList).text?) (← arguments? p))
  | _, _ => none

/-- The notice of a method with parameters. -/
def Notice.decode? (method : Method) (params : Option Json) : Option Notice := do
  match method with
  | .exit => some .exit
  | .initialized => ((← params).fields? []).map fun _ => .initialized
  | .didOpen =>
    match ← (← params).fields? ["textDocument"] with
    | [document] => (documentItem? (← document)).map fun (uri, text) => .didOpen uri text
    | _ => none
  | .didChange =>
    match ← (← params).fields? ["textDocument", "contentChanges"] with
    | [document, changes] =>
      some (.didChange (← versioned? (← document)) (← (← (← changes).items?).mapM change?))
    | _ => none
  | .didClose =>
    match ← (← params).fields? ["textDocument"] with
    | [document] => (identifier? (← document)).map .didClose
    | _ => none
  | .didChangeConfiguration =>
    match ← (← params).fields? ["settings"] with
    | [settings] => settings.map .didChangeConfiguration
    | _ => none
  | .didChangeFiles =>
    match ← (← params).fields? ["changes"] with
    | [changes] => some (.didChangeFiles (← (← (← changes).items?).mapM changedFile?))
    | _ => none
  | _ => none

end SnippetServer.Server
