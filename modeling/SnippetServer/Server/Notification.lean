import SnippetServer.Server.Message

namespace SnippetServer.Server

/-!
# What the server sends

* `Notification` — what it tells the client of its own accord;
* `Result`, `RequestError` — how it answers a request;
* `Wording`, `RequestError.message` — the text of a refusal.  Some of it is not the server's own:
  what reads JSON values has its own words for a value that does not decode.
-/

/-- The kinds of message to the user. -/
inductive Level where
  /-- Something has failed. -/
  | error
  /-- Something does not work as asked. -/
  | warning
  /-- Something has happened. -/
  | info
  /-- Details for those who look for them. -/
  | log
  deriving DecidableEq, Repr

/-- What the server tells of its own accord. -/
inductive Notification where
  /-- A line in the client's log. -/
  | log (level : Level) (message : Text)
  /-- A message that the client shows. -/
  | popup (level : Level) (message : Text)
  /-- Whether a document is an event source file. -/
  | eventFile (uri : Uri) (isEventFile : Bool)
  deriving DecidableEq, Repr

/-- The answer to a request that is served. -/
inductive Result where
  /-- The server is ready; this is what it can do. -/
  | ready
  /-- Nothing. -/
  | nothing
  /-- The items at a position. -/
  | items (list : List Completion.Item)
  /-- The number of snippets. -/
  | count (n : Nat)
  deriving DecidableEq, Repr

/-- What is wrong with the parameters of a request. -/
inductive ParamsFault where
  /-- There are none. -/
  | missing
  /-- There are some for a method without parameters. -/
  | unexpected (params : Json)
  /-- They do not decode as those of the method. -/
  | misfit (method : Method) (params : Json)
  /-- The argument that should name a document is not a URI. -/
  | notUri (argument : Json)
  /-- There is no such command. -/
  | unknownCommand (name : Text)
  deriving Repr

/-- Why a request is not served. -/
inductive RequestError where
  /-- No session has been started. -/
  | notInitialized
  /-- The session does not admit the request, or not again. -/
  | invalidRequest
  /-- There is no such method. -/
  | methodNotFound
  /-- The parameters do not fit. -/
  | invalidParams (fault : ParamsFault)
  deriving Repr

/-- The number of an error. -/
def RequestError.code : RequestError → Int
  | .notInitialized => -32002
  | .invalidRequest => -32600
  | .methodNotFound => -32601
  | .invalidParams _ => -32602

/-- The words that the reader of JSON values has for what does not decode. -/
structure Wording where
  /-- Why a value is not a URI. -/
  notUri : Json → Text
  /-- Why parameters are not those of a method. -/
  misfit : Method → Json → Text

/-- The text about faulty parameters. -/
def ParamsFault.message (wording : Wording) : ParamsFault → Text
  | .missing => "Missing params field".toList
  | .unexpected params => "Unexpected params: ".toList ++ params.render
  | .misfit method params => wording.misfit method params
  | .notUri argument =>
    "taikou5.compile expects a document URI: ".toList ++ wording.notUri argument
  | .unknownCommand name => "unknown command: ".toList ++ name

/-- The text of an error. -/
def RequestError.message (wording : Wording) : RequestError → Text
  | .notInitialized => "Server not initialized".toList
  | .invalidRequest => "Invalid request".toList
  | .methodNotFound => "Method not found".toList
  | .invalidParams fault => fault.message wording

/-! ### Written forms -/

/-- An object with the given members. -/
def object (members : List (String × Json)) : Json :=
  .obj (members.map fun (name, value) => (name.toList, value))

/-- The number of a kind of message. -/
def Level.number : Level → Int
  | .error => 1
  | .warning => 2
  | .info => 3
  | .log => 4

/-- The parameters of a message to the user. -/
def messageParams (level : Level) (message : Text) : Json :=
  object [("type", .int level.number), ("message", .str message)]

/-- The method of a notification. -/
def Notification.method : Notification → Text
  | .log .. => "window/logMessage".toList
  | .popup .. => "window/showMessage".toList
  | .eventFile .. => "taikou5/eventFile".toList

/-- The parameters of a notification. -/
def Notification.params : Notification → Json
  | .log level message => messageParams level message
  | .popup level message => messageParams level message
  | .eventFile uri isEventFile =>
    object [("uri", .str uri.text), ("isEventFile", .bool isEventFile)]

/-- The commands that a client can run. -/
structure Commands where
  /-- Compiles a document. -/
  compile : Text
  /-- Reads the snippets again. -/
  reload : Text

/-- The names of the commands. -/
def commands : Commands :=
  { compile := "taikou5.compile".toList, reload := "taikou5.reloadSnippets".toList }

/-- What the server can do: documents are sent as a whole, items are not completed later, and
there are two commands. -/
def capabilities : Json :=
  object
    [("textDocumentSync", .int 1),
      ("completionProvider", object [("resolveProvider", .bool false)]),
      ("executeCommandProvider",
        object [("commands", .arr [.str commands.compile, .str commands.reload])])]

/-- A position. -/
def positionJson (line column : Nat) : Json :=
  object [("line", .int line), ("character", .int column)]

/-- An edit. -/
def editJson (e : Completion.Edit) : Json :=
  object
    [("range", object
        [("start", positionJson e.line e.span.start), ("end", positionJson e.line e.span.stop)]),
      ("newText", .str e.newText)]

/-- The number of the kind of item that a snippet is. -/
def snippetKind : Int := 15

/-- The number of the format in which snippets are inserted. -/
def snippetFormat : Int := 2

/-- A completion item. -/
def itemJson (i : Completion.Item) : Json :=
  object
    ([("label", .str i.label), ("kind", .int snippetKind), ("detail", .str i.detail),
      ("documentation",
        object [("kind", .str "markdown".toList), ("value", .str i.documentation)]),
      ("sortText", .str i.sortText), ("filterText", .str i.filterText),
      ("insertText", .str i.insertText), ("insertTextFormat", .int snippetFormat)] ++
      (i.edit.map fun e => ("textEdit", editJson e)).toList)

/-- A list of items.  It is never complete, since what is typed next changes the order. -/
def itemsJson (items : List Completion.Item) : Json :=
  object [("isIncomplete", .bool true), ("items", .arr (items.map itemJson))]

/-- The written form of an answer. -/
def Result.toJson : Result → Json
  | .ready =>
    object
      [("capabilities", capabilities),
        ("serverInfo",
          object [("name", .str "taikou-lsp".toList), ("version", .str "0.1.0".toList)])]
  | .nothing => .null
  | .items list => itemsJson list
  | .count n => .int n

end SnippetServer.Server
