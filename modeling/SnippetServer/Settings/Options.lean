import SnippetServer.Json.Basic

namespace SnippetServer.Settings

/-!
# What clients send about settings

A client may send options when it initializes the server, and the path of the compiler whenever its
own configuration changes.

* `Options`, `Options.decode?` — the options of initialization; options that do not decode are
  refused as a whole;
* `compilerSetting?` — the path of the compiler in a configuration.
-/

/-- The options that a client may send.  What it leaves out stays as it is. -/
structure Options where
  /-- The snippet directory. -/
  directory : Option Text
  /-- The path of the compiler; a blank one stands for no compiler. -/
  compiler : Option Text
  /-- The load order. -/
  loadOrder : Option (List Text)
  /-- What the names of snippet files end in. -/
  extension : Option Text
  deriving DecidableEq, Repr

/-- A value that may be left out: it is there unless it is missing or null, and it has to decode
then. -/
def optional {α : Type} (read : Json → Option α) : Option Json → Option (Option α)
  | none => some none
  | some .null => some none
  | some j => (read j).map some

/-- A list of texts. -/
def texts? (j : Json) : Option (List Text) := j.items?.bind fun items => items.mapM Json.text?

namespace Options

/-- The options with the given values. -/
def ofValues? (directory compiler loadOrder extension : Option Json) : Option Options := do
  some
    { directory := ← optional Json.text? directory
      compiler := ← optional Json.text? compiler
      loadOrder := ← optional texts? loadOrder
      extension := ← optional Json.text? extension }

/-- Options are an object, of which members with other names do not count, or an array of at most
four values in a fixed order. -/
def decode? (j : Json) : Option Options :=
  match j with
  | .obj _ =>
    ofValues? (j.get? "snippetsDir".toList) (j.get? "compilerPath".toList)
      (j.get? "loadOrder".toList) (j.get? "snippetExtension".toList)
  | .arr items =>
    if 4 < items.length then none else ofValues? items[0]? items[1]? items[2]? items[3]?
  | _ => none

end Options

/-- The section of a client's configuration that holds the settings of this server. -/
def sectionName : Text := "taikou5".toList

/-- The setting that holds the path of the compiler. -/
def compilerKey : Text := "compilerPath".toList

/-- The path of the compiler in a configuration: a member of the section if that has it, else a
member whose name joins both names by a dot. -/
def compilerSetting? (settings : Json) : Option Text :=
  let nested := (settings.get? sectionName).bind (Json.get? compilerKey)
  let flat := settings.get? (sectionName ++ ['.'] ++ compilerKey)
  (nested <|> flat).bind Json.text?

end SnippetServer.Settings
