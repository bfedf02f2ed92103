import SnippetServer.Settings.Options
import SnippetServer.Snippet.Source

namespace SnippetServer

open Snippet

/-!
# Effective settings

What the command line gives is *pinned*: nothing that a client sends later changes it.  Everything
else follows the client.

* `Settings` — the settings in force;
* `Settings.ofCommandLine` — those at the start;
* `Settings.applyOptions`, `Settings.setCompiler` — those after a client has sent something.
-/

/-- The settings in force. -/
structure Settings where
  /-- Where snippets come from. -/
  source : Source
  /-- The compiler, if one is set. -/
  compiler : Option Path
  /-- Whether the command line gives the snippet directory. -/
  pinsDirectory : Bool
  /-- Whether the command line gives the compiler. -/
  pinsCompiler : Bool
  deriving DecidableEq, Repr

namespace Settings

/-- The name of the snippet directory next to the server. -/
def defaultDirectoryName : Path := Path.ofText "everedit".toList

/-- The settings of a server in the directory `home` whose command line gives these values. -/
def ofCommandLine (home : Path) (directory compiler : Option Path) : Settings :=
  { source := Source.ofDirectory (directory.getD (home.join defaultDirectoryName))
    compiler
    pinsDirectory := directory.isSome
    pinsCompiler := compiler.isSome }

/-- Takes the compiler path of a client, without the blanks around it; a blank one stands for no
compiler. -/
def setCompiler (s : Settings) (path : Text) : Settings :=
  if s.pinsCompiler then s
  else
    let trimmed := Text.trim path
    { s with compiler := if trimmed.isEmpty then none else some (Path.ofText trimmed) }

/-- Takes the snippet directory of a client. -/
def setDirectory (s : Settings) (path : Text) : Settings :=
  if s.pinsDirectory then s else { s with source.directory := Path.ofText path }

/-- Takes the options of a client. -/
def applyOptions (s : Settings) (o : Options) : Settings :=
  let s := match o.directory with
    | some path => s.setDirectory path
    | none => s
  let s := match o.loadOrder with
    | some order => { s with source.loadOrder := order }
    | none => s
  let s := match o.extension with
    | some extension => { s with source.extension := extension }
    | none => s
  match o.compiler with
  | some path => s.setCompiler path
  | none => s

end Settings

end SnippetServer
