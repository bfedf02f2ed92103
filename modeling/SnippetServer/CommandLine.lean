import SnippetServer.Settings.Basic

namespace SnippetServer

/-!
# The command line

The server is started with switches and with options that take a value, in any order, each at most
once.  It talks over its standard streams only when it is told so.

* `CommandLine` — what a command line asks for;
* `CommandLine.parse` — reads the arguments from left to right; the first one that is refused, or
  asks for help, decides.
-/

/-- What a command line asks for. -/
structure CommandLine where
  /-- Whether to talk over the standard streams. -/
  stdio : Bool
  /-- Whether to tell about the server's own work. -/
  debug : Bool
  /-- The snippet directory. -/
  snippetsDirectory : Option Text
  /-- The compiler. -/
  compiler : Option Text
  /-- What to write to the log. -/
  logLevel : Option Text
  deriving DecidableEq, Repr

namespace CommandLine

/-- Why the server is not started. -/
inductive Stop where
  /-- The command line is refused. -/
  | refused
  /-- It asks for help. -/
  | help
  /-- It does not say to talk over the standard streams. -/
  | stdioMissing
  deriving DecidableEq, Repr

/-- The exit code of a server that is not started. -/
def Stop.exitCode : Stop → Nat
  | .refused => 2
  | .help => 0
  | .stdioMissing => 1

/-- What is written when the server is told nothing about the standard streams. -/
def stdioMessage : Text := "Error: --stdio flag is required\n".toList

/-- What is written for help. -/
def helpText : Text :=
  ("Language Server for Taikou5 event scripts\n\n" ++
    "Usage: taikou-lsp [OPTIONS]\n\n" ++
    "Options:\n" ++
    "      --stdio               Use stdio for communication (required)\n" ++
    "      --debug               Enable debug mode\n" ++
    "      --snippets-dir <DIR>  Directory holding the .snippet files\n" ++
    "      --compiler <PATH>     Path to tkhack-dx.exe\n" ++
    "      --log-level <FILTER>  Log filter for stderr output\n" ++
    "  -h, --help                Print help\n").toList

/-- A command line without arguments. -/
def bare : CommandLine :=
  { stdio := false, debug := false, snippetsDirectory := none, compiler := none
    logLevel := none }

/-- The options that take a value. -/
inductive Key where
  /-- The snippet directory. -/
  | snippetsDirectory
  /-- The compiler. -/
  | compiler
  /-- What to write to the log. -/
  | logLevel
  deriving DecidableEq, Repr

/-- What an argument that begins with two dashes is. -/
inductive Flag where
  /-- The switch for the standard streams. -/
  | stdio
  /-- The switch for telling about the server's own work. -/
  | debug
  /-- The switch for help. -/
  | help
  /-- An option that takes a value. -/
  | key (k : Key)
  deriving DecidableEq, Repr

/-- The flag with this name. -/
def Flag.ofName? (name : Text) : Option Flag :=
  ([("stdio".toList, Flag.stdio), ("debug".toList, .debug), ("help".toList, .help),
    ("snippets-dir".toList, .key .snippetsDirectory), ("compiler".toList, .key .compiler),
    ("log-level".toList, .key .logLevel)]).lookup name

/-- The value of an option on a command line. -/
def value? (c : CommandLine) : Key → Option Text
  | .snippetsDirectory => c.snippetsDirectory
  | .compiler => c.compiler
  | .logLevel => c.logLevel

/-- Takes the value of an option.  An option may be given once; a path may not be empty. -/
def setValue (c : CommandLine) (k : Key) (value : Text) : Except Stop CommandLine :=
  if (c.value? k).isSome then .error .refused
  else match k with
    | .snippetsDirectory =>
      if value.isEmpty then .error .refused else .ok { c with snippetsDirectory := some value }
    | .compiler =>
      if value.isEmpty then .error .refused else .ok { c with compiler := some value }
    | .logLevel => .ok { c with logLevel := some value }

/-- Takes a switch, which may be given once. -/
def setSwitch (c : CommandLine) : Flag → Except Stop CommandLine
  | .stdio => if c.stdio then .error .refused else .ok { c with stdio := true }
  | .debug => if c.debug then .error .refused else .ok { c with debug := true }
  | .help => .error .help
  | .key _ => .error .refused

/-- Whether an argument can be a value: it does not begin with a dash, or is only a dash. -/
def isValue : Text → Bool
  | '-' :: _ :: _ => false
  | _ => true

/-- A name and the value that an equals sign attaches to it. -/
def attached (argument : Text) : Text × Option Text :=
  match argument.dropWhile (· != '=') with
  | [] => (argument, none)
  | _ :: value => (argument.takeWhile (· != '='), some value)

/-- Reads the arguments that follow those in `c`. -/
def read (c : CommandLine) : List Text → Except Stop CommandLine
  | [] => .ok c
  | ['-', '-'] :: rest => if rest.isEmpty then .ok c else .error .refused
  | ('-' :: '-' :: long) :: rest =>
    match attached long with
    | (name, given) =>
      match Flag.ofName? name, given with
      | none, _ => .error .refused
      | some (.key k), some value => do (← c.setValue k value).read rest
      | some (.key k), none =>
        match rest with
        | value :: rest =>
          if isValue value then do (← c.setValue k value).read rest else .error .refused
        | [] => .error .refused
      | some _, some _ => .error .refused
      | some flag, none => do (← c.setSwitch flag).read rest
  | ('-' :: 'h' :: _) :: _ => .error .help
  | _ :: _ => .error .refused
termination_by args => args.length

/-- Reads a whole command line. -/
def parse (args : List Text) : Except Stop CommandLine := do
  let c ← bare.read args
  if c.stdio then .ok c else .error .stdioMissing

/-- The settings that a command line gives to a server in the directory `home`. -/
def settings (c : CommandLine) (home : Path) : Settings :=
  Settings.ofCommandLine home (c.snippetsDirectory.map Path.ofText) (c.compiler.map Path.ofText)

end CommandLine

end SnippetServer
