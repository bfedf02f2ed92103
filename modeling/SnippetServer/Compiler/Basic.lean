import SnippetServer.Compiler.Output
import SnippetServer.Uri.Basic

namespace SnippetServer.Compiler

/-!
# Compiling an event source file

The compiler is a program of its own.  Only an executable with its name is run, and only on a file;
each check has its own error, and the first one that fails decides.  What the compiler prints is
forwarded while it runs, so it stays even if the system cannot tell in the end how it has ended.

* `hasCompilerName` — whether a path names the compiler;
* `arguments` — the arguments that compile a file;
* `start` — checks, and runs the compiler;
* `compile` — what was printed, and what came of it.
-/

/-- The name of the only executable that is run. -/
def compilerName : Text :=
  ['t', 'k', 'h', 'a', 'c', 'k', '-', 'd', 'x', '.', 'e', 'x', 'e']

/-- Why a compilation does not come to its end. -/
inductive CompileError where
  /-- No compiler is set. -/
  | notConfigured
  /-- The path does not name the compiler. -/
  | wrongExecutable (path : Path)
  /-- Nothing has this path. -/
  | missing (path : Path)
  /-- There is no document to compile. -/
  | noDocument
  /-- The document is not a file. -/
  | notAFile (uri : Uri)
  /-- The system does not start the compiler, or cannot tell how it has ended. -/
  | notRun (cause : SystemError)
  deriving DecidableEq, Repr

/-- The text that is shown for an error. -/
def CompileError.message : CompileError → Text
  | .notConfigured =>
    "no compiler configured; set taikou5.compilerPath to tkhack-dx.exe".toList
  | .wrongExecutable path =>
    "only tkhack-dx.exe can be used as the compiler, got ".toList ++ path.display
  | .missing path => "compiler not found at ".toList ++ path.display
  | .noDocument => "no document to compile; open an event file first".toList
  | .notAFile uri => uri.text ++ " is not a local file".toList
  | .notRun cause => "failed to run compiler: ".toList ++ cause.message

/-- Starts programs: what running the executable with this path and these arguments does, in a file
tree. -/
abbrev Launcher := FileTree → Path → List Text → Except SystemError Run

/-- Whether a character separates the parts of a path, on any system. -/
def isSeparator (c : Char) : Bool := c == '/' || c == '\\'

/-- Whether the part of a path behind its last separator is the name of the compiler, in any
case. -/
def hasCompilerName (path : Path) : Bool :=
  (trailingRun (!isSeparator ·) path.display).map Char.toLower == compilerName

/-- The path, if it names the compiler. -/
def validate (path : Path) : Except CompileError Path :=
  if hasCompilerName path then .ok path else .error (.wrongExecutable path)

/-- The arguments that compile a file. -/
def arguments (input : Path) : List Text :=
  ["--for=5dx".toList, "--language=sc".toList, "--command=compile".toList,
    "--input=".toList ++ input.display]

/-- Checks, and runs the compiler on the document with a URI. -/
def start (launch : Launcher) (tree : FileTree) (compiler : Option Path) (target : Option Uri) :
    Except CompileError Run := do
  let some configured := compiler | .error .notConfigured
  let path ← validate configured
  if !tree.contains path then .error (.missing path)
  let some uri := target | .error .noDocument
  let some input := uri.toPath? | .error (.notAFile uri)
  (launch tree path (arguments input)).mapError .notRun

/-- What a compilation has to show. -/
structure Outcome where
  /-- The printed lines. -/
  lines : List Text
  /-- How the compiler has ended, or why nothing can be told of it. -/
  result : Except CompileError Ending
  deriving Repr

/-- Compiles the document with a URI. -/
def compile (launch : Launcher) (tree : FileTree) (compiler : Option Path) (target : Option Uri) :
    Outcome :=
  match start launch tree compiler target with
  | .ok run => ⟨forward run.events, run.ending.mapError .notRun⟩
  | .error cause => ⟨[], .error cause⟩

end SnippetServer.Compiler
