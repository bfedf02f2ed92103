import SnippetServer.Compiler.Basic

namespace SnippetServer.Compiler

/-!
# Running the programs of a file tree

A program prints two files that stand next to it.

* `outputPath` — where the file stands that a program prints to a pipe;
* `launchIn` — the launcher that runs the programs which a file tree holds;
* `launchNothing` — the launcher of a system without processes.
-/

/-- What the name of the file that a program prints to a pipe ends in. -/
def outputEnding : Pipe → Text
  | .out => ['.', 'o', 'u', 't']
  | .err => ['.', 'e', 'r', 'r']

/-- The path of the file that a program prints to a pipe. -/
def outputPath (program : Path) (pipe : Pipe) : Path :=
  ⟨program.bytes ++ Text.encode (outputEnding pipe)⟩

/-- What a program prints of a file: its content, or a complaint to the other pipe. -/
def printed (tree : FileTree) (pipe : Pipe) (path : Path) : PipeEvent :=
  match tree.readFile? path with
  | some bytes => .wrote pipe bytes
  | none =>
    .wrote .err (Text.encode "cat: ".toList ++ path.bytes ++
      Text.encode ": No such file or directory\n".toList)

/-- What running a program under this path does. -/
def runProgram (tree : FileTree) (path : Path) (args : List Text) (program : Program) : Run :=
  { events :=
      [.wrote .out (if program.echoes then args.flatMap fun a => Text.encode (a ++ ['\n']) else []),
        printed tree .out (outputPath path .out), printed tree .err (outputPath path .err),
        .closed .out, .closed .err]
    ending := .ok program.ending }

/-- The most bytes that an argument has. -/
def longestArgument : Nat := 0x1FFFF

/-- Runs the program that a path names; what is not a program may not be run. -/
def launchIn : Launcher := fun tree path args =>
  if args.any (·.contains '\x00') then .error .nulInArgument
  else match tree.resolve path with
    | .error cause => .error cause
    | .ok place =>
      match tree.node? place with
      | some (.file _ (some program)) =>
        if args.any fun a => longestArgument < (Text.encode a).length then .error .argumentTooLong
        else .ok (runProgram tree path args program)
      | _ => .error .denied

/-- Runs nothing. -/
def launchNothing : Launcher := fun _ _ _ => .error .unsupported

end SnippetServer.Compiler
