import SnippetServer.FileTree.Basic

namespace SnippetServer.Compiler

/-!
# What the compiler prints

A process writes to two pipes.  What arrives on one of them is kept until a line is complete, so
every line reaches the user whole and as soon as it is there; what is left when a pipe is closed is
a last line unless it is empty.

* `PipeEvent`, `Run` — what a process does;
* `lineText` — the text of a line;
* `forward` — the lines that a sequence of events gives;
* `linesOf` — the lines of one byte stream.
-/

/-- The two pipes of a process. -/
inductive Pipe where
  /-- Its output. -/
  | out
  /-- Its messages. -/
  | err
  deriving DecidableEq, Repr

/-- What happens on the pipes of a process. -/
inductive PipeEvent where
  /-- Bytes arrive on a pipe. -/
  | wrote (pipe : Pipe) (bytes : Bytes)
  /-- A pipe is closed. -/
  | closed (pipe : Pipe)
  deriving DecidableEq, Repr

/-- One run of a program. -/
structure Run where
  /-- What happens on its pipes, in order. -/
  events : List PipeEvent
  /-- How it ends, or why the system cannot tell. -/
  ending : Except SystemError Ending
  deriving Repr

/-- The byte that ends a line. -/
def lineFeed : UInt8 := 0x0A

/-- The text of a line without its LF: what is not UTF-8 is replaced, and every CR at the end is
left out. -/
def lineText (piece : Bytes) : Text := dropTrailing (· == '\r') (Text.decodeLossy piece)

/-- The lines that a closed pipe gives for what is left on it. -/
def lastLine (rest : Bytes) : List Text := if rest.isEmpty then [] else [lineText rest]

/-- The lines that events give, when `out` and `err` are what is left on the pipes.  In the end
both are closed. -/
def forwardFrom (out err : Bytes) : List PipeEvent → List Text
  | [] => lastLine out ++ lastLine err
  | .wrote .out bytes :: events =>
    match Text.cutAt lineFeed (out ++ bytes) with
    | (done, rest) => done.map lineText ++ forwardFrom rest err events
  | .wrote .err bytes :: events =>
    match Text.cutAt lineFeed (err ++ bytes) with
    | (done, rest) => done.map lineText ++ forwardFrom out rest events
  | .closed .out :: events => lastLine out ++ forwardFrom [] err events
  | .closed .err :: events => lastLine err ++ forwardFrom out [] events

/-- The lines that the events of a run give, in the order in which they are complete. -/
def forward (events : List PipeEvent) : List Text := forwardFrom [] [] events

/-- The lines of one byte stream. -/
def linesOf (stream : Bytes) : List Text :=
  match Text.cutAt lineFeed stream with
  | (done, rest) => done.map lineText ++ lastLine rest

@[simp] theorem linesOf_nil : linesOf [] = [] := rfl

@[simp] theorem lastLine_nil : lastLine [] = [] := rfl

end SnippetServer.Compiler
