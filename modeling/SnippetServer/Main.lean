import SnippetServer.CommandLine
import SnippetServer.Compiler.Launch
import SnippetServer.FileTree.Change
import SnippetServer.Server.Frame

namespace SnippetServer

open Server Compiler

/-!
# The program

Reads messages from the standard input and writes what the server sends to the standard output.
Everything is decided by `CommandLine.parse` and `Session.receive`; what is done here is to look at
the snippet directory before each message and to move bytes.  Changes of the directory are noticed
when the next message arrives.  No processes are started.
-/

/-! ### Looking at the file system -/

/-- What a path names at this moment; only the names of regular files tell more. -/
def observeNode (path : String) : IO (Option Node) := do
  try
    let bytes ← IO.FS.readBinFile ⟨path⟩
    return some (.file bytes.toList none)
  catch _ => return none

/-- The tree with directories on the way along the names, which start at a place. -/
def withDirectories (tree : FileTree) (place : Place) : List Bytes → FileTree
  | [] => tree
  | name :: rest =>
    if name = [Path.dot, Path.dot] then withDirectories tree place.dropLast rest
    else
      let next := place ++ [name]
      withDirectories (if tree.isDirectory next then tree else tree.put next .directory) next rest

/-- The directory in which the program runs. -/
def observeHome : IO (List Bytes) := do
  return (Path.ofText (← IO.currentDir).toString.toList).names

/-- The snippet directory and the compiler, as they are at this moment. -/
def observe (settings : Settings) : IO FileTree := do
  let home ← observeHome
  let here ← IO.currentDir
  let mut tree : FileTree := withDirectories { nodes := [], home } [] home
  let directory := settings.source.directory
  let folder := here / String.ofList directory.display
  if ← folder.isDir then
    tree := withDirectories tree (tree.origin directory) directory.names
    if let .ok place := tree.resolve directory then
      for entry in ← folder.readDir do
        if let some node ← observeNode entry.path.toString then
          tree := tree.put (place ++ [Text.encode entry.fileName.toList]) node
  else if let some node ← observeNode folder.toString then
    tree := withDirectories tree (tree.origin directory) directory.names.dropLast
    if let some place := tree.target? directory then
      tree := tree.put place node
  if let some compiler := settings.compiler then
    if ← (here / String.ofList compiler.display).pathExists then
      tree := withDirectories tree (tree.origin compiler) compiler.names.dropLast
      if let some place := tree.target? compiler then
        tree := tree.put place (.file [] none)
  return tree

/-! ### Moving bytes -/

/-- Reads a number of bytes, or fewer at the end of the input. -/
def readBytes (input : IO.FS.Stream) (count : Nat) : IO ByteArray := do
  let mut bytes := ByteArray.empty
  while bytes.size < count do
    let more ← input.read (count - bytes.size).toUSize
    if more.isEmpty then return bytes
    bytes := bytes ++ more
  return bytes

/-- Reads the lines of a header and gives the length of what follows; nothing at the end of the
input. -/
def readHeader (input : IO.FS.Stream) : IO (Option Nat) := do
  let mut length := none
  repeat
    let line ← input.getLine
    if line.isEmpty then return none
    let text := Text.trim line.toList
    if text.isEmpty then break
    length := contentLength? text <|> length
  return some (length.getD 0)

/-- The words of this program for what does not decode. -/
def wording : Wording where
  notUri j := j.render ++ " is not a URI".toList
  misfit _ _ := "invalid parameters".toList

/-- Serves a client until the input ends or the server has been told to exit. -/
def serve (start : Session) : IO Unit := do
  let input ← IO.getStdin
  let output ← IO.getStdout
  let mut session := start
  let mut seen ← observe session.state.settings
  repeat
    let some length ← readHeader input | break
    let body := Text.decodeLossy (← readBytes input length).toList
    let tree ← observe session.state.settings
    session := session.afterChanges tree (seen.changesBetween tree)
    let ahead := (session.receive wording launchNothing tree body).1.state.settings
    let tree ← observe ahead
    let (after, sent) := session.receive wording launchNothing tree body
    for j in sent do
      output.write ⟨(frame j).toArray⟩
    output.flush
    session := after
    seen := tree
    if session.phase = .exited then break

end SnippetServer

open SnippetServer in
/-- Starts the server as its command line says. -/
def main (args : List String) : IO UInt32 := do
  match CommandLine.parse (args.map String.toList) with
  | .ok c =>
    let home := Path.ofText (← IO.appDir).toString.toList
    serve (Server.Session.new (c.settings home) c.debug)
    return 0
  | .error stop =>
    match stop with
    | .stdioMissing => (← IO.getStderr).putStr (String.ofList CommandLine.stdioMessage)
    | .refused => (← IO.getStderr).putStrLn "error: the command line is not understood"
    | .help => (← IO.getStdout).putStr (String.ofList CommandLine.helpText)
    return stop.exitCode.toUInt32
