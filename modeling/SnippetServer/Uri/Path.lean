import SnippetServer.Text.Lines
import SnippetServer.Uri.Percent

namespace SnippetServer.Uri

/-!
# Paths of URIs

A path that starts with a slash is a list of segments, which are resolved while they are read: a
single dot is left out and a double dot takes the segment before with it.  At the end of a path
both leave an empty segment, so that the path still ends in a slash.  Drive letters are kept by a
double dot, and as the first segment of a file they are written with a colon.  Tabs and line ends do
not count, except that one right behind a drive letter ends the first segment of a file.

* `withoutBreaks` — a text without tabs and line ends;
* `segmentsOf` — the segments of a text, before they are resolved;
* `Route`, `resolve` — the segments of a path, and whether a drive letter is the first;
* `withoutEmptyFront` — those of the path of a file;
* `pathText` — the written form of segments.
-/

/-! ### Breaks -/

/-- Whether a URI leaves out a character wherever it stands: a tab or a line end. -/
def isBreak (c : Char) : Bool := c == '\t' || c == '\n' || c == '\r'

/-- A text without tabs and line ends. -/
def withoutBreaks (t : Text) : Text := t.filter (!isBreak ·)

/-! ### Segments -/

/-- Whether a segment is a drive letter: a letter and a colon or a bar. -/
def isDriveLetter : Text → Bool
  | [c, d] => c.isAlpha && (d == ':' || d == '|')
  | _ => false

/-- Whether a segment starts with a drive letter, which ends with it or at a backslash. -/
def startsWithDrive : Text → Bool
  | c :: d :: rest => isDriveLetter [c, d] && rest.head?.all (· == '\\')
  | _ => false

/-- The segments of a text; under a special scheme a backslash is a slash. -/
def segmentsOf (special : Bool) (t : Text) : List Text :=
  let slashed := if special then t.map fun c => if c = '\\' then '/' else c else t
  match Text.cutAt '/' slashed with
  | (done, rest) => done ++ [rest]

/-- A segment with percent-encoded dots read as dots. -/
def plainDots : Text → Text
  | '%' :: '2' :: 'e' :: r => '.' :: plainDots r
  | '%' :: '2' :: 'E' :: r => '.' :: plainDots r
  | c :: r => c :: plainDots r
  | [] => []

/-- A segment as the first one of the path of a file: a drive letter is written with a colon. -/
def asDrive (segment : Text) : Text :=
  if isDriveLetter segment then segment.take 1 ++ [':'] else segment

/-- The drive letter that a break parts from the rest of a segment, and that rest. -/
def splitDrive? (segment : Text) : Option (Text × Text) :=
  match withoutBreaks segment with
  | c :: ':' :: d :: rest =>
    if c.isAlpha && ((segment.dropWhile (· != ':')).drop 1).head?.any isBreak then
      some ([c, ':'], d :: rest)
    else none
  | _ => none

/-! ### Resolving -/

/-- How far a path has been resolved. -/
structure Route where
  /-- The segments so far. -/
  segments : List Text
  /-- Whether the first one was read as a drive letter. -/
  onDrive : Bool
  deriving DecidableEq, Repr

namespace Route

/-- The start of every path. -/
def empty : Route := ⟨[], false⟩

/-- The route without its last segment, unless a drive letter is there. -/
def up (r : Route) : Route :=
  if r.segments.getLast?.any startsWithDrive then r
  else { r with segments := r.segments.dropLast }

/-- The route with an empty segment at its end. -/
def close (r : Route) : Route := { r with segments := r.segments ++ [[]] }

/-- The route with one more segment at its end, under the scheme of files if `file`.  A drive letter
is told only as the first segment. -/
def add (file : Bool) (r : Route) (segment : Text) : Route :=
  let encoded := encode pathSet (withoutBreaks segment)
  if !file || !r.segments.isEmpty then { r with segments := r.segments ++ [encoded] }
  else match splitDrive? segment with
    | some (drive, rest) => { r with segments := [drive, encode pathSet rest] }
    | none => ⟨[asDrive encoded], isDriveLetter encoded⟩

/-- The route over further segments. -/
def follow (file : Bool) : Route → List Text → Route
  | r, [] => r
  | r, segment :: rest =>
    let dots := plainDots (withoutBreaks segment)
    if dots = ['.', '.'] then follow file (if rest.isEmpty then r.up.close else r.up) rest
    else if dots = ['.'] then follow file (if rest.isEmpty then r.close else r) rest
    else follow file (r.add file segment) rest

end Route

/-- The route over the segments of a path. -/
def resolve (file : Bool) (segments : List Text) : Route := Route.empty.follow file segments

/-- The segments without empty ones in front: the path of a file does not start with more than one
slash. -/
def withoutEmptyFront (segments : List Text) : List Text :=
  match segments.dropWhile List.isEmpty with
  | [] => [[]]
  | kept => kept

/-- Every segment with a slash in front. -/
def pathText (segments : List Text) : Text := segments.flatMap ('/' :: ·)

end SnippetServer.Uri
