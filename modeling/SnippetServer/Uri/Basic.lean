import SnippetServer.Path
import SnippetServer.Uri.Host
import SnippetServer.Uri.Path

namespace SnippetServer

/-!
# URIs

Documents are named by URIs in their normal form.

* `Uri` — a URI;
* `Uri.text` — its written form;
* `Uri.toPath?` — the path of the file that it names.
-/

namespace Uri

/-- What stands between the double slash and the path. -/
structure Authority where
  /-- User name and password with their `@`, or nothing. -/
  userinfo : Text
  /-- The host; in some URIs it is empty. -/
  host : Option Host
  /-- The port, unless it is the one that the scheme stands for. -/
  port : Option Nat
  deriving DecidableEq, Repr

/-- The path of a URI. -/
inductive Location where
  /-- A text that does not start with a slash. -/
  | rootless (text : Text)
  /-- Segments, each with a slash in front. -/
  | segments (list : List Text)
  deriving DecidableEq, Repr

end Uri

/-- A URI. -/
structure Uri where
  /-- The scheme, in lower case. -/
  scheme : Text
  /-- What follows a double slash, if there is one. -/
  authority : Option Uri.Authority
  /-- The path. -/
  location : Uri.Location
  /-- What follows the question mark. -/
  query : Option Text
  /-- What follows the number sign. -/
  fragment : Option Text
  deriving DecidableEq, Repr

namespace Uri

/-- The written form of an authority, with its double slash. -/
def Authority.text (a : Authority) : Text :=
  ['/', '/'] ++ a.userinfo ++ (a.host.map Host.text).getD [] ++
    (match a.port with
      | none => []
      | some n => ':' :: Nat.toDigits 10 n)

/-- The written form of a path.  Without an authority, a path whose first segment is empty gets a
dot in front, since a double slash would be read as the start of one. -/
def Location.text (hasAuthority : Bool) : Location → Text
  | .rootless t => t
  | .segments list =>
    (if !hasAuthority && list.head? == some [] && 1 < list.length then ['/', '.'] else []) ++
      pathText list

/-- A part with the character that introduces it, if there is such a part. -/
def markedText (mark : Char) : Option Text → Text
  | none => []
  | some t => mark :: t

/-- The written form of a URI. -/
def text (u : Uri) : Text :=
  u.scheme ++ [':'] ++ (u.authority.map Authority.text).getD [] ++
    u.location.text u.authority.isSome ++ markedText '?' u.query ++ markedText '#' u.fragment

/-- The host of a URI. -/
def host? (u : Uri) : Option Host := u.authority.bind Authority.host

/-- The name of this machine. -/
def localhost : Host := .domain ['l', 'o', 'c', 'a', 'l', 'h', 'o', 's', 't']

/-- A path whose last two bytes are a letter and a colon or bar names a drive and gets a slash. -/
def closeDrive (b : Bytes) : Bytes :=
  match b.reverse with
  | d :: c :: _ :: _ =>
    if isDriveLetter [Char.ofNat c.toNat, Char.ofNat d.toNat] then b ++ [Path.slash] else b
  | _ => b

/-- The path of the file that a URI names: its segments, percent-decoded.  The URI must have a path
with segments, and no host but this machine. -/
def toPath? (u : Uri) : Option SnippetServer.Path :=
  match u.location with
  | .rootless _ => none
  | .segments list =>
    if list.isEmpty || (u.host?.isSome && u.host? != some localhost) then none
    else some ⟨closeDrive (list.flatMap fun s => Path.slash :: decode s)⟩

end Uri

end SnippetServer
