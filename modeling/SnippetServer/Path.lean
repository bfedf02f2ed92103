import SnippetServer.Text.Lines
import SnippetServer.Text.Utf8

namespace SnippetServer

/-!
# Paths

A path is a byte string; it need not be UTF-8.  Slashes separate its components, of which empty
ones and single dots (other than a leading one) are left out.

* `Path.display` — the text that is shown for a path;
* `Path.fileName?` — its last component, unless that is a double dot or there is none;
* `Path.join` — a path continued by another one.
-/

/-- A path. -/
structure Path where
  /-- The bytes of the path. -/
  bytes : Bytes
  deriving DecidableEq, Repr

namespace Path

/-- The slash between components. -/
def slash : UInt8 := 0x2F

/-- The dot that stands for the same directory, and twice for the one above. -/
def dot : UInt8 := 0x2E

/-- The path with this text. -/
def ofText (t : Text) : Path := ⟨Text.encode t⟩

/-- The text that is shown for a path: U+FFFD stands for what is not UTF-8. -/
def display (p : Path) : Text := Text.decodeLossy p.bytes

/-- The pieces between slashes. -/
def pieces (p : Path) : List Bytes :=
  match Text.cutAt slash p.bytes with
  | (done, rest) => done ++ [rest]

/-- The pieces that name something: neither empty nor a single dot. -/
def names (p : Path) : List Bytes := p.pieces.filter fun piece => piece != [] && piece != [dot]

/-- Whether a path starts at the root. -/
def isAbsolute (p : Path) : Bool := p.bytes.head? == some slash

/-- Whether a path holds a NUL, as the name of no file does. -/
def hasNul (p : Path) : Bool := p.bytes.contains 0

/-- The last component; there is none at the end of a double dot, nor in a path without names. -/
def fileName? (p : Path) : Option Bytes := p.names.getLast?.filter (· != [dot, dot])

/-- A path continued by another one, which replaces it if it starts at the root. -/
def join (p q : Path) : Path :=
  if q.isAbsolute then q
  else if p.bytes.isEmpty || p.bytes.getLast? == some slash then ⟨p.bytes ++ q.bytes⟩
  else ⟨p.bytes ++ [slash] ++ q.bytes⟩

end Path

end SnippetServer
