import SnippetServer.Double.Shortest
import SnippetServer.Text.Lines

namespace SnippetServer

/-!
# JSON values

Settings, options and the parameters of messages are JSON values.  Members of an object are kept in
the order of their names, by code points; no two of them have the same name.

* `Json` — a value;
* `Json.get?` — a member of an object;
* `Json.fields?` — the fields of a structure, which is an object or an array;
* `Json.render` — the shortest written form.
-/

/-- A JSON value. -/
inductive Json where
  /-- The null value. -/
  | null
  /-- A truth value. -/
  | bool (b : Bool)
  /-- A whole number written without a point and without an exponent. -/
  | int (n : Int)
  /-- Any other number. -/
  | double (d : Double)
  /-- A string. -/
  | str (t : Text)
  /-- An array. -/
  | arr (items : List Json)
  /-- An object. -/
  | obj (members : List (Text × Json))
  deriving Repr, Inhabited

namespace Json

/-- The member of an object with this name. -/
def get? (name : Text) : Json → Option Json
  | .obj members => members.lookup name
  | _ => none

/-- The fields of a structure with these names.  An object holds them under their names, of which
some may be missing; an array holds all of them in their order. -/
def fields? (names : List String) : Json → Option (List (Option Json))
  | .obj members => some (names.map fun name => members.lookup name.toList)
  | .arr items => if items.length = names.length then some (items.map some) else none
  | _ => none

/-- The text of a string. -/
def text? : Json → Option Text
  | .str t => some t
  | _ => none

/-- The items of an array. -/
def items? : Json → Option (List Json)
  | .arr items => some items
  | _ => none

/-- The value of a whole number that fits into 32 bits without a sign. -/
def word? : Json → Option Nat
  | .int (.ofNat n) => if n < 0x100000000 then some n else none
  | _ => none

/-- The value of a whole number that fits into 32 bits with a sign. -/
def signedWord? : Json → Option Int
  | .int n => if -0x80000000 ≤ n ∧ n < 0x80000000 then some n else none
  | _ => none

/-! ### Writing -/

/-- Four hexadecimal digits. -/
def fourDigits (n : Nat) : Text :=
  let digits := Nat.toDigits 16 n
  List.replicate (4 - digits.length) '0' ++ digits

/-- A character inside a string. -/
def stringChar (c : Char) : Text :=
  match c with
  | '"' => ['\\', '"']
  | '\\' => ['\\', '\\']
  | '\x08' => ['\\', 'b']
  | '\t' => ['\\', 't']
  | '\n' => ['\\', 'n']
  | '\x0c' => ['\\', 'f']
  | '\r' => ['\\', 'r']
  | c => if c.toNat < 0x20 then ['\\', 'u'] ++ fourDigits c.toNat else [c]

/-- A string in double quotes. -/
def stringText (t : Text) : Text := '"' :: t.flatMap stringChar ++ ['"']

/-- A whole number in decimal. -/
def intText : Int → Text
  | .ofNat n => Nat.toDigits 10 n
  | .negSucc n => '-' :: Nat.toDigits 10 (n + 1)

mutual

/-- The shortest written form of a value. -/
def render : Json → Text
  | .null => ['n', 'u', 'l', 'l']
  | .bool true => ['t', 'r', 'u', 'e']
  | .bool false => ['f', 'a', 'l', 's', 'e']
  | .int n => intText n
  | .double d => d.text
  | .str t => stringText t
  | .arr items => '[' :: Text.joinWith [','] (renderItems items) ++ [']']
  | .obj members => '\x7b' :: Text.joinWith [','] (renderMembers members) ++ ['\x7d']

/-- The written forms of the items of an array. -/
def renderItems : List Json → List Text
  | [] => []
  | j :: js => render j :: renderItems js

/-- The written forms of the members of an object. -/
def renderMembers : List (Text × Json) → List Text
  | [] => []
  | (name, value) :: members =>
    (stringText name ++ [':'] ++ render value) :: renderMembers members

end

end Json

end SnippetServer
