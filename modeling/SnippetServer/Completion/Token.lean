import SnippetServer.Text.Units

namespace SnippetServer.Completion

/-!
# The token being typed

What stands right before the cursor is a token if it ends in a letter of one of two classes: ASCII
letters, digits and the underscore, or characters outside ASCII.  The token is the longest run of
that one class, so in `代入a` it is `a` and in `a代入` it is `代入`.

* `TokenClass.of?` — the class of a character;
* `Span` — a range of UTF-16 columns;
* `Token.atEnd?` — the token at the end of a line.
-/

/-- The two classes of characters that a token can have. -/
inductive TokenClass where
  /-- ASCII letters, digits and the underscore. -/
  | word
  /-- Characters outside ASCII. -/
  | foreign
  deriving DecidableEq, Repr

/-- Whether a character is an ASCII character. -/
def isAscii (c : Char) : Bool := c.toNat < 0x80

/-- The class of a character, if tokens can have it. -/
def TokenClass.of? (c : Char) : Option TokenClass :=
  if c.isAlphanum || c == '_' then some .word
  else if isAscii c then none
  else some .foreign

/-- A range of columns in a line, in UTF-16 units. -/
structure Span where
  /-- The column before the first character. -/
  start : Nat
  /-- The column after the last character. -/
  stop : Nat
  deriving DecidableEq, Repr

/-- The token at the end of a line. -/
structure Token where
  /-- The token as it is written. -/
  text : Text
  /-- Where it stands in the line. -/
  span : Span
  deriving DecidableEq, Repr

/-- The token at the end of a line: the longest run of the class of its last character. -/
def Token.atEnd? (line : Text) : Option Token := do
  let last ← line.getLast?
  let cls ← TokenClass.of? last
  let inClass c := TokenClass.of? c == some cls
  let before := Text.units (dropTrailing inClass line)
  let text := trailingRun inClass line
  some ⟨text, before, before + Text.units text⟩

@[simp] theorem Token.atEnd?_nil : Token.atEnd? [] = none := rfl

end SnippetServer.Completion
