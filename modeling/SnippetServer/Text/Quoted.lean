import SnippetServer.Text.Basic
import SnippetServer.Text.Ranges
import SnippetServer.Text.Quoted.Table

namespace SnippetServer.Text

/-!
# Quoted text

A text in double quotes, for messages in which every character has to show.  NUL, TAB, LF, CR,
the double quote and the backslash have short escapes; a character that attaches to the one before
it, or does not show, is written as `\u` with its code point in braces; all others stand as they
are.

* `quoted` — quotes a text; an apostrophe stands as it is;
* `quotedPath` — quotes the text of a path; there an apostrophe is escaped as well.
-/

/-- A number in hexadecimal, in lower case and without leading zeros. -/
def hexadecimal (n : Nat) : Text := Nat.toDigits 16 n

/-- The escape of a character by its code point. -/
def codePointEscape (c : Char) : Text :=
  ['\\', 'u', '\x7b'] ++ hexadecimal c.toNat ++ ['\x7d']

/-- Whether a character is written by its code point. -/
def needsCodePoint (c : Char) : Bool :=
  inRanges c.toNat Quoted.extenders || inRanges c.toNat Quoted.unprintable

/-- A character inside double quotes. -/
def quotedChar (c : Char) : Text :=
  match c with
  | '\x00' => ['\\', '0']
  | '\t' => ['\\', 't']
  | '\n' => ['\\', 'n']
  | '\r' => ['\\', 'r']
  | '"' => ['\\', '"']
  | '\\' => ['\\', '\\']
  | c => if needsCodePoint c then codePointEscape c else [c]

/-- A text in double quotes. -/
def quoted (t : Text) : Text := '"' :: t.flatMap quotedChar ++ ['"']

/-- The text of a path in double quotes. -/
def quotedPath (t : Text) : Text :=
  '"' :: t.flatMap (fun c => if c = '\'' then ['\\', '\''] else quotedChar c) ++ ['"']

end SnippetServer.Text
