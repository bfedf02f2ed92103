import SnippetServer.Text.Basic

namespace SnippetServer.Text

/-!
# White space

Blank characters are those with the Unicode property `White_Space`.  The list is closed: U+200B,
U+2060, U+FEFF and U+180E, which some programs also skip, are not blank.

* `isBlank` — the property;
* `trim` — a text without the blanks at both of its ends;
* `isBlankText` — whether a text is nothing but blanks.
-/

/-- Whether a character is white space. -/
def isBlank (c : Char) : Bool :=
  let n := c.toNat
  (0x9 ≤ n && n ≤ 0xD) || n == 0x20 || n == 0x85 || n == 0xA0 || n == 0x1680 ||
    (0x2000 ≤ n && n ≤ 0x200A) || n == 0x2028 || n == 0x2029 || n == 0x202F || n == 0x205F ||
    n == 0x3000

/-- Whether every character is white space. -/
def isBlankText (t : Text) : Bool := t.all isBlank

/-- The text without the blanks in front. -/
def trimStart (t : Text) : Text := t.dropWhile isBlank

/-- The text without the blanks at its end. -/
def trimEnd (t : Text) : Text := dropTrailing isBlank t

/-- The text without the blanks at both ends. -/
def trim (t : Text) : Text := trimEnd (trimStart t)

@[simp] theorem isBlankText_nil : isBlankText [] = true := rfl

/-- Two texts in a row are blank if each is. -/
@[simp] theorem isBlankText_append (s t : Text) :
    isBlankText (s ++ t) = (isBlankText s && isBlankText t) := by
  simp [isBlankText]

@[simp] theorem trim_nil : trim [] = [] := rfl

end SnippetServer.Text
