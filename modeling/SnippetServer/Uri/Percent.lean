import SnippetServer.Text.Utf8

namespace SnippetServer.Uri

/-!
# Percent-encoding

A byte that may not stand in a part of a URI is written as `%` and two upper-case hexadecimal
digits.  Bytes outside ASCII and controls are always written so; which others are depends on the
part.

* `encodeChar`, `encode` — percent-encoding of characters, through their UTF-8 bytes;
* `decode` — the bytes of a percent-encoded text; a `%` without two digits stands for itself;
* `fragmentSet`, `pathSet`, `userinfoSet`, `querySet`, `specialQuerySet` — the ASCII characters
  that the parts of a URI encode besides controls.
-/

/-- A hexadecimal digit, in upper case. -/
def hexDigit (n : Nat) : Char := if n < 10 then Char.ofNat (0x30 + n) else Char.ofNat (0x37 + n)

/-- The value of a hexadecimal digit of either case. -/
def hexValue? (c : Char) : Option Nat :=
  let n := c.toNat
  if 0x30 ≤ n ∧ n ≤ 0x39 then some (n - 0x30)
  else if 0x41 ≤ n ∧ n ≤ 0x46 then some (n - 0x37)
  else if 0x61 ≤ n ∧ n ≤ 0x66 then some (n - 0x57)
  else none

/-- A digit is read back as its value. -/
theorem hexValue?_hexDigit {n : Nat} (h : n < 16) : hexValue? (hexDigit n) = some n := by
  have all : ∀ m ∈ List.range 16, hexValue? (hexDigit m) = some m := by decide
  exact all n (List.mem_range.2 h)

/-- What a fragment encodes. -/
def fragmentSet : List Char := [' ', '"', '<', '>', '`']

/-- What a path encodes. -/
def pathSet : List Char := fragmentSet ++ ['#', '?', '\x7b', '\x7d']

/-- What a user name and a password encode. -/
def userinfoSet : List Char := pathSet ++ ['/', ':', ';', '=', '@', '[', '\\', ']', '^', '|']

/-- What a query encodes. -/
def querySet : List Char := [' ', '"', '#', '<', '>']

/-- What a query encodes under a special scheme. -/
def specialQuerySet : List Char := querySet ++ ['\'']

/-- Whether a character is an ASCII control. -/
def isControl (c : Char) : Bool := c.toNat < 0x20 || c.toNat == 0x7F

/-- A byte as `%` and two digits. -/
def encodeByte (b : UInt8) : Text := ['%', hexDigit (b.toNat / 16), hexDigit (b.toNat % 16)]

/-- A character, percent-encoded if it is in the set, a control or outside ASCII. -/
def encodeChar (set : List Char) (c : Char) : Text :=
  if c.toNat < 0x80 && !isControl c && !set.contains c then [c]
  else (Text.encodeChar c).flatMap encodeByte

/-- A text, percent-encoded character by character. -/
def encode (set : List Char) (t : Text) : Text := t.flatMap (encodeChar set)

/-- The bytes of a percent-encoded text. -/
def decode : Text → Bytes
  | [] => []
  | '%' :: a :: b :: r =>
    match hexValue? a, hexValue? b with
    | some x, some y => (16 * x + y).toUInt8 :: decode r
    | _, _ => '%'.toNat.toUInt8 :: decode (a :: b :: r)
  | c :: r => Text.encodeChar c ++ decode r

end SnippetServer.Uri
