import SnippetServer.Text.Basic

namespace SnippetServer.Text

/-!
# UTF-8

A decoder that reads one byte at a time.  Between characters a byte starts one; inside a character
the next byte has to lie in a range, which after some first bytes is narrower than that of all
continuation bytes, so that no character has two encodings and no surrogate has one.  A byte that
does not fit ends the unfinished character and is then read as a first byte itself, so what is lost
is a *maximal* prefix of a character.

* `scan` — the characters and the losses (`none`) of a byte string, in order;
* `decode?` — the text, if nothing is lost;
* `decodeLossy` — the text with U+FFFD for every loss;
* `encode` — the bytes of a text.
-/

namespace Utf8

/-- Where the decoder stands. -/
inductive State where
  /-- Between characters. -/
  | between
  /-- Inside a character: the bits so far, the number of bytes still to come after the next one,
  and the range of the next one. -/
  | inside (bits owed lo hi : Nat)
  deriving DecidableEq, Repr

/-- What a byte read between characters gives, and where the decoder stands after it. -/
def start (b : Nat) : List (Option Char) × State :=
  if b < 0x80 then ([some (Char.ofNat b)], .between)
  else if 0xC2 ≤ b ∧ b ≤ 0xDF then ([], .inside (b - 0xC0) 0 0x80 0xBF)
  else if b = 0xE0 then ([], .inside 0 1 0xA0 0xBF)
  else if b = 0xED then ([], .inside 0xD 1 0x80 0x9F)
  else if 0xE1 ≤ b ∧ b ≤ 0xEF then ([], .inside (b - 0xE0) 1 0x80 0xBF)
  else if b = 0xF0 then ([], .inside 0 2 0x90 0xBF)
  else if 0xF1 ≤ b ∧ b ≤ 0xF3 then ([], .inside (b - 0xF0) 2 0x80 0xBF)
  else if b = 0xF4 then ([], .inside 4 2 0x80 0x8F)
  else ([none], .between)

/-- What a byte gives, and where the decoder stands after it. -/
def step : State → Nat → List (Option Char) × State
  | .between, b => start b
  | .inside bits owed lo hi, b =>
    if lo ≤ b ∧ b ≤ hi then
      match owed with
      | 0 => ([some (Char.ofNat (bits * 64 + (b - 0x80)))], .between)
      | owed + 1 => ([], .inside (bits * 64 + (b - 0x80)) owed 0x80 0xBF)
    else
      match start b with
      | (out, next) => (none :: out, next)

/-- What the end of the bytes gives. -/
def finish : State → List (Option Char)
  | .between => []
  | .inside .. => [none]

/-- The characters and losses that the bytes give from a state on. -/
def scanFrom : State → Bytes → List (Option Char)
  | s, [] => finish s
  | s, b :: r =>
    match step s b.toNat with
    | (out, next) => out ++ scanFrom next r

end Utf8

/-- The characters and the losses of a byte string, in order. -/
def scan (b : Bytes) : List (Option Char) := Utf8.scanFrom .between b

/-- What stands for a loss: U+FFFD. -/
def replacement : Char := '\ufffd'

/-- The text of a byte string, with U+FFFD for every loss. -/
def decodeLossy (b : Bytes) : Text := (scan b).map fun c => c.getD replacement

/-- The text of a byte string that is valid UTF-8. -/
def decode? (b : Bytes) : Option Text := (scan b).mapM id

/-- The bytes of one character. -/
def encodeChar (c : Char) : Bytes :=
  let n := c.toNat
  if n < 0x80 then [n.toUInt8]
  else if n < 0x800 then [(0xC0 + n / 0x40).toUInt8, (0x80 + n % 0x40).toUInt8]
  else if n < 0x10000 then
    [(0xE0 + n / 0x1000).toUInt8, (0x80 + n / 0x40 % 0x40).toUInt8, (0x80 + n % 0x40).toUInt8]
  else
    [(0xF0 + n / 0x40000).toUInt8, (0x80 + n / 0x1000 % 0x40).toUInt8,
      (0x80 + n / 0x40 % 0x40).toUInt8, (0x80 + n % 0x40).toUInt8]

/-- The bytes of a text. -/
def encode (t : Text) : Bytes := t.flatMap encodeChar

@[simp] theorem scan_nil : scan [] = [] := rfl

@[simp] theorem encode_nil : encode [] = [] := rfl

/-- The bytes of a text begin with those of its first character. -/
@[simp] theorem encode_cons (c : Char) (t : Text) : encode (c :: t) = encodeChar c ++ encode t := by
  simp [encode]

/-- Two texts in a row have the bytes of both. -/
@[simp] theorem encode_append (s t : Text) : encode (s ++ t) = encode s ++ encode t := by
  simp [encode]

end SnippetServer.Text
