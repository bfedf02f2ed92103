import SnippetServer.Json.Basic
import SnippetServer.Text.Order
import SnippetServer.Uri.Percent

namespace SnippetServer.Json

/-!
# Reading JSON

A value is read from the front of a text, and what follows it is left over.  The depth to which
values may nest is bounded by a number that the length of the text always suffices for.  A number
that no double comes near is not read.

* `readString` — the rest of a string behind its opening quote;
* `readNumber` — a number;
* `readValue` — a value;
* `parse?` — the value that a whole text is.
-/

/-- The blanks that may stand between the parts of a value. -/
def isGap (c : Char) : Bool := c == ' ' || c == '\t' || c == '\n' || c == '\r'

/-- The text without the blanks in front. -/
def skipGap (t : Text) : Text := t.dropWhile isGap

/-! ### Strings -/

/-- The character behind a backslash that stands for one character. -/
def shortEscape? (c : Char) : Option Char :=
  [('"', '"'), ('\\', '\\'), ('/', '/'), ('b', '\x08'), ('f', '\x0c'), ('n', '\n'), ('r', '\r'),
    ('t', '\t')].lookup c

/-- The value of four hexadecimal digits. -/
def unit? (a b c d : Char) : Option Nat := do
  some (((← Uri.hexValue? a) * 16 + (← Uri.hexValue? b)) * 256 +
    (← Uri.hexValue? c) * 16 + (← Uri.hexValue? d))

/-- Whether a UTF-16 unit is the first of a pair. -/
def isLead (n : Nat) : Bool := 0xD800 ≤ n && n ≤ 0xDBFF

/-- Whether a UTF-16 unit is the second of a pair. -/
def isTrail (n : Nat) : Bool := 0xDC00 ≤ n && n ≤ 0xDFFF

/-- The rest of a string behind its opening quote and the characters `read`, last first, with what
follows the closing quote.  `lead` is the first unit of a pair that has been read and waits for the
second one. -/
def readString (lead : Option Nat) (read : Text) : Text → Option (Text × Text)
  | '\\' :: 'u' :: a :: b :: c :: d :: r =>
    match unit? a b c d, lead with
    | none, _ => none
    | some n, none =>
      if isLead n then readString (some n) read r
      else if isTrail n then none
      else readString none (Char.ofNat n :: read) r
    | some n, some m =>
      if isTrail n then
        readString none (Char.ofNat (0x10000 + (m - 0xD800) * 0x400 + (n - 0xDC00)) :: read) r
      else none
  | '\\' :: c :: r =>
    match shortEscape? c, lead with
    | some e, none => readString none (e :: read) r
    | _, _ => none
  | '"' :: r => if lead.isSome then none else some (read.reverse, r)
  | c :: r => if lead.isSome || c.toNat < 0x20 then none else readString none (c :: read) r
  | [] => none

/-! ### Numbers -/

/-- The digits in front, of which there has to be one, and what follows them. -/
def digits? (t : Text) : Option (Text × Text) :=
  match t.takeWhile Char.isDigit with
  | [] => none
  | ds => some (ds, t.dropWhile Char.isDigit)

/-- A sign, a point or another single character in front, if it is one of these. -/
def oneOf (cs : List Char) : Text → Text × Text
  | c :: r => if cs.contains c then ([c], r) else ([], c :: r)
  | [] => ([], [])

/-- The value of decimal digits. -/
def decimalValue (ds : Text) : Nat := ds.foldl (fun n c => 10 * n + (c.toNat - 0x30)) 0

/-- The bound of the whole numbers that are kept exactly. -/
def wholeLimit : Nat := 0x10000000000000000

/-- The number that `n` becomes with digits behind it, as far as it stays below the bound, and the
digits that are left. -/
def appendDigits (n : Nat) : Text → Nat × Text
  | [] => (n, [])
  | c :: r =>
    let next := 10 * n + (c.toNat - 0x30)
    if next < wholeLimit then appendDigits next r else (n, c :: r)

/-- The number with the given parts.  A whole number is kept if it fits into 64 bits, with a sign
if it is negative; there is no negative zero among them.  A double is made of as many digits as fit
into 64 bits: for the others only the place of the point counts. -/
def numberOf? (negative : Bool) (whole : Text) (fraction : Option Text) (power : Option Int) :
    Option Json :=
  let (n, left) := appendDigits 0 whole
  let fits := left.isEmpty && (!negative || (n != 0 && 2 * n ≤ wholeLimit))
  if fits && fraction.isNone && power.isNone then
    some (.int (if negative then -n else n))
  else
    let digits := fraction.getD []
    let (m, ignored) := appendDigits n digits
    let places : Int := left.length - (digits.length - ignored.length : Nat)
    (Double.ofDecimal? negative m (places + power.getD 0)).map .double

/-- The digits behind a point in front, if there is one, and what follows them. -/
def fraction? (t : Text) : Option (Option Text × Text) :=
  match t with
  | '.' :: r => (digits? r).map fun (ds, rest) => (some ds, rest)
  | t => some (none, t)

/-- The exponent in front, if there is one, and what follows it. -/
def exponent? (t : Text) : Option (Option Int × Text) :=
  match oneOf ['e', 'E'] t with
  | ([], _) => some (none, t)
  | (_, r) =>
    match oneOf ['+', '-'] r with
    | (sign, r) =>
      (digits? r).map fun (ds, rest) =>
        let n : Int := decimalValue ds
        (some (if sign = ['-'] then -n else n), rest)

/-- A number, and what follows it.  It does not start with a zero that is not its only digit in
front of the point. -/
def readNumber (t : Text) : Option (Json × Text) := do
  let (sign, r) := oneOf ['-'] t
  let (ds, r) ← digits? r
  if 1 < ds.length && ds.head? == some '0' then none
  let (fraction, r) ← fraction? r
  let (power, r) ← exponent? r
  let j ← numberOf? (!sign.isEmpty) ds fraction power
  some (j, r)

/-! ### Values -/

/-- What follows a word. -/
def afterWord? (word t : Text) : Option Text :=
  if word.isPrefixOf t then some (t.drop word.length) else none

/-- A name or a sign of its own. -/
def readWord (t : Text) : Option (Json × Text) :=
  match afterWord? ['n', 'u', 'l', 'l'] t with
  | some r => some (.null, r)
  | none =>
    match afterWord? ['t', 'r', 'u', 'e'] t with
    | some r => some (.bool true, r)
    | none => (afterWord? ['f', 'a', 'l', 's', 'e'] t).map fun r => (.bool false, r)

/-- Members with one more in front of them in the text, in the order of their names.  Of two members
with one name the later one counts. -/
def insertMember (name : Text) (value : Json) : List (Text × Json) → List (Text × Json)
  | [] => [(name, value)]
  | (n, v) :: rest =>
    if n = name then (n, v) :: rest
    else if Text.precedes name n then (name, value) :: (n, v) :: rest
    else (n, v) :: insertMember name value rest

mutual

/-- A value, and what follows it. -/
def readValue : Nat → Text → Option (Json × Text)
  | 0, _ => none
  | depth + 1, t =>
    match skipGap t with
    | '"' :: r => (readString none [] r).map fun (s, rest) => (.str s, rest)
    | '[' :: r =>
      match skipGap r with
      | ']' :: rest => some (.arr [], rest)
      | r => (readItems depth r).map fun (items, rest) => (.arr items, rest)
    | '\x7b' :: r =>
      match skipGap r with
      | '\x7d' :: rest => some (.obj [], rest)
      | r => (readMembers depth r).map fun (members, rest) => (.obj members, rest)
    | t =>
      match readWord t with
      | some found => some found
      | none => readNumber t

/-- The items of an array up to its closing bracket. -/
def readItems : Nat → Text → Option (List Json × Text)
  | 0, _ => none
  | depth + 1, t =>
    match readValue depth t with
    | none => none
    | some (item, r) =>
      match skipGap r with
      | ',' :: r => (readItems depth r).map fun (items, rest) => (item :: items, rest)
      | ']' :: rest => some ([item], rest)
      | _ => none

/-- The members of an object up to its closing brace. -/
def readMembers : Nat → Text → Option (List (Text × Json) × Text)
  | 0, _ => none
  | depth + 1, t =>
    match skipGap t with
    | '"' :: r =>
      match readString none [] r with
      | none => none
      | some (name, r) =>
        match skipGap r with
        | ':' :: r =>
          match readValue depth r with
          | none => none
          | some (value, r) =>
            match skipGap r with
            | ',' :: r =>
              (readMembers depth r).map fun (members, rest) =>
                (insertMember name value members, rest)
            | '\x7d' :: rest => some ([(name, value)], rest)
            | _ => none
        | _ => none
    | _ => none

end

/-- The value that a whole text is. -/
def parse? (t : Text) : Option Json :=
  match readValue (t.length + 1) t with
  | some (j, rest) => if (skipGap rest).isEmpty then some j else none
  | none => none

end SnippetServer.Json
