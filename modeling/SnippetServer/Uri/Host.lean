import SnippetServer.Text.Lines
import SnippetServer.Uri.Name
import SnippetServer.Uri.Percent

namespace SnippetServer.Uri

/-!
# Hosts

The host of a URI is a domain name, or an address in one of two forms.  Under a special scheme a
name is percent-decoded and written in ASCII, and a name whose last label is a number has to be an
IPv4 address; under other schemes a name is kept as it is.

* `Host` — a host;
* `Host.parse?` — the host of a special scheme;
* `Host.parseRaw?` — the host of any other scheme;
* `Host.text` — the written form.
-/

/-- A host. -/
inductive Host where
  /-- A domain name. -/
  | domain (name : Text)
  /-- An address of 32 bits. -/
  | ipv4 (address : Nat)
  /-- An address of eight pieces of 16 bits. -/
  | ipv6 (pieces : List Nat)
  deriving DecidableEq, Repr

/-! ### Reading numbers -/

/-- The value of a digit in the given base. -/
def digitValue? (base : Nat) (c : Char) : Option Nat :=
  (hexValue? c).filter (· < base)

/-- The value of a sequence of digits; nothing if one is not a digit of the base. -/
def digitsValue? (base : Nat) (t : Text) : Option Nat :=
  t.foldlM (fun n c => (digitValue? base c).map (base * n + ·)) 0

/-- The value of a part of an IPv4 address: hexadecimal after `0x`, octal after `0`, else
decimal. -/
def ipv4Number? (t : Text) : Option Nat :=
  match t with
  | [] => none
  | '0' :: 'x' :: r => digitsValue? 16 r
  | '0' :: 'X' :: r => digitsValue? 16 r
  | ['0'] => some 0
  | '0' :: r => digitsValue? 8 r
  | t => digitsValue? 10 t

/-! ### IPv4 -/

/-- The labels of a name without an empty one at the end. -/
def properLabels (name : Text) : List Text :=
  let all := Name.labels name
  if all.length > 1 && all.getLast? == some [] then all.dropLast else all

/-- Whether the last label of a name is a number, so that the name has to be an address. -/
def endsInNumber (name : Text) : Bool :=
  match (properLabels name).getLast? with
  | none => false
  | some last =>
    (!last.isEmpty && last.all Char.isDigit) || (ipv4Number? last).isSome

/-- The address of four parts or fewer, of which the last one fills what the others leave. -/
def ipv4? (name : Text) : Option Nat := do
  let parts := properLabels name
  if 4 < parts.length then none
  let numbers ← parts.mapM ipv4Number?
  let last ← numbers.getLast?
  let front := numbers.dropLast
  let room ← [0x100000000, 0x1000000, 0x10000, 0x100][front.length]?
  if front.any (255 < ·) || room ≤ last then none
  some ((front.zip [0x1000000, 0x10000, 0x100]).foldl (fun n (part, weight) => n + part * weight)
    last)

/-- An IPv4 address in dotted decimal. -/
def ipv4Text (n : Nat) : Text :=
  let parts := [n / 0x1000000 % 0x100, n / 0x10000 % 0x100, n / 0x100 % 0x100, n % 0x100]
  Text.joinWith ['.'] (parts.map fun part => Nat.toDigits 10 part)

/-! ### IPv6 -/

/-- One piece of an IPv6 address: one to four hexadecimal digits. -/
def ipv6Piece? (t : Text) : Option Nat :=
  if t.isEmpty || 4 < t.length then none else digitsValue? 16 t

/-- One part of a dotted address inside an IPv6 address: a number below 256 without a leading
zero. -/
def dottedPart? (t : Text) : Option Nat :=
  if t.isEmpty || 3 < t.length || (1 < t.length && t.head? == some '0') then none
  else (digitsValue? 10 t).filter (· < 256)

/-- The pieces of a sequence separated by colons, of which the last one may be a dotted
address. -/
def ipv6Pieces? : List Text → Option (List Nat)
  | [] => some []
  | [last] =>
    if last.contains '.' then do
      match ← (Name.labels last).mapM dottedPart? with
      | [a, b, c, d] => some [256 * a + b, 256 * c + d]
      | _ => none
    else (ipv6Piece? last).map ([·])
  | t :: ts => do
    let piece ← ipv6Piece? t
    let pieces ← ipv6Pieces? ts
    some (piece :: pieces)

/-- The pieces of a text separated by colons; the empty text has none. -/
def colonPieces? (t : Text) : Option (List Nat) :=
  if t.isEmpty then some []
  else match Text.cutAt ':' t with
    | (done, rest) => ipv6Pieces? (done ++ [rest])

/-- A text cut at the first double colon. -/
def cutAtDoubleColon : Text → Option (Text × Text)
  | ':' :: ':' :: r => some ([], r)
  | c :: r => (cutAtDoubleColon r).map fun (front, back) => (c :: front, back)
  | [] => none

/-- An IPv6 address, in which a double colon may stand for at least one piece of zero. -/
def ipv6? (t : Text) : Option (List Nat) :=
  match cutAtDoubleColon t with
  | none => (colonPieces? t).filter (·.length == 8)
  | some (front, back) => do
    if front.contains '.' then none
    let a ← colonPieces? front
    let b ← colonPieces? back
    if 8 ≤ a.length + b.length then none
    some (a ++ List.replicate (8 - a.length - b.length) 0 ++ b)

/-- The length of the run of zeros in front. -/
def zerosInFront (pieces : List Nat) : Nat := (pieces.takeWhile (· == 0)).length

/-- The start and the length of the first longest run of at least two zeros. -/
def longestZeros (pieces : List Nat) : Option (Nat × Nat) :=
  (List.range pieces.length).foldl
    (fun best i =>
      let n := zerosInFront (pieces.drop i)
      if n < 2 then best
      else match best with
        | none => some (i, n)
        | some (_, m) => if m < n then some (i, n) else best)
    none

/-- Pieces in hexadecimal, separated by colons. -/
def colonText (pieces : List Nat) : Text :=
  Text.joinWith [':'] (pieces.map fun n => Nat.toDigits 16 n)

/-- An IPv6 address in brackets, its first longest run of zeros as a double colon. -/
def ipv6Text (pieces : List Nat) : Text :=
  let inner := match longestZeros pieces with
    | none => colonText pieces
    | some (i, n) => colonText (pieces.take i) ++ [':', ':'] ++ colonText (pieces.drop (i + n))
  '[' :: inner ++ [']']

/-! ### Hosts -/

/-- Characters that no host can hold. -/
def forbidden : List Char := ['#', '/', ':', '<', '>', '?', '@', '[', '\\', ']', '^', '|', ' ']

/-- What stands between brackets. -/
def inBrackets? (t : Text) : Option Text :=
  match t with
  | '[' :: r => if r.getLast? == some ']' then some r.dropLast else none
  | _ => none

/-- The host of a special scheme. -/
def Host.parse? (t : Text) : Option Host := do
  if t.head? == some '[' then
    let inner ← inBrackets? t
    return .ipv6 (← ipv6? inner)
  let name ← Name.ascii? (← Text.decode? (decode t))
  if name.isEmpty || name.any (fun c => isControl c || c == '%' || forbidden.contains c) then none
  else if endsInNumber name then (ipv4? name).map .ipv4
  else some (.domain name)

/-- The host of a scheme that is not special. -/
def Host.parseRaw? (t : Text) : Option Host := do
  if t.head? == some '[' then
    let inner ← inBrackets? t
    return .ipv6 (← ipv6? inner)
  if t.any (fun c => c == '\x00' || forbidden.contains c) then none
  else some (.domain (encode [] t))

/-- The written form of a host. -/
def Host.text : Host → Text
  | .domain name => name
  | .ipv4 address => ipv4Text address
  | .ipv6 pieces => ipv6Text pieces

end SnippetServer.Uri
