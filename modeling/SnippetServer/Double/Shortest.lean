import SnippetServer.Double.Basic
import SnippetServer.Text.Basic

namespace SnippetServer.Double

/-!
# The shortest decimal form

A number is written with as few digits as read back as that number, and of those with the nearest.

* `readsBack` — whether a decimal fraction lies nearer to a number than to its neighbours;
* `shortest` — the digits of a number and their power of ten;
* `text` — the written form.
-/

/-- A number of 10 to the power of `power` as numerator and denominator. -/
def decimal (digits : Nat) (power : Int) : Nat × Nat :=
  (digits * Nat.pow 10 power.toNat, Nat.pow 10 (-power).toNat)

/-- The magnitude of a number as numerator and denominator. -/
def magnitude (a : Double) : Nat × Nat := scaled a.mantissa 1 (-a.exponent)

/-- Whether a decimal fraction is read as the magnitude of a number: it lies between the middles to
its neighbours, or on one of them if the mantissa is even.  Below a power of two neighbours are half
as far away. -/
def readsBack (a : Double) (digits : Nat) (power : Int) : Bool :=
  let halvesBelow := a.mantissa = leastFull && leastExponent < a.exponent
  let (n, d) := decimal digits power
  let (low, e) := scaled (4 * a.mantissa - (if halvesBelow then 1 else 2)) 4 (-a.exponent)
  let (high, _) := scaled (4 * a.mantissa + 2) 4 (-a.exponent)
  if a.mantissa % 2 = 0 then low * d ≤ n * e && n * e ≤ high * d
  else low * d < n * e && n * e < high * d

/-- The power of ten of the first digit of a positive fraction. -/
def firstPower (numerator denominator : Nat) : Int :=
  if denominator ≤ numerator then (Nat.toDigits 10 (numerator / denominator)).length - 1
  else -(Nat.toDigits 10 ((denominator - 1) / numerator)).length

/-- The fraction of so many digits that is read as a number and lies nearest to it, if there is one.
Only the two around the number come into question. -/
def withDigits? (a : Double) (count : Nat) : Option (Nat × Int) :=
  let (n, d) := a.magnitude
  let power := firstPower n d - (count - 1 : Nat)
  let (unit, parts) := decimal 1 power
  let (numerator, denominator) := (n * parts, d * unit)
  let floor := numerator / denominator
  let near := nearest numerator denominator
  let far := if near = floor then floor + 1 else floor
  if a.readsBack near power then some (near, power)
  else if a.readsBack far power then some (far, power)
  else none

/-- The digits of a positive number and the power of ten of the last one.  Seventeen are always
enough. -/
def shortest (a : Double) : Nat × Int :=
  ((List.range 17).findSome? fun i => a.withDigits? (i + 1)).getD (0, 0)

/-- The digits of a number without zeros at the end, and the power of ten of the last one. -/
def digitsAndPower (a : Double) : Text × Int :=
  let (whole, power) := a.shortest
  let digits := Nat.toDigits 10 whole
  let kept := dropTrailing (· == '0') digits
  (kept, power + (digits.length - kept.length : Nat))

/-- The written form of a positive number.  It is positional if its first digit stands at a place
between the fifth behind the point and the sixteenth in front of it, and has a power of ten
otherwise. -/
def positiveText (a : Double) : Text :=
  let (digits, power) := a.digitsAndPower
  let place := power + digits.length - 1
  if place < -5 ∨ 16 ≤ place then
    digits.take 1 ++ (if digits.length = 1 then [] else '.' :: digits.drop 1) ++
      ['e', if place < 0 then '-' else '+'] ++ Nat.toDigits 10 place.natAbs
  else if place < 0 then '0' :: '.' :: List.replicate (-place - 1).toNat '0' ++ digits
  else if 0 ≤ power then digits ++ List.replicate power.toNat '0' ++ ['.', '0']
  else digits.take (place + 1).toNat ++ '.' :: digits.drop (place + 1).toNat

/-- The written form of a number. -/
def text (a : Double) : Text :=
  (if a.isNegative then ['-'] else []) ++
    (if a.mantissa = 0 then ['0', '.', '0'] else a.positiveText)

end SnippetServer.Double
