namespace SnippetServer

/-!
# Doubles

Binary floating-point numbers with 53 bits of precision, in exact arithmetic.  What is worked out
with them is rounded to the nearest one, to the even one of two that are equally near.

* `Double` — a finite number;
* `Double.ofRatio?` — the number nearest to a fraction;
* `Double.mul?`, `Double.div?` — product and quotient;
* `Double.ofDecimal?` — the number that a decimal fraction is read as.
-/

/-- A number that is `mantissa` times 2 to the power of `exponent`, or the negative of that.  The
mantissa has 53 bits, or fewer if the exponent is the smallest one. -/
structure Double where
  /-- Whether the number has a minus sign. -/
  isNegative : Bool
  /-- The mantissa. -/
  mantissa : Nat
  /-- The power of two. -/
  exponent : Int
  deriving DecidableEq, Repr

namespace Double

/-- The least number of 53 bits. -/
def leastFull : Nat := 1 <<< 52

/-- The smallest exponent. -/
def leastExponent : Int := -1074

/-- The largest exponent. -/
def largestExponent : Int := 971

/-- The number zero, with a minus sign if so told. -/
def zero (isNegative : Bool) : Double := ⟨isNegative, 0, leastExponent⟩

/-- A fraction divided by a power of two, as numerator and denominator. -/
def scaled (numerator denominator : Nat) (power : Int) : Nat × Nat :=
  (numerator <<< (-power).toNat, denominator <<< power.toNat)

/-- The whole number nearest to a fraction, of two the even one. -/
def nearest (numerator denominator : Nat) : Nat :=
  let floor := numerator / denominator
  let rest := 2 * (numerator % denominator)
  if rest < denominator then floor
  else if denominator < rest then floor + 1
  else floor + floor % 2

/-- The power of two by which a fraction is divided to get a mantissa. -/
def exponentFor (numerator denominator : Nat) : Int :=
  let guess : Int := numerator.log2 - denominator.log2
  let (n, d) := scaled numerator denominator guess
  max leastExponent ((if n < d then guess - 1 else guess) - 52)

/-- The number nearest to a fraction with a positive denominator, unless it is too large. -/
def ofRatio? (isNegative : Bool) (numerator denominator : Nat) : Option Double :=
  if numerator = 0 then some (zero isNegative)
  else
    let exponent := exponentFor numerator denominator
    let (n, d) := scaled numerator denominator exponent
    let mantissa := nearest n d
    let carries := mantissa = 2 * leastFull
    let exponent := if carries then exponent + 1 else exponent
    if largestExponent < exponent then none
    else some ⟨isNegative, if carries then leastFull else mantissa, exponent⟩

/-- The product of two numbers, with the sign of the first one. -/
def mul? (a b : Double) : Option Double :=
  let (n, d) := scaled (a.mantissa * b.mantissa) 1 (-(a.exponent + b.exponent))
  ofRatio? a.isNegative n d

/-- The quotient of two numbers, with the sign of the first one. -/
def div? (a b : Double) : Option Double :=
  let (n, d) := scaled a.mantissa b.mantissa (b.exponent - a.exponent)
  ofRatio? a.isNegative n d

/-! ### Decimal fractions -/

/-- The largest power of ten that is a factor by itself. -/
def largestPower : Nat := 308

/-- A power of ten. -/
def powerOfTen? (power : Nat) : Option Double := ofRatio? false (Nat.pow 10 power) 1

/-- A number divided by a power of ten, which is taken apart into powers that are factors. -/
def divPowerOfTen? (a : Double) (power : Nat) : Option Double :=
  if a.mantissa = 0 then some a
  else if power ≤ largestPower then do a.div? (← powerOfTen? power)
  else do divPowerOfTen? (← a.div? (← powerOfTen? largestPower)) (power - largestPower)
termination_by power
decreasing_by simp only [largestPower] at *; omega

/-- The number that a whole number times a power of ten is read as.  Whole number and power are
rounded first, and then what they give together; a number that is too large is not read. -/
def ofDecimal? (isNegative : Bool) (whole : Nat) : (power : Int) → Option Double
  | .ofNat power => do
    let a ← ofRatio? isNegative whole 1
    if a.mantissa = 0 then some a
    else if power ≤ largestPower then a.mul? (← powerOfTen? power)
    else none
  | .negSucc power => do divPowerOfTen? (← ofRatio? isNegative whole 1) (power + 1)

end Double

end SnippetServer
