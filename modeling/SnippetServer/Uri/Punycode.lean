import SnippetServer.Text.Basic

namespace SnippetServer.Uri.Punycode

/-!
# Punycode

The ASCII form of a host label with characters outside ASCII.  The ASCII characters come first.  The
others are inserted one after the other, by increasing code point and from left to right; for each
the form tells how many places a reader has to go on who tries every code point at every place.
These distances are written in base 36 with as many digits as they need, and the thresholds that end
a number follow the sizes met so far.  A reader starts with the ASCII characters and follows the
distances.

* `insertions` — the code points that are inserted, and where;
* `distances` — how far apart they are;
* `writeDistances` — their digits;
* `encode` — the ASCII form of a label, without the prefix that marks it;
* `Reading`, `readDigits` — the way of a reader;
* `decode?` — the label of an ASCII form.
-/

/-! ### Insertions -/

/-- The first code point that is not an ASCII character. -/
def firstForeign : Nat := 0x80

/-- The characters outside ASCII in `rest`, which follows the characters `before`: the code point
of each and the number of characters in front of it that are in place before it. -/
def occurrences (before : Text) : Text → List (Nat × Nat)
  | [] => []
  | c :: rest =>
    (if c.toNat < firstForeign then []
      else [(c.toNat, before.countP fun b => b.toNat ≤ c.toNat)]) ++
        occurrences (before ++ [c]) rest

/-- The code points that are inserted into the ASCII characters, and where, in order. -/
def insertions (label : Text) : List (Nat × Nat) :=
  (occurrences [] label).mergeSort fun a b => a.1 ≤ b.1

/-- The distances between insertions, the last of which left the reader at `next` when `placed`
characters were in place. -/
def distances (placed : Nat) (next : Nat × Nat) : List (Nat × Nat) → List Nat
  | [] => []
  | (point, place) :: rest =>
    ((point - next.1) * (placed + 1) + place - next.2) ::
      distances (placed + 1) (point, place + 1) rest

/-! ### Digits -/

/-- A digit of base 36. -/
def digit (d : Nat) : Char := if d < 26 then Char.ofNat (0x61 + d) else Char.ofNat (0x16 + d)

/-- The threshold at a place, between 1 and 26: a digit below it ends a number. -/
def threshold (place bias : Nat) : Nat := min 26 (max 1 (place - bias))

/-- The threshold is never zero, so every number has a last digit. -/
theorem one_le_threshold (place bias : Nat) : 1 ≤ threshold place bias := by
  unfold threshold; omega

/-- A number as digits, the least significant one first. -/
def number (bias place n : Nat) : Text :=
  let t := threshold place bias
  if n < t then [digit n]
  else digit (t + (n - t) % (36 - t)) :: number bias (place + 36) ((n - t) / (36 - t))
termination_by n
decreasing_by
  have := one_le_threshold place bias
  exact Nat.lt_of_le_of_lt (Nat.div_le_self _ _) (by omega)

/-- The bias for a distance that has been scaled down `steps` times. -/
def scaledBias (steps distance : Nat) : Nat :=
  if 455 < distance then scaledBias (steps + 1) (distance / 35)
  else 36 * steps + 36 * distance / (distance + 38)
termination_by distance
decreasing_by exact Nat.div_lt_self (by omega) (by decide)

/-- The bias behind a distance, when `placed` characters are in place.  The first distance is
mostly the way from ASCII to the script of the label and counts for little. -/
def biasAfter (isFirst : Bool) (distance placed : Nat) : Nat :=
  let damped := distance / (if isFirst then 700 else 2)
  scaledBias 0 (damped + damped / placed)

/-- The digits of distances. -/
def writeDistances (isFirst : Bool) (bias placed : Nat) : List Nat → Text
  | [] => []
  | d :: rest =>
    number bias 36 d ++
      writeDistances false (biasAfter isFirst d (placed + 1)) (placed + 1) rest

/-- The bias in front of the first distance. -/
def firstBias : Nat := 72

/-- The ASCII form of a label. -/
def encode (label : Text) : Text :=
  let ascii := label.filter fun c => c.toNat < firstForeign
  let found := distances ascii.length (firstForeign, 0) (insertions label)
  ascii ++ (if ascii.isEmpty then [] else ['-']) ++
    writeDistances true firstBias ascii.length found

/-! ### Reading -/

/-- The value of a digit of base 36, in lower case. -/
def digitValue? (c : Char) : Option Nat :=
  let n := c.toNat
  if 0x61 ≤ n ∧ n ≤ 0x7A then some (n - 0x61)
  else if 0x30 ≤ n ∧ n ≤ 0x39 then some (n - 0x16)
  else none

/-- A digit is read back as its value. -/
theorem digitValue?_digit {d : Nat} (h : d < 36) : digitValue? (digit d) = some d := by
  have all : ∀ e ∈ List.range 36, digitValue? (digit e) = some e := by decide
  exact all d (List.mem_range.2 h)

/-- How far a reader has come. -/
structure Reading where
  /-- The characters in place. -/
  label : Text
  /-- The code point and the place that are tried next. -/
  next : Nat × Nat
  /-- Whether no distance has been read. -/
  isFirst : Bool
  /-- The bias of the next number. -/
  bias : Nat

/-- What a reader starts with. -/
def Reading.start (ascii : Text) : Reading := ⟨ascii, (firstForeign, 0), true, firstBias⟩

/-- Readers do not count as far as this. -/
def countLimit : Nat := 0x100000000

/-- The reader goes on by a distance and puts a character there, if there is one with that code
point. -/
def Reading.advance? (r : Reading) (distance : Nat) : Option Reading :=
  let places := r.label.length + 1
  let tried := r.next.2 + distance
  let point := r.next.1 + tried / places
  let place := tried % places
  if point.isValidChar ∧ tried < countLimit then
    some
      { label := r.label.take place ++ Char.ofNat point :: r.label.drop place
        next := (point, place + 1)
        isFirst := false
        bias := biasAfter r.isFirst distance places }
  else none

/-- The reader follows digits.  Of the number that they start with, `read` has been read already,
and the next digit stands at `place` and has that `weight`. -/
def readDigits (r : Reading) (place weight read : Nat) : Text → Option Text
  | [] => if weight = 1 then some r.label else none
  | c :: rest =>
    match digitValue? c with
    | none => none
    | some d =>
      let t := threshold place r.bias
      if d < t then
        match r.advance? (read + d * weight) with
        | some next => readDigits next 36 1 0 rest
        | none => none
      else if weight * (36 - t) < countLimit then
        readDigits r (place + 36) (weight * (36 - t)) (read + d * weight) rest
      else none

/-- The label of an ASCII form in lower case.  The ASCII characters are those in front of the last
hyphen. -/
def decode? (form : Text) : Option Text :=
  let ascii := (dropTrailing (· != '-') form).dropLast
  readDigits (.start ascii) 36 1 0 (if ascii.isEmpty then form else trailingRun (· != '-') form)

end SnippetServer.Uri.Punycode
