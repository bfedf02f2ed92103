namespace SnippetServer.Text

/-!
# Sets of characters given by ranges

The properties of the Unicode Character Database come as tables of ranges in increasing order.

* `inRanges n rows` — whether a code point lies in one of the ranges;
* `lookUp n rows` — the target of a code point in a table of runs, each of which maps its members,
  a fixed step apart, to as many targets the same step apart;
* `pairs`, `triples`, `quadruples`, `headed` — the rows of a table that is written as text: rows are
  separated by blanks, and the numbers of a row, in hexadecimal, by points.
-/

/-! ### Looking up -/

/-- Whether `n` lies in one of the ranges `(lo, hi)`, which are in increasing order. -/
def inRanges (n : Nat) : List (Nat × Nat) → Bool
  | [] => false
  | (lo, hi) :: rows => if n < lo then false else if n ≤ hi then true else inRanges n rows

/-- The target of `n` among the runs `(lo, hi, step, target)`, which are in increasing order: `lo`
goes to `target`, `lo + step` to `target + step`, and so on up to `hi`. -/
def lookUp (n : Nat) : List (Nat × Nat × Nat × Nat) → Option Nat
  | [] => none
  | (lo, hi, step, target) :: rows =>
    if n < lo then none
    else if n ≤ hi ∧ (n - lo) % step = 0 then some (target + (n - lo))
    else lookUp n rows

/-! ### Tables written as text -/

/-- The value of a number in upper-case hexadecimal. -/
def hexNumber (digits : String) : Nat :=
  digits.foldl (fun n c => 16 * n + (c.toNat - (if c.isDigit then 0x30 else 0x37))) 0

/-- The rows of a table. -/
def rows (table : String) : List (List Nat) :=
  (((table.splitOn "\n").flatMap fun line => line.splitOn " ").filter (!·.isEmpty)).map fun row =>
    (row.splitOn ".").map hexNumber

/-- The rows with two numbers. -/
def pairs (table : String) : List (Nat × Nat) :=
  (rows table).filterMap fun
    | [a, b] => some (a, b)
    | _ => none

/-- The rows with three numbers. -/
def triples (table : String) : List (Nat × Nat × Nat) :=
  (rows table).filterMap fun
    | [a, b, c] => some (a, b, c)
    | _ => none

/-- The rows with four numbers. -/
def quadruples (table : String) : List (Nat × Nat × Nat × Nat) :=
  (rows table).filterMap fun
    | [a, b, c, d] => some (a, b, c, d)
    | _ => none

/-- The first number of every row with the numbers behind it. -/
def headed (table : String) : List (Nat × List Nat) :=
  (rows table).filterMap fun
    | a :: rest => some (a, rest)
    | [] => none

end SnippetServer.Text
