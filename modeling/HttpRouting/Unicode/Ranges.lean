/-!
# Sets of code points as ranges

A Unicode property is tabulated as a list of inclusive ranges of code points in ascending order.
`Unicode.inRanges` decides membership and stops at the first range that starts above the code point.
A property with many values is tabulated as runs, which give the values of all code points in order.
Long tables are kept as texts.

## Main definitions

* `Unicode.Ranges`, `Unicode.inRanges`: sets of code points.
* `Unicode.Runs`, `Unicode.Runs.value?`: properties with values.
* `Unicode.Ranges.ofText`, `Unicode.Runs.ofText`: both from texts.
-/

namespace HttpRouting.Unicode

/-- Inclusive ranges of code points, ascending and disjoint. -/
abbrev Ranges := List (Nat × Nat)

/-- Whether a code point lies in one of the ranges. -/
def inRanges : Ranges → Nat → Bool
  | [], _ => false
  | (lo, hi) :: rest, n => if n < lo then false else n ≤ hi || inRanges rest n

/-- The number that hexadecimal digits stand for. -/
def hexNumber (digits : String) : Nat :=
  digits.toList.foldl (fun n c =>
    16 * n + if c.isDigit then c.toNat - '0'.toNat else c.toNat - 'A'.toNat + 10) 0

/-- Ranges from lines of text such as `41-5A 5F`. -/
def Ranges.ofText (lines : List String) : Ranges :=
  lines.flatMap fun line => (line.splitOn " ").map fun word =>
    match word.splitOn "-" with
    | [lo, hi] => (hexNumber lo, hexNumber hi)
    | _ => (hexNumber word, hexNumber word)

/-- The values of a property from code point 0 on, each with the number of code points in a row that
have it. -/
abbrev Runs := List (String × Nat)

namespace Runs

/-- Runs from lines of text such as `Cc*32 Zs Po*3`. -/
def ofText (lines : List String) : Runs :=
  lines.flatMap fun line => (line.splitOn " ").map fun word =>
    match word.splitOn "*" with
    | [value, count] => (value, count.toNat?.getD 1)
    | _ => (word, 1)

/-- The value for a code point. -/
def value? : Runs → Nat → Option String
  | [], _ => none
  | (value, count) :: rest, n => if n < count then some value else value? rest (n - count)

end Runs

end HttpRouting.Unicode
