import HttpRouting.Regex.Basic
/-!
# Limits on size

An engine refuses a pattern whose compiled form needs too much memory. How much it needs is not a
matter of the pattern language, so it is idealized here, and nowhere else. What makes an expression
much larger than its text is a counted repetition, of which every copy is compiled. So the limit is
put on each counted repetition by itself: its copies may not need more than ten mebibytes, by an
estimate that takes 32 bytes for a part and 64 bytes for a range of characters. The size of a whole
expression and the depth of its groups are not limited.

## Main definitions

* `Regex.weight`: the estimate for an expression.
* `Regex.repeated?`: a repetition within the limit.
-/

namespace HttpRouting.Regex

/-- The memory that a set of characters is taken to need, in bytes. A property is counted as one
range where its table is not a list of ranges. -/
def CharSet.weight : CharSet → Nat
  | .never => 32
  | .range lo hi => if lo = hi then 32 * lo.utf8Size else 64
  | .word => 64 * Unicode.wordRanges.length
  | .digit => 64 * Unicode.digitRanges.length
  | .blank => 64 * Unicode.blankRanges.length
  | .property _ => 64
  | .compl a => a.weight + 64
  | .union a b => a.weight + b.weight
  | .inter a b => max a.weight b.weight
  | .caseClosure a => 2 * a.weight
  | .asciiCaseClosure a => 2 * a.weight

/-- The memory that the parts of an expression are taken to need, in bytes. -/
def weight : Regex → Nat
  | empty | look _ => 32
  | chars s => s.weight
  | group _ r => 64 + r.weight
  | cat r s => r.weight + s.weight
  | alt r s => 64 + r.weight + s.weight
  | star _ r => 32 + r.weight

/-- The most memory that the copies of a repeated part may need, in bytes. -/
def maxWeight : Nat := 10485760

/-- A repetition with bounds, refused if its copies would need too much memory. -/
def repeated? (greedy : Bool) (min : Nat) (max : Option Nat) (r : Regex) : Option Regex :=
  if r.zeroWidth ∨ max.getD min * r.weight ≤ maxWeight then some (repeated greedy min max r)
  else none

end HttpRouting.Regex
