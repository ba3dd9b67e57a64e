import HttpRouting.Regex.CharSet
/-!
# Regular expressions

The tree of a regular expression after all flags have been applied: characters, assertions about the
current position, capturing groups, sequence, prioritised choice and iteration. Counted repetition
is unfolded into these, each copy being a part of its own.

## Main definitions

* `Assertion` and `Assertion.holds`: tests that consume nothing.
* `Regex`: the tree.
* `Regex.repeated`: a repetition with bounds, as sequence, choice and iteration.
* `Regex.groupCount`: the number of capturing groups that a match reports.
-/

namespace HttpRouting.Regex

/-- A test of the current position that consumes nothing. -/
inductive Assertion where
  /-- The start of the text. -/
  | textStart
  /-- The end of the text. -/
  | textEnd
  /-- The start of a line. -/
  | lineStart
  /-- The end of a line. -/
  | lineEnd
  /-- The start of a line, where a carriage return ends lines too. -/
  | lineStartCrlf
  /-- The end of a line, where a carriage return ends lines too. -/
  | lineEndCrlf
  /-- A position between a word character and something else. -/
  | wordBoundary (unicode : Bool)
  /-- A position that is no word boundary. -/
  | notWordBoundary (unicode : Bool)
  /-- A word boundary with the word after it. -/
  | wordStart (unicode : Bool)
  /-- A word boundary with the word before it. -/
  | wordEnd (unicode : Bool)
  /-- No word character stands before. -/
  | wordStartHalf (unicode : Bool)
  /-- No word character stands after. -/
  | wordEndHalf (unicode : Bool)
deriving DecidableEq, Repr

namespace Assertion

/-- Whether a neighbour of the position exists and is a word character. -/
def wordAt (unicode : Bool) (c : Option Char) : Bool :=
  c.any fun c => if unicode then Unicode.isWord c else CharSet.asciiWord.contains c

/-- Whether the assertion holds between two neighbouring characters, absent at the ends. -/
def holds (before after : Option Char) : Assertion → Bool
  | textStart => before.isNone
  | textEnd => after.isNone
  | lineStart => before.isNone || before == some '\n'
  | lineEnd => after.isNone || after == some '\n'
  | lineStartCrlf =>
    before.isNone || before == some '\n' || (before == some '\r' && after != some '\n')
  | lineEndCrlf =>
    after.isNone || after == some '\r' || (after == some '\n' && before != some '\r')
  | wordBoundary u => wordAt u before != wordAt u after
  | notWordBoundary u => wordAt u before == wordAt u after
  | wordStart u => !wordAt u before && wordAt u after
  | wordEnd u => wordAt u before && !wordAt u after
  | wordStartHalf u => !wordAt u before
  | wordEndHalf u => !wordAt u after

end Assertion

end HttpRouting.Regex

namespace HttpRouting

open Regex in
/-- A regular expression. -/
inductive Regex where
  /-- Matches the empty text. -/
  | empty
  /-- Matches one character of a set. -/
  | chars (s : CharSet)
  /-- Matches the empty text where an assertion holds. -/
  | look (a : Assertion)
  /-- Matches what its part matches and records it as capture `i`. -/
  | group (i : Nat) (r : Regex)
  /-- Matches two parts one after the other. -/
  | cat (r s : Regex)
  /-- Matches one of two parts, the first by preference. -/
  | alt (r s : Regex)
  /-- Matches any number of rounds of its part, many by preference if `greedy`, few otherwise. -/
  | star (greedy : Bool) (r : Regex)
deriving DecidableEq, Repr

namespace Regex

/-- The expression for one given character. -/
def char (c : Char) : Regex := chars (.single c)

/-- Sequence, where the empty expression leaves the other part as it is. -/
def append : Regex → Regex → Regex
  | empty, s => s
  | r, empty => r
  | r, s => cat r s

/-- The sequence of a list of parts. -/
def concat (rs : List Regex) : Regex := rs.foldr append empty

/-- The choice between the parts of a list, earlier ones by preference. -/
def choice : List Regex → Regex
  | [] => empty
  | [r] => r
  | r :: rs => alt r (choice rs)

/-- A part that may be left out: present by preference if `greedy`, absent otherwise. -/
def optional (greedy : Bool) (r : Regex) : Regex :=
  if greedy then alt r empty else alt empty r

/-- Whether the expression can match the empty text, assertions taken to hold. -/
def nullable : Regex → Bool
  | empty | look _ | star _ _ => true
  | chars _ => false
  | group _ r => r.nullable
  | cat r s => r.nullable && s.nullable
  | alt r s => r.nullable || s.nullable

/-- Whether the expression can match nothing but the empty text. -/
def zeroWidth : Regex → Bool
  | empty | look _ => true
  | chars _ | star _ _ => false
  | group _ r => r.zeroWidth
  | cat r s | alt r s => r.zeroWidth && s.zeroWidth

/-- The number of capturing groups: the highest index that occurs. -/
def groupCount : Regex → Nat
  | empty | chars _ | look _ => 0
  | group i r => max i r.groupCount
  | cat r s | alt r s => max r.groupCount s.groupCount
  | star _ r => r.groupCount

/-! ### Repetition -/

/-- Exactly `n` copies of a part. -/
def times (r : Regex) : Nat → Regex
  | 0 => empty
  | n + 1 => append r (times r n)

/-- At most `n` copies of a part. -/
def upTo (greedy : Bool) (r : Regex) : Nat → Regex
  | 0 => empty
  | n + 1 => optional greedy (append r (upTo greedy r n))

/-- Any number of copies of a part. If the part can match the empty text, the first round is kept
apart from the later ones, which have to make progress. -/
def anyNumber (greedy : Bool) (r : Regex) : Regex :=
  if r.nullable then optional greedy (append r (star greedy r)) else star greedy r

/-- At least `n` copies of a part. -/
def atLeast (greedy : Bool) (r : Regex) : Nat → Regex
  | 0 => anyNumber greedy r
  | n + 1 => append (times r n) (append r (star greedy r))

/-- At least `min` and at most `max` copies of a part, without limit if `max` is absent. A part that
matches the empty text only is not repeated. -/
def repeated (greedy : Bool) (min : Nat) (max : Option Nat) (r : Regex) : Regex :=
  if r.zeroWidth then
    if max = some 0 then empty
    else if min = 0 then optional greedy r
    else r
  else match max with
    | none => atLeast greedy r min
    | some n => append (times r min) (upTo greedy r (n - min))

end Regex

end HttpRouting
