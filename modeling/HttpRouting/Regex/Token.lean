import HttpRouting.Regex.Bracket
import HttpRouting.Unicode.Letter
/-!
# Tokens of a pattern

A pattern is read as a list of lexemes: tokens together with the text that each was read from. A
bracketed class is one token. Whether white space and comments count depends on the groups that are
open, so the verbose flag of every open group is kept while reading.

## Main definitions

* `Token`, `Lexeme`: the pieces of a pattern.
* `Token.read?`: the first token of some text.
* `lexemes?`: all lexemes of a pattern.
-/

namespace HttpRouting.Regex

/-- What an opening parenthesis starts. -/
inductive GroupStart where
  /-- A group that captures, with its name if it has one. -/
  | capturing (name : Option String)
  /-- A group that sets flags for its contents and does not capture. -/
  | plain (edits : List FlagEdit)
deriving DecidableEq, Repr

/-- A token of a pattern. -/
inductive Token where
  /-- A character, class or assertion. -/
  | atom (a : Atom)
  /-- A bracketed class. -/
  | bracket (b : Bracket)
  /-- The start of a group. -/
  | openGroup (g : GroupStart)
  /-- The end of a group. -/
  | closeGroup
  /-- A change of flags for the rest of the group. -/
  | setFlags (edits : List FlagEdit)
  /-- The bar between two alternatives. -/
  | bar
  /-- A repetition of what stands before it. -/
  | times (min : Nat) (max : Option Nat) (marked : Bool)
  /-- White space and comments that do not count. -/
  | ignored
deriving DecidableEq, Repr

/-- A token with the text that it was read from. -/
structure Lexeme where
  /-- The token. -/
  token : Token
  /-- The text. -/
  text : List Char
deriving DecidableEq, Repr

namespace Token

/-! ### Groups -/

/-- Whether a group may have the given name. -/
def isGroupName : List Char → Bool
  | [] => false
  | c :: cs =>
    (c == '_' || Unicode.isAlphabetic c) &&
      cs.all fun c => c == '_' || c == '.' || c == '[' || c == ']' || Unicode.isAlphanumeric c

/-- Reads the name of a group and the angle bracket after it. -/
def groupName? (cs : List Char) : Option (Token × List Char) :=
  let name := cs.takeWhile (· != '>')
  match cs.dropWhile (· != '>') with
  | _ :: rest =>
    if isGroupName name then some (.openGroup (.capturing (some (String.ofList name))), rest)
    else none
  | [] => none

/-- Reads flags up to the parenthesis that closes them or the colon that starts a group. -/
def flags? (cs : List Char) : Option (Token × List Char) := do
  let letters := cs.takeWhile fun c => c != ':' && c != ')'
  let edits ← FlagEdit.parse? letters
  match cs.dropWhile fun c => c != ':' && c != ')' with
  | ':' :: rest => return (.openGroup (.plain edits), rest)
  | ')' :: rest => if letters.isEmpty then none else return (.setFlags edits, rest)
  | _ => none

/-- Reads the start of a group after its parenthesis. -/
def group? (verbose : Bool) (cs : List Char) : Option (Token × List Char) :=
  match advance verbose cs with
  | '?' :: 'P' :: '<' :: rest => groupName? rest
  | '?' :: '<' :: rest => groupName? rest
  | '?' :: rest => flags? rest
  | rest => some (.openGroup (.capturing none), rest)

/-! ### Repetitions -/

/-- A repetition with the question mark that may follow it. -/
def marked (min : Nat) (max : Option Nat) : List Char → Token × List Char
  | '?' :: rest => (.times min max true, rest)
  | rest => (.times min max false, rest)

/-- Drops white space around a count. -/
def trimBlank (verbose : Bool) (cs : List Char) : List Char :=
  if verbose then skipBlank false cs else cs.dropWhile Unicode.isBlank

/-- Reads decimal digits. -/
def digits (verbose : Bool) (cs : List Char) : List Nat × List Char :=
  match _h : next verbose cs with
  | none => ([], cs)
  | some (c, rest) =>
    if c.isDigit then
      let (ds, rest) := digits verbose rest
      ((c.toNat - '0'.toNat) :: ds, rest)
    else ([], cs)
termination_by cs.length
decreasing_by exact length_lt_of_next ‹_›

/-- Reads a count and the white space around it; it has to fit 32 bits. -/
def count? (verbose : Bool) (cs : List Char) : Option (Nat × List Char) :=
  let (ds, rest) := digits verbose (trimBlank verbose cs)
  let n := ofDigits 10 ds
  if ds.isEmpty ∨ UInt32.size ≤ n then none else some (n, trimBlank verbose rest)

/-- Reads the bounds of a counted repetition after its opening brace. -/
def bounds? (verbose : Bool) (cs : List Char) : Option (Token × List Char) := do
  let (n, rest) ← count? verbose (advance verbose cs)
  let (m, rest) ← match rest with
    | ',' :: rest =>
      match advance verbose rest with
      | '}' :: rest => pure (none, '}' :: rest)
      | rest => do
        let (m, rest) ← count? verbose rest
        pure (some m, rest)
    | rest => pure (some n, rest)
  match rest with
  | '}' :: rest => if n ≤ m.getD n then return marked n m (advance verbose rest) else none
  | _ => none

/-! ### Tokens -/

/-- Reads the first token of some text. -/
def read? (verbose : Bool) : List Char → Option (Token × List Char)
  | [] => none
  | c :: cs =>
    if verbose && (c == '#' || Unicode.isBlank c) then some (.ignored, skipBlank false (c :: cs))
    else match c with
      | '\\' => do
        let (a, rest) ← Atom.escaped? verbose cs
        return (.atom a, rest)
      | '.' => some (.atom .dot, cs)
      | '^' => some (.atom (.anchor .lineStart), cs)
      | '$' => some (.atom (.anchor .lineEnd), cs)
      | '[' => do
        let (b, rest) ← Bracket.read? verbose cs
        return (.bracket b, rest)
      | '(' => group? verbose cs
      | ')' => some (.closeGroup, cs)
      | '|' => some (.bar, cs)
      | '?' => some (marked 0 (some 1) cs)
      | '*' => some (marked 0 none cs)
      | '+' => some (marked 1 none cs)
      | '{' => bounds? verbose cs
      | c => some (.atom (.char c), cs)

/-- The verbose flag after some edits. -/
def verboseAfter (verbose : Bool) (edits : List FlagEdit) : Bool :=
  ((Flags.setAll { verbose } edits).verbose)

/-- The verbose flags in force and of the open groups after a token. -/
def scope (verbose : Bool) (outer : List Bool) : Token → Bool × List Bool
  | openGroup (.plain edits) => (verboseAfter verbose edits, verbose :: outer)
  | openGroup (.capturing _) => (verbose, verbose :: outer)
  | setFlags edits => (verboseAfter verbose edits, outer)
  | closeGroup => (outer.headD verbose, outer.tail)
  | _ => (verbose, outer)

end Token

/-- Reads all lexemes, given the verbose flags in force and of the open groups. -/
def lexemesFrom? (verbose : Bool) (outer : List Bool) (cs : List Char) : Option (List Lexeme) :=
  if cs.isEmpty then some []
  else match Token.read? verbose cs with
    | none => none
    | some (t, rest) =>
      if rest.length < cs.length then do
        let (verbose, outer) := t.scope verbose outer
        let ls ← lexemesFrom? verbose outer rest
        return ⟨t, cs.take (cs.length - rest.length)⟩ :: ls
      else none
termination_by cs.length

/-- Reads all lexemes of a pattern. -/
def lexemes? (source : List Char) : Option (List Lexeme) :=
  lexemesFrom? false [] source

end HttpRouting.Regex
