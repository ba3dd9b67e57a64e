import HttpRouting.Unicode.Blank
import HttpRouting.Unicode.Property
/-!
# Escapes

What a backslash and the characters after it stand for. The same escapes serve inside and outside a
bracketed class. In verbose mode white space and comments may stand between the characters of an
escape that carries digits or a name.

## Main definitions

* `skipBlank`, `next`: the input without white space and comments, where they do not count.
* `Anchor`, `Shorthand`, `Atom`: what an escape can stand for.
* `Atom.escaped?`: reads the rest of an escape after its backslash.
-/

namespace HttpRouting.Regex

/-! ### White space and comments -/

/-- Drops white space and comments from the front; `inComment` tells that a comment is open. -/
def skipBlank (inComment : Bool) : List Char → List Char
  | [] => []
  | c :: cs =>
    if inComment then skipBlank (c != '\n') cs
    else if c == '#' then skipBlank true cs
    else if Unicode.isBlank c then skipBlank false cs
    else c :: cs

/-- Drops white space and comments from the front in verbose mode and nothing otherwise. -/
def advance (verbose : Bool) (cs : List Char) : List Char :=
  if verbose then skipBlank false cs else cs

/-- The next character that counts, with what follows it. -/
def next (verbose : Bool) (cs : List Char) : Option (Char × List Char) :=
  match advance verbose cs with
  | [] => none
  | c :: rest => some (c, rest)

theorem length_skipBlank_le (b : Bool) (cs : List Char) : (skipBlank b cs).length ≤ cs.length := by
  induction cs generalizing b with
  | nil => simp [skipBlank]
  | cons c cs ih =>
    rw [skipBlank]
    split
    · exact Nat.le_succ_of_le (ih _)
    · split
      · exact Nat.le_succ_of_le (ih _)
      · split
        · exact Nat.le_succ_of_le (ih _)
        · exact Nat.le_refl _

theorem length_advance_le (v : Bool) (cs : List Char) : (advance v cs).length ≤ cs.length := by
  cases v
  · exact Nat.le_refl _
  · exact length_skipBlank_le _ _

theorem length_lt_of_next {v : Bool} {cs rest : List Char} {c : Char}
    (h : next v cs = some (c, rest)) : rest.length < cs.length := by
  have hle := length_advance_le v cs
  unfold next at h
  split at h
  · simp at h
  · next d r hr =>
    rw [hr] at hle
    simp only [Option.some.injEq, Prod.mk.injEq] at h
    rw [← h.2]
    exact hle

/-! ### Numbers -/

/-- The value of a hexadecimal digit. -/
def hexValue? (c : Char) : Option Nat :=
  if '0' ≤ c ∧ c ≤ '9' then some (c.toNat - '0'.toNat)
  else if 'a' ≤ c ∧ c ≤ 'f' then some (c.toNat - 'a'.toNat + 10)
  else if 'A' ≤ c ∧ c ≤ 'F' then some (c.toNat - 'A'.toNat + 10)
  else none

/-- The number that a list of digits denotes, the most significant digit first. -/
def ofDigits (base : Nat) (ds : List Nat) : Nat :=
  ds.foldl (fun n d => n * base + d) 0

/-- Reads exactly `n` hexadecimal digits. -/
def hexDigits? (verbose : Bool) : Nat → List Char → Option (List Nat × List Char)
  | 0, cs => some ([], cs)
  | n + 1, cs => do
    let (c, rest) ← next verbose cs
    let d ← hexValue? c
    let (ds, rest) ← hexDigits? verbose n rest
    return (d :: ds, rest)

/-- Reads hexadecimal digits up to a closing brace. -/
def bracedHexDigits? (verbose : Bool) (cs : List Char) : Option (List Nat × List Char) :=
  match _h : next verbose cs with
  | none => none
  | some (c, rest) =>
    if c = '}' then some ([], rest)
    else do
      let d ← hexValue? c
      let (ds, rest) ← bracedHexDigits? verbose rest
      return (d :: ds, rest)
termination_by cs.length
decreasing_by exact length_lt_of_next ‹_›

/-- The character with a code point, if there is one. -/
def charOfCode? (n : Nat) : Option Char :=
  if n.isValidChar then some (Char.ofNat n) else none

/-! ### Meanings -/

/-- A part of a pattern that tests the current position. -/
inductive Anchor where
  /-- The start of the text, or of a line. -/
  | lineStart
  /-- The end of the text, or of a line. -/
  | lineEnd
  /-- The start of the text. -/
  | textStart
  /-- The end of the text. -/
  | textEnd
  /-- A position between a word character and something else. -/
  | wordBoundary
  /-- A position that is no word boundary. -/
  | notWordBoundary
  /-- A word boundary with the word after it. -/
  | wordStart
  /-- A word boundary with the word before it. -/
  | wordEnd
  /-- No word character stands before. -/
  | wordStartHalf
  /-- No word character stands after. -/
  | wordEndHalf
deriving DecidableEq, Repr

/-- A class of characters with a letter of its own. -/
inductive Shorthand where
  /-- Decimal digits. -/
  | digit
  /-- White space. -/
  | blank
  /-- Word characters. -/
  | word
deriving DecidableEq, Repr

/-- A part of a pattern that stands for one character or one position. -/
inductive Atom where
  /-- A given character. -/
  | char (c : Char)
  /-- A character given by two hexadecimal digits, which is a byte where characters of all scripts
  are not known. -/
  | byte (c : Char)
  /-- Any character. -/
  | dot
  /-- A test of the current position. -/
  | anchor (a : Anchor)
  /-- A class of characters, or its complement. -/
  | shorthand (s : Shorthand) (negated : Bool)
  /-- The characters with a property, or those without it. -/
  | property (p : Unicode.Property) (negated : Bool)
deriving DecidableEq, Repr

namespace Atom

/-- Reads the digits of a character code: a fixed number of them, or any number in braces. -/
def code? (verbose : Bool) (digits : Nat) (mk : Char → Atom) (cs : List Char) :
    Option (Atom × List Char) := do
  let (c, rest) ← next verbose cs
  if c = '{' then
    let (ds, rest) ← bracedHexDigits? verbose rest
    if ds.isEmpty then none
    else
      let c ← charOfCode? (ofDigits 16 ds)
      return (.char c, rest)
  else
    let (ds, rest) ← hexDigits? verbose digits cs
    let c ← charOfCode? (ofDigits 16 ds)
    return (mk c, rest)

/-- Whether a character may stand in the name of a word boundary. -/
def isBoundaryLetter (c : Char) : Bool := c.isAlpha || c == '-'

/-- Reads the name of a word boundary up to its closing brace. -/
def boundaryName? (verbose : Bool) (cs : List Char) : Option (List Char × List Char) :=
  match _h : next verbose cs with
  | none => none
  | some (c, rest) =>
    if c = '}' then some ([], rest)
    else if isBoundaryLetter c then do
      let (name, rest) ← boundaryName? verbose rest
      return (c :: name, rest)
    else none
termination_by cs.length
decreasing_by exact length_lt_of_next ‹_›

/-- The word boundary with a name. -/
def namedBoundary? (name : List Char) : Option Anchor :=
  if name = "start".toList then some .wordStart
  else if name = "end".toList then some .wordEnd
  else if name = "start-half".toList then some .wordStartHalf
  else if name = "end-half".toList then some .wordEndHalf
  else none

/-- Reads what follows `\b`: the name of a special boundary in braces, or nothing. Braces that start
with no letter of a name are left to be read as a repetition. -/
def boundary? (verbose : Bool) : List Char → Option (Atom × List Char)
  | '{' :: cs => do
    let (c, _) ← next verbose cs
    if isBoundaryLetter c then
      let (name, rest) ← boundaryName? verbose cs
      let a ← namedBoundary? name
      return (.anchor a, rest)
    else return (.anchor .wordBoundary, '{' :: cs)
  | cs => some (.anchor .wordBoundary, cs)

/-- Reads the text of a name up to its closing brace. -/
def bracedText? (verbose : Bool) (cs : List Char) : Option (List Char × List Char) :=
  match _h : next verbose cs with
  | none => none
  | some (c, rest) =>
    if c = '}' then some ([], rest)
    else do
      let (text, rest) ← bracedText? verbose rest
      return (c :: text, rest)
termination_by cs.length
decreasing_by exact length_lt_of_next ‹_›

/-- The parts of a text before and after the first place where another text stands. -/
def splitAt? (mark : List Char) : List Char → Option (List Char × List Char)
  | [] => none
  | c :: cs =>
    if mark.isPrefixOf (c :: cs) then some ([], (c :: cs).drop mark.length)
    else (splitAt? mark cs).map fun (before, after) => (c :: before, after)

/-- The property that a text in braces names, and whether it is negated. A value follows its kind
after a colon or an equals sign, which may be that of an inequality. -/
def propertyName (text : List Char) : Unicode.PropertyName × Bool :=
  match splitAt? ['!', '='] text with
  | some (kind, value) => (.valued kind value, true)
  | none =>
    match (splitAt? [':'] text).or (splitAt? ['='] text) with
    | some (kind, value) => (.valued kind value, false)
    | none => (.plain text, false)

/-- The text of the name of a property: one letter, or what stands in braces. -/
def propertyText? (verbose : Bool) (cs : List Char) : Option (List Char × List Char) := do
  let (c, rest) ← next verbose cs
  if c = '{' then bracedText? verbose rest else return ([c], rest)

/-- The characters with the property that a text names, or those without it. -/
def ofPropertyText? (negated : Bool) (text : List Char) : Option Atom :=
  let (name, unequal) := propertyName text
  name.find?.map fun p => .property p (negated != unequal)

/-- Reads the name of a property. -/
def property? (verbose negated : Bool) (cs : List Char) : Option (Atom × List Char) := do
  let (text, rest) ← propertyText? verbose cs
  let a ← ofPropertyText? negated text
  return (a, rest)

/-- Whether a backslash before a character makes it stand for itself. -/
def isEscapable (c : Char) : Bool :=
  c.toNat < 128 && !c.isAlphanum && c != '<' && c != '>'

/-- Reads the rest of an escape after its backslash. -/
def escaped? (verbose : Bool) : List Char → Option (Atom × List Char)
  | [] => none
  | c :: cs =>
    match c with
    | 'x' => code? verbose 2 .byte cs
    | 'u' => code? verbose 4 .char cs
    | 'U' => code? verbose 8 .char cs
    | 'd' => some (.shorthand .digit false, cs)
    | 'D' => some (.shorthand .digit true, cs)
    | 's' => some (.shorthand .blank false, cs)
    | 'S' => some (.shorthand .blank true, cs)
    | 'w' => some (.shorthand .word false, cs)
    | 'W' => some (.shorthand .word true, cs)
    | 'p' => property? verbose false cs
    | 'P' => property? verbose true cs
    | 'a' => some (.char '\x07', cs)
    | 'f' => some (.char '\x0c', cs)
    | 't' => some (.char '\t', cs)
    | 'n' => some (.char '\n', cs)
    | 'r' => some (.char '\r', cs)
    | 'v' => some (.char '\x0b', cs)
    | 'A' => some (.anchor .textStart, cs)
    | 'z' => some (.anchor .textEnd, cs)
    | 'b' => boundary? verbose cs
    | 'B' => some (.anchor .notWordBoundary, cs)
    | '<' => some (.anchor .wordStart, cs)
    | '>' => some (.anchor .wordEnd, cs)
    | c => if isEscapable c then some (.char c, cs) else none

end Atom

end HttpRouting.Regex
