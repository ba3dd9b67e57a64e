import HttpRouting.Regex.CharSet
import HttpRouting.Regex.Escape
import HttpRouting.Regex.Flags
/-!
# Bracketed classes

A bracketed class lists characters, ranges and named classes, may be negated and nested, and
combines lists by intersection, difference and symmetric difference. Reading it gives a `Bracket`;
the flags in force then decide which set of characters it denotes.

## Main definitions

* `Posix`: the named classes of ASCII characters.
* `Bracket`: the tree of a bracketed class.
* `Bracket.read?`: reads a class after its opening bracket.
* `Bracket.toSet?`: the set of characters, absent if it would need bytes beyond ASCII.
-/

namespace HttpRouting.Regex

/-- A named class of ASCII characters. -/
inductive Posix where
  /-- Letters and digits. -/
  | alnum
  /-- Letters. -/
  | alpha
  /-- All ASCII characters. -/
  | ascii
  /-- Space and tab. -/
  | blank
  /-- Control characters. -/
  | cntrl
  /-- Decimal digits. -/
  | digit
  /-- Visible characters. -/
  | graph
  /-- Small letters. -/
  | lower
  /-- Visible characters and the space. -/
  | print
  /-- Punctuation. -/
  | punct
  /-- White space. -/
  | space
  /-- Capital letters. -/
  | upper
  /-- Letters, digits and the underscore. -/
  | word
  /-- Hexadecimal digits. -/
  | xdigit
deriving DecidableEq, Repr

namespace Posix

/-- The class with a name. -/
def ofName? (name : List Char) : Option Posix :=
  [("alnum", alnum), ("alpha", alpha), ("ascii", ascii), ("blank", blank), ("cntrl", cntrl),
    ("digit", digit), ("graph", graph), ("lower", lower), ("print", print), ("punct", punct),
    ("space", space), ("upper", upper), ("word", word), ("xdigit", xdigit)].findSome?
      fun (n, k) => if n.toList = name then some k else none

open CharSet in
/-- The members of the class. -/
def toSet : Posix → CharSet
  | alnum => union (range '0' '9') (union (range 'A' 'Z') (range 'a' 'z'))
  | alpha => union (range 'A' 'Z') (range 'a' 'z')
  | ascii => range '\x00' '\x7f'
  | blank => union (single '\t') (single ' ')
  | cntrl => union (range '\x00' '\x1f') (single '\x7f')
  | digit => range '0' '9'
  | graph => range '!' '~'
  | lower => range 'a' 'z'
  | print => range ' ' '~'
  | punct =>
    union (range '!' '/') (union (range ':' '@') (union (range '[' '\x60') (range '\x7b' '~')))
  | space => asciiBlank
  | upper => range 'A' 'Z'
  | word => asciiWord
  | xdigit => union (range '0' '9') (union (range 'A' 'F') (range 'a' 'f'))

/-- Reads a named class after its opening bracket: a colon, a caret if it is negated, the name, a
colon and the closing bracket. -/
def read? : List Char → Option ((Posix × Bool) × List Char)
  | ':' :: cs =>
    let negated := cs.head? == some '^'
    let cs := if negated then cs.tail else cs
    match cs.dropWhile (· != ':') with
    | ':' :: ']' :: rest => do
      let k ← ofName? (cs.takeWhile (· != ':'))
      return ((k, negated), rest)
    | _ => none
  | _ => none

end Posix

/-- How two lists of a bracketed class are combined. -/
inductive SetOp where
  /-- The common members. -/
  | inter
  /-- The members of the first outside the second. -/
  | diff
  /-- The members of exactly one. -/
  | symmDiff
deriving DecidableEq, Repr

namespace SetOp

/-- The operator that starts with a character, with what follows it. -/
def read? (c : Char) : List Char → Option (SetOp × List Char)
  | d :: rest =>
    if c ≠ d then none
    else if c = '&' then some (inter, rest)
    else if c = '-' then some (diff, rest)
    else if c = '~' then some (symmDiff, rest)
    else none
  | [] => none

/-- The operation on sets. -/
def apply : SetOp → CharSet → CharSet → CharSet
  | inter, a, b => .inter a b
  | diff, a, b => .diff a b
  | symmDiff, a, b => .symmDiff a b

end SetOp

/-- The tree of a bracketed class. -/
inductive Bracket where
  /-- No item. -/
  | nothing
  /-- The characters from `lo` to `hi`. -/
  | range (lo hi : Char)
  /-- A named class of ASCII characters, or its complement. -/
  | posix (k : Posix) (negated : Bool)
  /-- A class with a letter of its own, or its complement. -/
  | shorthand (s : Shorthand) (negated : Bool)
  /-- The characters with a property, or those without it. -/
  | property (p : Unicode.Property) (negated : Bool)
  /-- The items of two lists. -/
  | union (a b : Bracket)
  /-- Two lists combined by an operator. -/
  | op (o : SetOp) (a b : Bracket)
  /-- A class in brackets. -/
  | nested (negated : Bool) (a : Bracket)
deriving DecidableEq, Repr

/-- The members of a class with a letter of its own: of all scripts, or of ASCII only. -/
def Shorthand.toSet (unicode : Bool) : Shorthand → CharSet
  | digit => if unicode then .digit else .range '0' '9'
  | blank => if unicode then .blank else .asciiBlank
  | word => if unicode then .word else .asciiWord

/-- A shorthand or its complement. Where only ASCII is known, a complement would contain bytes that
are no characters, and there is none. -/
def Shorthand.toSet? (unicode : Bool) (s : Shorthand) (negated : Bool) : Option CharSet :=
  if !negated then some (s.toSet unicode)
  else if unicode then some (.compl (s.toSet unicode))
  else none

namespace Bracket

/-! ### Reading -/

/-- A class whose closing bracket has not been read yet. -/
structure Level where
  /-- Whether the class is negated. -/
  negated : Bool
  /-- The operand and operator before the current list. -/
  left : Option (Bracket × SetOp) := none
  /-- The current list. -/
  items : Bracket := nothing
deriving DecidableEq, Repr

namespace Level

/-- Adds an item to the current list. -/
def push (l : Level) (b : Bracket) : Level := { l with items := union l.items b }

/-- The operand before the current list combined with that list. -/
def operand (l : Level) : Bracket :=
  match l.left with
  | none => l.items
  | some (a, o) => op o a l.items

/-- Starts a new list after an operator. -/
def pushOp (l : Level) (o : SetOp) : Level :=
  { l with left := some (l.operand, o), items := nothing }

/-- The class when its closing bracket has been read. -/
def close (l : Level) : Bracket := nested l.negated l.operand

/-- Reads the dashes that stand for themselves at the start of a class. -/
def openDashes? (verbose : Bool) (l : Level) (cs : List Char) : Option (Level × List Char) :=
  match _h : next verbose cs with
  | none => none
  | some (c, rest) =>
    if c = '-' then openDashes? verbose (l.push (.range '-' '-')) rest else some (l, cs)
termination_by cs.length
decreasing_by exact length_lt_of_next ‹_›

/-- Reads the start of a class after its opening bracket: a caret that negates it, dashes and, if
there is no dash, a closing bracket that stands for itself. -/
def open? (verbose : Bool) (cs : List Char) : Option (Level × List Char) := do
  let (c, rest) ← next verbose cs
  let negated := c == '^'
  let (level, cs) ← openDashes? verbose { negated } (if negated then rest else cs)
  let (c, rest) ← next verbose cs
  if c = ']' ∧ level.items = nothing then return (level.push (.range ']' ']'), rest)
  else return (level, cs)

end Level

/-- Reads one character or escape of a class, `c` being its first character. -/
def atom? (verbose : Bool) (c : Char) (rest : List Char) : Option (Atom × List Char) :=
  if c = '\\' then Atom.escaped? verbose rest else some (.char c, rest)

/-- The character that an atom stands for, if it stands for one. -/
def charOf? : Atom → Option Char
  | .char c | .byte c => some c
  | _ => none

/-- The item that an atom is on its own. -/
def ofAtom? : Atom → Option Bracket
  | .char c | .byte c => some (.range c c)
  | .shorthand s n => some (.shorthand s n)
  | .property p n => some (.property p n)
  | _ => none

/-- The character by which a dash is judged: the first one after it that is neither white space nor
the mark that opens a comment. -/
def afterDash (verbose : Bool) (cs : List Char) : Option Char :=
  if verbose then
    match cs.dropWhile Unicode.isBlank with
    | '#' :: rest => (rest.dropWhile Unicode.isBlank).head? <|> cs.head?
    | rest => rest.head? <|> cs.head?
  else cs.head?

/-- Reads an item of a class, `c` being its first character. A dash joins two characters into a
range unless a closing bracket or a second dash follows it. -/
def item? (verbose : Bool) (c : Char) (rest : List Char) : Option (Bracket × List Char) := do
  let (a, rest) ← atom? verbose c rest
  let (d, afterD) ← next verbose rest
  let e := afterDash verbose afterD
  if d ≠ '-' ∨ e = some ']' ∨ e = some '-' then
    let b ← ofAtom? a
    return (b, rest)
  else
    let (c, rest) ← next verbose afterD
    let (b, rest) ← atom? verbose c rest
    let lo ← charOf? a
    let hi ← charOf? b
    if lo ≤ hi then return (.range lo hi, rest) else none

/-- Reads the next piece of a class: with its outermost closing bracket the finished tree, otherwise
the levels that are open after it. -/
def step? (verbose : Bool) (l : Level) (outer : List Level) (cs : List Char) :
    Option ((Bracket ⊕ Level × List Level) × List Char) := do
  let (c, rest) ← next verbose cs
  if c = ']' then
    match outer with
    | [] => return (.inl l.close, rest)
    | up :: outer => return (.inr (up.push l.close, outer), rest)
  else if c = '[' then
    match Posix.read? rest with
    | some ((k, n), rest) => return (.inr (l.push (.posix k n), outer), rest)
    | none =>
      let (inner, rest) ← Level.open? verbose rest
      return (.inr (inner, l :: outer), rest)
  else
    match SetOp.read? c rest with
    | some (o, rest) => return (.inr (l.pushOp o, outer), rest)
    | none =>
      let (b, rest) ← item? verbose c rest
      return (.inr (l.push b, outer), rest)

/-- Reads a class of which some levels are open. -/
def readFrom? (verbose : Bool) (l : Level) (outer : List Level) (cs : List Char) :
    Option (Bracket × List Char) :=
  match step? verbose l outer cs with
  | none => none
  | some (.inl b, rest) => some (b, rest)
  | some (.inr (l, outer), rest) =>
    if rest.length < cs.length then readFrom? verbose l outer rest else none
termination_by cs.length

/-- Reads a class after its opening bracket. -/
def read? (verbose : Bool) (cs : List Char) : Option (Bracket × List Char) := do
  let (l, rest) ← Level.open? verbose cs
  readFrom? verbose l [] rest

/-! ### Meaning -/

/-- Closes a set under case variants if case is ignored. -/
def fold (f : Flags) (s : CharSet) : CharSet :=
  if f.ignoreCase then s.ignoringCase f.unicode else s

/-- A set, closed under case variants if case is ignored, and then complemented if it is negated. -/
def foldNegate? (f : Flags) (negated : Bool) (s : CharSet) : Option CharSet :=
  if !negated then some (fold f s)
  else if f.unicode then some (.compl (fold f s))
  else none

/-- The characters with a property or without it. Where only ASCII is known, no property is. -/
def propertySet? (f : Flags) (p : Unicode.Property) (negated : Bool) : Option CharSet :=
  if f.unicode then foldNegate? f negated (.property p) else none

/-- The set of characters that a class denotes under the flags in force. -/
def toSet? (f : Flags) : Bracket → Option CharSet
  | nothing => some .never
  | range lo hi => if f.unicode || hi.toNat < 128 then some (.range lo hi) else none
  | posix k n => foldNegate? f n k.toSet
  | shorthand s n => s.toSet? f.unicode n
  | property p n => propertySet? f p n
  | union a b => return .union (← a.toSet? f) (← b.toSet? f)
  | op o a b => return o.apply (fold f (← a.toSet? f)) (fold f (← b.toSet? f))
  | nested n a => do foldNegate? f n (← a.toSet? f)

end Bracket

end HttpRouting.Regex
