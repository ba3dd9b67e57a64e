import HttpRouting.Regex.Size
import HttpRouting.Regex.Token
/-!
# Expressions from tokens

An expression is built from the tokens of a pattern from left to right. The builder keeps the
alternatives and parts of the group that is being read, and what is unfinished in the groups around
it. Flags hold from where they are set to the end of their group, across alternatives.

## Main definitions

* `Atom.toRegex?`: the expression for one character, class or assertion.
* `Builder`: what has been read of a pattern, with `Builder.step?` for each token.
* `Regex.parse?`: the expression that a pattern denotes.
-/

namespace HttpRouting.Regex

/-- The assertion that an anchor stands for under the flags in force. -/
def Anchor.toAssertion (f : Flags) : Anchor → Assertion
  | lineStart =>
    if !f.multiLine then .textStart else if f.crlf then .lineStartCrlf else .lineStart
  | lineEnd => if !f.multiLine then .textEnd else if f.crlf then .lineEndCrlf else .lineEnd
  | textStart => .textStart
  | textEnd => .textEnd
  | wordBoundary => .wordBoundary f.unicode
  | notWordBoundary => .notWordBoundary f.unicode
  | wordStart => .wordStart f.unicode
  | wordEnd => .wordEnd f.unicode
  | wordStartHalf => .wordStartHalf f.unicode
  | wordEndHalf => .wordEndHalf f.unicode

namespace Atom

/-- The expression for a character that stands for itself. -/
def charRegex (f : Flags) (c : Char) : Regex :=
  if f.ignoreCase then .chars (.variantsOf f.unicode c) else .char c

/-- The expression for a dot. Where only ASCII is known there is none, because a dot would match
single bytes. -/
def dotRegex? (f : Flags) : Option Regex :=
  if !f.unicode then none
  else if f.dotAll then some (.chars .any)
  else if f.crlf then some (.chars (.compl (.ofList ['\r', '\n'])))
  else some (.chars (.compl (.single '\n')))

/-- The expression for an atom under the flags in force. -/
def toRegex? (f : Flags) : Atom → Option Regex
  | char c => some (charRegex f c)
  | byte c => if f.unicode || c.toNat < 128 then some (charRegex f c) else none
  | dot => dotRegex? f
  | anchor a => some (.look (a.toAssertion f))
  | shorthand s n => (s.toSet? f.unicode n).map .chars
  | property p n => (Bracket.propertySet? f p n).map .chars

end Atom

/-- What is unfinished around a group that is being read. -/
structure OpenGroup where
  /-- The index of the group, if it captures. -/
  capture : Option Nat
  /-- The flags in force before the group. -/
  flags : Flags
  /-- The finished alternatives before the group, the last one first. -/
  branches : List Regex
  /-- The parts before the group in its alternative, the last one first. -/
  parts : List (Option Regex)
deriving DecidableEq, Repr

/-- What has been read of a pattern. -/
structure Builder where
  /-- The flags in force. -/
  flags : Flags := {}
  /-- The finished alternatives of the current group, the last one first. -/
  branches : List Regex := []
  /-- The parts of the current alternative, the last one first; a change of flags is an absent part,
  because it cannot be repeated. -/
  parts : List (Option Regex) := []
  /-- The groups around the current position, the innermost first. -/
  outer : List OpenGroup := []
  /-- The number of capturing groups so far. -/
  groups : Nat := 0
  /-- The names of groups so far. -/
  names : List String := []
deriving DecidableEq, Repr

namespace Builder

/-- The current alternative. -/
def sequence (b : Builder) : Regex := concat (b.parts.reverse.filterMap id)

/-- The current group. -/
def alternatives (b : Builder) : Regex := choice (b.sequence :: b.branches).reverse

/-- Adds a part to the current alternative. -/
def push (b : Builder) (r : Regex) : Builder := { b with parts := some r :: b.parts }

/-- Starts a group. -/
def openGroup (b : Builder) (capture : Option Nat) (edits : List FlagEdit) : Builder :=
  { b with
    flags := b.flags.setAll edits
    branches := []
    parts := []
    outer := ⟨capture, b.flags, b.branches, b.parts⟩ :: b.outer }

/-- Ends a group, if one is open. -/
def closeGroup? (b : Builder) : Option Builder :=
  match b.outer with
  | [] => none
  | g :: outer =>
    let r := match g.capture with
      | some i => group i b.alternatives
      | none => b.alternatives
    some { b with flags := g.flags, branches := g.branches, parts := some r :: g.parts, outer }

/-- Repeats the last part of the current alternative, if there is one. -/
def repeatLast? (b : Builder) (min : Nat) (max : Option Nat) (marked : Bool) : Option Builder :=
  match b.parts with
  | some r :: parts => do
    let r ← r.repeated? (marked == b.flags.swapGreed) min max
    return { b with parts := some r :: parts }
  | _ => none

/-- Reads one token. -/
def step? (b : Builder) : Token → Option Builder
  | .atom a => return b.push (← a.toRegex? b.flags)
  | .bracket k => return b.push (.chars (← k.toSet? b.flags))
  | .openGroup (.plain edits) => some (b.openGroup none edits)
  | .openGroup (.capturing none) =>
    some { b.openGroup (some (b.groups + 1)) [] with groups := b.groups + 1 }
  | .openGroup (.capturing (some name)) =>
    if name ∈ b.names then none
    else some { b.openGroup (some (b.groups + 1)) [] with
      groups := b.groups + 1, names := name :: b.names }
  | .closeGroup => b.closeGroup?
  | .setFlags edits => some { b with flags := b.flags.setAll edits, parts := none :: b.parts }
  | .bar => some { b with branches := b.sequence :: b.branches, parts := [] }
  | .times min max marked => b.repeatLast? min max marked
  | .ignored => some b

/-- The expression when all tokens have been read, if no group is open. -/
def finish? (b : Builder) : Option Regex :=
  if b.outer.isEmpty then some b.alternatives else none

end Builder

/-- The expression for a list of tokens. -/
def ofTokens? (ts : List Token) : Option Regex := do
  (← ts.foldlM Builder.step? {}).finish?

/-- The expression that a pattern denotes, absent if the pattern is malformed. -/
def parse? (source : String) : Option Regex := do
  ofTokens? ((← lexemes? source.toList).map (·.token))

end HttpRouting.Regex
