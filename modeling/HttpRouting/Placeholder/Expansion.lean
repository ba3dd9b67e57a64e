import HttpRouting.Placeholder.Scan
import HttpRouting.Text.Identifier
/-!
# Expanding placeholders

A placeholder is a colon with a name, or two colons for one without a name. In a pattern it stands
for a capturing group, and is expanded into one; colons that belong to an escape, a class or the
opening of a group are left alone.

## Main definitions

* `token?`: the placeholder whose first colon has been read.
* `Piece`, `pieces`: a pattern as text, openings of groups and placeholders.
* `expand`: the pattern with its placeholders as groups, and the index of each group.
-/

namespace HttpRouting.Placeholder

/-- Reads a placeholder after its first colon: its name, absent if a second colon follows. -/
def token? (cs : List Char) : Option (Option (List Char) × List Char) :=
  match Identifier.read? cs with
  | some (name, rest) => some (some name, rest)
  | none =>
    match cs with
    | ':' :: rest => some (none, rest)
    | _ => none

theorem length_lt_of_token? {cs rest : List Char} {name : Option (List Char)}
    (h : token? cs = some (name, rest)) : rest.length < cs.length := by
  unfold token? at h
  split at h
  · next hr =>
    simp only [Option.some.injEq, Prod.mk.injEq] at h
    rw [← h.2]
    exact Identifier.length_lt_of_read? hr
  · split at h
    · simp only [Option.some.injEq, Prod.mk.injEq] at h
      rw [← h.2]
      exact Nat.lt_succ_self _
    · simp at h

/-- A piece of a pattern. -/
inductive Piece where
  /-- A character that is kept. -/
  | char (c : Char)
  /-- The knowledge that a capturing group has been opened. -/
  | opening
  /-- A placeholder with its name, if it has one. -/
  | token (name : Option (List Char))
deriving DecidableEq, Repr

/-- The opening that a character shows, if it shows one. -/
def openings (m : Mode) (c : Char) : List Piece :=
  if (m.opened (some c)).isSome then [.opening] else []

/-- The pieces of a pattern that is in mode `m` at its start. -/
def pieces (m : Mode) (cs : List Char) : List Piece :=
  match cs with
  | [] => []
  | c :: cs =>
    if c = ':' ∧ m.settles c then
      match _h : token? cs with
      | some (name, rest) => openings m c ++ .token name :: pieces .plain rest
      | none => openings m c ++ .char c :: pieces .plain cs
    else openings m c ++ .char c :: pieces (m.next c) cs
termination_by cs.length
decreasing_by
  · exact Nat.lt_succ_of_lt (length_lt_of_token? ‹_›)
  · exact Nat.lt_succ_self _
  · exact Nat.lt_succ_self _

namespace Piece

/-- The text of a piece in the expanded pattern. -/
def expanded (pattern : List Char) : Piece → List Char
  | char c => [c]
  | opening => []
  | token _ => '(' :: pattern ++ [')']

end Piece

/-- The names of the placeholders with the indexes of their groups, after `n` groups. -/
def captures (n : Nat) : List Piece → List (Option String × Nat)
  | [] => []
  | .char _ :: ps => captures n ps
  | .opening :: ps => captures (n + 1) ps
  | .token name :: ps => (name.map String.ofList, n + 1) :: captures (n + 1) ps

/-- A pattern whose placeholders have been expanded. -/
structure Expansion where
  /-- The pattern. -/
  source : String
  /-- The names of the placeholders with the indexes of their groups, in order. -/
  placeholders : List (Option String × Nat)
deriving DecidableEq, Repr

/-- Expands the placeholders of a pattern into groups around another pattern. -/
def expand (source pattern : String) : Expansion :=
  let ps := pieces .plain source.toList
  { source := String.ofList (ps.flatMap (·.expanded pattern.toList))
    placeholders := captures 0 ps }

end HttpRouting.Placeholder
