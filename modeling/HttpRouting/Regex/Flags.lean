/-!
# Flags

A pattern may switch flags on and off, for the rest of a group by `(?flags)` or for one group by
`(?flags:…)`.

## Main definitions

* `Flag`: the single letters, read by `Flag.ofChar?`.
* `Flags`: which of them are on.
* `FlagEdit.parse?`: reads a list of letters, those after a dash being switched off.
-/

namespace HttpRouting.Regex

/-- A switch that changes how the pattern after it is read. -/
inductive Flag where
  /-- Letters match all of their case variants. -/
  | ignoreCase
  /-- `^` and `$` match at line ends. -/
  | multiLine
  /-- A dot matches line feeds too. -/
  | dotAll
  /-- Plain repetitions are lazy and those marked as lazy are not. -/
  | swapGreed
  /-- Characters of all scripts are known. -/
  | unicode
  /-- A carriage return ends lines too. -/
  | crlf
  /-- White space and comments do not count. -/
  | verbose
deriving DecidableEq, Repr

/-- The flag that a letter stands for. -/
def Flag.ofChar? : Char → Option Flag
  | 'i' => some .ignoreCase
  | 'm' => some .multiLine
  | 's' => some .dotAll
  | 'U' => some .swapGreed
  | 'u' => some .unicode
  | 'R' => some .crlf
  | 'x' => some .verbose
  | _ => none

/-- A flag with the value that it gets. -/
abbrev FlagEdit := Flag × Bool

/-- Reads flag letters. No letter and no dash may occur twice, and a dash has letters after it. -/
def FlagEdit.parse? (cs : List Char) : Option (List FlagEdit) :=
  let on := cs.takeWhile (· != '-')
  let off := cs.dropWhile (· != '-')
  if cs.Nodup ∧ off ≠ ['-'] ∧ cs.all fun c => c == '-' || (Flag.ofChar? c).isSome then
    some ((on.filterMap Flag.ofChar?).map (·, true) ++ (off.filterMap Flag.ofChar?).map (·, false))
  else none

/-- The state of all flags. -/
structure Flags where
  /-- Letters match all of their case variants. -/
  ignoreCase : Bool := false
  /-- `^` and `$` match at line ends. -/
  multiLine : Bool := false
  /-- A dot matches line feeds too. -/
  dotAll : Bool := false
  /-- Plain repetitions are lazy and those marked as lazy are not. -/
  swapGreed : Bool := false
  /-- Characters of all scripts are known. -/
  unicode : Bool := true
  /-- A carriage return ends lines too. -/
  crlf : Bool := false
  /-- White space and comments do not count. -/
  verbose : Bool := false
deriving DecidableEq, Repr

namespace Flags

/-- The state after one flag has been given a value. -/
def set (f : Flags) : FlagEdit → Flags
  | (.ignoreCase, b) => { f with ignoreCase := b }
  | (.multiLine, b) => { f with multiLine := b }
  | (.dotAll, b) => { f with dotAll := b }
  | (.swapGreed, b) => { f with swapGreed := b }
  | (.unicode, b) => { f with unicode := b }
  | (.crlf, b) => { f with crlf := b }
  | (.verbose, b) => { f with verbose := b }

/-- The state after a list of edits. -/
def setAll (f : Flags) (es : List FlagEdit) : Flags := es.foldl set f

end Flags

end HttpRouting.Regex
