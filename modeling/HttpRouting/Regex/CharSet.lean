import HttpRouting.Unicode.Blank
import HttpRouting.Unicode.CaseFold
import HttpRouting.Unicode.Digit
import HttpRouting.Unicode.Property
import HttpRouting.Unicode.Word
/-!
# Sets of characters

A `CharSet` is the meaning of one position of a regular expression that reads a character: a finite
expression over ranges and Unicode properties. Membership is decided by evaluating the expression,
so the Boolean operations need no normal form. Closing a set under case variants is an operation of
its own, because it comes before the complement in a bracketed class.

## Main definitions

* `CharSet`: the expressions, with `∈` decided by `CharSet.contains`.
* `CharSet.single`, `CharSet.any`, `CharSet.diff`, `CharSet.symmDiff`: derived sets.
* `CharSet.ignoringCase`: closure under the simple case variants of all scripts, or of ASCII only.
-/

namespace HttpRouting.Regex

/-- A set of characters, as an expression. -/
inductive CharSet where
  /-- The empty set. -/
  | never
  /-- The characters from `lo` to `hi`, both included. -/
  | range (lo hi : Char)
  /-- The word characters of all scripts. -/
  | word
  /-- The decimal digits of all scripts. -/
  | digit
  /-- The white-space characters of all scripts. -/
  | blank
  /-- The characters with a property. -/
  | property (p : Unicode.Property)
  /-- The characters in at least one of two sets. -/
  | union (a b : CharSet)
  /-- The characters in both of two sets. -/
  | inter (a b : CharSet)
  /-- The characters outside a set. -/
  | compl (a : CharSet)
  /-- The characters with a case variant in the set. -/
  | caseClosure (a : CharSet)
  /-- The characters with an ASCII case variant in the set. -/
  | asciiCaseClosure (a : CharSet)
deriving DecidableEq, Repr

namespace CharSet

/-- The other case of an ASCII letter; every other character is its own. -/
def otherAsciiCase (c : Char) : Char :=
  if c.isUpper then c.toLower else c.toUpper

/-- Whether a character belongs to the set. -/
def contains : CharSet → Char → Bool
  | never, _ => false
  | range lo hi, c => lo ≤ c && c ≤ hi
  | word, c => Unicode.isWord c
  | digit, c => Unicode.isDigit c
  | blank, c => Unicode.isBlank c
  | property p, c => p.holds c
  | union a b, c => a.contains c || b.contains c
  | inter a b, c => a.contains c && b.contains c
  | compl a, c => !a.contains c
  | caseClosure a, c => (Unicode.caseVariants c.toNat).any fun n => a.contains (Char.ofNat n)
  | asciiCaseClosure a, c => a.contains c || a.contains (otherAsciiCase c)

instance : Membership Char CharSet where
  mem s c := s.contains c = true

instance (c : Char) (s : CharSet) : Decidable (c ∈ s) :=
  inferInstanceAs (Decidable (s.contains c = true))

/-- The set with one member. -/
def single (c : Char) : CharSet := range c c

/-- The set of all characters. -/
def any : CharSet := compl never

/-- The characters of a list. -/
def ofList (cs : List Char) : CharSet :=
  cs.foldr (fun c s => union (single c) s) never

/-- The members of `a` outside `b`. -/
def diff (a b : CharSet) : CharSet := inter a (compl b)

/-- The members of exactly one of two sets. -/
def symmDiff (a b : CharSet) : CharSet := union (diff a b) (diff b a)

/-- Closes a set under case variants, those of all scripts or those of ASCII only. -/
def ignoringCase (unicode : Bool) (a : CharSet) : CharSet :=
  if unicode then caseClosure a else asciiCaseClosure a

/-- The case variants of a character as a set: of any script, or of ASCII only. -/
def variantsOf (unicode : Bool) (c : Char) : CharSet :=
  if unicode then
    match Unicode.caseVariants c.toNat with
    | [_] => single c
    | ns => ofList (ns.map Char.ofNat)
  else if c.isAlpha then ofList [c, otherAsciiCase c]
  else single c

/-- The ASCII members of `\w`. -/
def asciiWord : CharSet :=
  union (range 'a' 'z') (union (range 'A' 'Z') (union (range '0' '9') (single '_')))

/-- The ASCII members of `\s`. -/
def asciiBlank : CharSet := union (range '\t' '\r') (single ' ')

variable {c : Char} {a b : CharSet}

theorem mem_iff : c ∈ a ↔ a.contains c = true := Iff.rfl

@[simp] theorem mem_range {lo hi : Char} : c ∈ range lo hi ↔ lo ≤ c ∧ c ≤ hi := by
  simp [mem_iff, contains]

@[simp] theorem not_mem_never : c ∉ never := by simp [mem_iff, contains]

@[simp] theorem mem_union : c ∈ union a b ↔ c ∈ a ∨ c ∈ b := by simp [mem_iff, contains]

@[simp] theorem mem_inter : c ∈ inter a b ↔ c ∈ a ∧ c ∈ b := by simp [mem_iff, contains]

@[simp] theorem mem_compl : c ∈ compl a ↔ c ∉ a := by simp [mem_iff, contains]

@[simp] theorem mem_any : c ∈ any := by simp [any]

@[simp] theorem mem_single {d : Char} : c ∈ single d ↔ c = d := by
  simp only [single, mem_range]
  exact ⟨fun ⟨h₁, h₂⟩ => Char.le_antisymm h₂ h₁, fun h => h ▸ ⟨Char.le_refl _, Char.le_refl _⟩⟩

@[simp] theorem mem_ofList {cs : List Char} : c ∈ ofList cs ↔ c ∈ cs := by
  induction cs with
  | nil => simp [ofList]
  | cons d cs ih => simpa [ofList] using or_congr Iff.rfl ih

end CharSet

end HttpRouting.Regex
