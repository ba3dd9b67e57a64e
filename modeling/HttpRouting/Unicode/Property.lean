import HttpRouting.Unicode.Age
import HttpRouting.Unicode.Breaks
import HttpRouting.Unicode.Flag
import HttpRouting.Unicode.Script
/-!
# Properties of characters

A pattern may ask for characters with a property of Unicode. The property is given by a name, or by
the name of a kind of property and one of its values. Case, spaces, dashes and underscores do not
count in names, nor do characters beyond ASCII and the word `is` in front.

## Main definitions

* `Unicode.Property`: a property, with `Property.holds` for its characters.
* `Unicode.normalize`: what counts in a name.
* `Unicode.PropertyName`, `Unicode.PropertyName.find?`: a name in a pattern and its property.
-/

namespace HttpRouting.Unicode

/-- What a property says of a character. -/
inductive PropertyKind where
  /-- A flag that the character has. -/
  | flag
  /-- Its general category. -/
  | category
  /-- Its script. -/
  | script
  /-- The scripts that it is used with. -/
  | scriptExtensions
  /-- The version of Unicode that it came with. -/
  | age
  /-- How it breaks texts into characters. -/
  | graphemeBreak
  /-- How it breaks texts into words. -/
  | wordBreak
  /-- How it breaks texts into sentences. -/
  | sentenceBreak
deriving DecidableEq, Repr

namespace PropertyKind

/-- The names of the kinds that may be named. -/
def names : List (PropertyKind × List String) :=
  [(category, ["gc", "General_Category"]), (script, ["sc", "Script"]),
   (scriptExtensions, ["scx", "Script_Extensions"]), (age, ["age"]),
   (graphemeBreak, ["GCB", "Grapheme_Cluster_Break"]), (wordBreak, ["WB", "Word_Break"]),
   (sentenceBreak, ["SB", "Sentence_Break"])]

/-- The values of a kind, each with its names. -/
def values : PropertyKind → List (List String)
  | flag => flagNames
  | category => categoryNames
  | script | scriptExtensions => scriptNames
  | age => ageNames
  | graphemeBreak => graphemeBreakNames
  | wordBreak => wordBreakNames
  | sentenceBreak => sentenceBreakNames

/-- Whether a code point has a value. -/
def has (value : String) (n : Nat) : PropertyKind → Bool
  | flag => hasFlag value n
  | category => hasCategory value n
  | script => Unicode.script n == value
  | scriptExtensions => (Unicode.scriptExtensions n).contains value
  | age => hasAge value n
  | graphemeBreak => Unicode.graphemeBreak n == value
  | wordBreak => Unicode.wordBreak n == value
  | sentenceBreak => Unicode.sentenceBreak n == value

end PropertyKind

/-- A property of characters. -/
structure Property where
  /-- What it says. -/
  kind : PropertyKind
  /-- The value. -/
  value : String
deriving DecidableEq, Repr

/-- Whether a character has a property. -/
def Property.holds (p : Property) (c : Char) : Bool := p.kind.has p.value c.toNat

/-! ### Names -/

/-- What counts of a character in a name. -/
def nameChar? (c : Char) : Option Char :=
  if c = ' ' ∨ c = '_' ∨ c = '-' ∨ 128 ≤ c.toNat then none else some c.toLower

/-- What counts of a name. The word in front is kept where only one letter would be left, since
another property is named by all three. -/
def normalize (name : List Char) : List Char :=
  if (name.take 2).map Char.toLower = ['i', 's'] then
    let rest := (name.drop 2).filterMap nameChar?
    if rest = ['c'] then ['i', 's', 'c'] else rest
  else name.filterMap nameChar?

/-- Whether a character may stand in a name. Of the characters of ASCII, letters, digits and full
stops count, and no property is named with any other that would count. -/
def isNameChar (c : Char) : Bool :=
  128 ≤ c.toNat || c.isAlphanum || c == ' ' || c == '_' || c == '-' || c == '.'

/-- Whether a name is one of some names. -/
def isNamed (name : List Char) (names : List String) : Bool :=
  name.all isNameChar && names.any fun n => normalize n.toList = normalize name

namespace PropertyKind

/-- The kind with a name. -/
def ofName? (name : List Char) : Option PropertyKind :=
  (names.find? fun entry => isNamed name entry.2).map (·.1)

/-- The property of a kind whose value has a name. -/
def property? (kind : PropertyKind) (name : List Char) : Option Property :=
  ((kind.values.find? (isNamed name)).bind List.head?).map (⟨kind, ·⟩)

end PropertyKind

/-- The name of a property in a pattern. -/
inductive PropertyName where
  /-- A flag, a category or a script. -/
  | plain (name : List Char)
  /-- A kind of property and a value. -/
  | valued (kind value : List Char)
deriving DecidableEq, Repr

/-- The property with a name. A name by itself is that of a flag, else of a category, else of a
script. -/
def PropertyName.find? : PropertyName → Option Property
  | plain name =>
    (PropertyKind.flag.property? name).or
      ((PropertyKind.category.property? name).or (PropertyKind.script.property? name))
  | valued kind value => do (← PropertyKind.ofName? kind).property? value

end HttpRouting.Unicode
