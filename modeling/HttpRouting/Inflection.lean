/-!
# Singular forms

The singular of an English resource name. Words without a plural are kept, irregular plurals are
looked up, and the rest follows from the ending. Only the end of a name counts, so compound names
work as well.
-/

namespace HttpRouting

/-- Words that are their own singular. -/
def uncountableWords : List String :=
  ["equipment", "fish", "information", "media", "metadata", "money", "news", "rice", "series",
    "sheep", "species"]

/-- Irregular plurals with their singulars. -/
def irregularPlurals : List (String × String) :=
  [("people", "person"), ("men", "man"), ("women", "woman"), ("children", "child"),
    ("mice", "mouse"), ("geese", "goose"), ("teeth", "tooth"), ("feet", "foot"),
    ("statuses", "status")]

/-- Endings that lose their last two letters. -/
def sibilantEndings : List String := ["sses", "shes", "ches", "xes", "zzes"]

/-- Endings of words that only look like plurals. -/
def singularEndings : List String := ["ss", "us", "is"]

/-- Whether a word, in small letters, ends in a text. -/
def endsIn (lower : List Char) (ending : String) : Bool := ending.toList.isSuffixOf lower

/-- A word with its last `n` characters replaced. -/
def replaceEnd (word : List Char) (n : Nat) (ending : String) : List Char :=
  word.take (word.length - n) ++ ending.toList

/-- The singular of a word given as a list of characters. -/
def singularChars (word : List Char) : List Char :=
  let lower := word.map Char.toLower
  if uncountableWords.any (endsIn lower) then word
  else match irregularPlurals.find? fun (plural, _) => endsIn lower plural with
    | some (plural, singular) => replaceEnd word plural.length singular
    | none =>
      if endsIn lower "ies" && 3 < lower.length then replaceEnd word 3 "y"
      else if sibilantEndings.any (endsIn lower) then replaceEnd word 2 ""
      else if singularEndings.any (endsIn lower) then word
      else if endsIn lower "s" && 1 < lower.length then replaceEnd word 1 ""
      else word

/-- The singular of a resource name. -/
def singularize (word : String) : String := String.ofList (singularChars word.toList)

end HttpRouting
