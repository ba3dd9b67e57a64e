import HttpRouting.Condition.Key
import HttpRouting.Method
/-!
# Conditions

A condition is a literal text or a pattern, and both may hold placeholders. Matching uses its
source, in which a literal is escaped and anchored; generating a URL uses its spelling, in which it
is only anchored.

## Main definitions

* `Condition`: a literal or a pattern.
* `Condition.source`, `Condition.spelling`: its two forms.
* `Conditions`: conditions by key.
-/

namespace HttpRouting

/-- Whether a character has a meaning of its own in a pattern. -/
def isMeta (c : Char) : Bool :=
  c ∈ ['\\', '.', '+', '*', '?', '(', ')', '|', '[', ']', '{', '}', '^', '$', '#', '&', '-', '~']

/-- A text with a backslash before each character that has a meaning of its own in a pattern. -/
def escapeMeta (cs : List Char) : List Char :=
  cs.flatMap fun c => if isMeta c then ['\\', c] else [c]

/-- What a part of a request has to be like. -/
inductive Condition where
  /-- A text that has to be the whole part. -/
  | literal (text : String)
  /-- A pattern that has to match somewhere in the part. -/
  | pattern (source : String)
deriving DecidableEq, Repr

namespace Condition

/-- Whether the condition is a pattern. -/
def isPattern : Condition → Bool
  | literal _ => false
  | pattern _ => true

/-- The text of the condition as it was given. -/
def text : Condition → String
  | literal t => t
  | pattern s => s

/-- The pattern to match: a literal is escaped and anchored. -/
def source : Condition → String
  | literal t => String.ofList ('^' :: escapeMeta t.toList ++ ['$'])
  | pattern s => s

/-- The text to generate from: a literal is anchored. -/
def spelling : Condition → String
  | literal t => String.ofList ('^' :: t.toList ++ ['$'])
  | pattern s => s

/-- Whether the condition demands nothing of a path: it is empty, or both anchors and nothing
else. -/
def isEmptyPath (c : Condition) : Bool := c.text == "" || c.text == "^$"

/-- The condition that a method is a given one. -/
def ofMethod (m : Method) : Condition := literal m.token

/-- The condition that a method is in a set. -/
def ofMethods (s : MethodSet) : Condition := pattern s.source

/-- The condition on a method that has been put into small letters: a literal is put into small
letters as well, and a pattern ignores case. -/
def foldCase : Condition → Condition
  | literal t => literal (String.ofList (t.toList.map Char.toLower))
  | pattern s =>
    if "(?i)".toList.isPrefixOf s.toList then pattern s
    else pattern (String.ofList ("(?i)".toList ++ s.toList))

end Condition

/-- Conditions by the part of the request that they test. -/
abbrev Conditions := Std.ExtTreeMap Key Condition

namespace Conditions

/-- The condition on a path only. -/
def ofPath (c : Condition) : Conditions := (∅ : Conditions).insert .path c

/-- The conditions of a list, later ones replacing earlier ones on the same key. -/
def ofPairs (l : List (Key × Condition)) : Conditions := (∅ : Conditions).insertMany l

end Conditions

end HttpRouting
