import HttpRouting.Behavior
import HttpRouting.Deferral
import HttpRouting.Regex.Match
import HttpRouting.Segment
import HttpRouting.Template
/-!
# Routes

A route is made from a chain of behaviors. It holds the compiled conditions in the order in which
they are tested, the templates of its parameters, and the segments of its path to generate from.

## Main definitions

* `ConditionTest`, `Route`: a compiled condition and a route.
* `Route.build`: the route that a chain describes.
* `Route.label`, `Route.display`: a short name for errors, and a description.
-/

namespace HttpRouting

/-- A compiled condition. -/
structure ConditionTest where
  /-- The part of the request that is tested. -/
  key : Key
  /-- The text of the pattern. -/
  source : String
  /-- The pattern. -/
  regex : Regex
deriving DecidableEq, Repr

/-- The number of capturing groups of the condition. -/
def ConditionTest.groups (t : ConditionTest) : Nat := t.regex.groupCount

/-- A route. -/
structure Route where
  /-- Its place in the table; a route that only generates has none. -/
  index : Option Nat := none
  /-- Its name. -/
  name : Option String := none
  /-- Whether it allows session fixation. -/
  fixation : Bool := false
  /-- Whether it is a default route. -/
  isDefault : Bool := false
  /-- Whether some condition was given as a pattern. -/
  hasPattern : Bool := false
  /-- The conditions in the order in which they are tested. -/
  tests : List ConditionTest := []
  /-- The parameters by name, in the order of their names. -/
  params : List (String × Template) := []
  /-- The segments of its path. -/
  segments : Option (List Segment) := none
  /-- The texts of the conditions to generate from. -/
  spellings : Std.ExtTreeMap Key String := ∅
  /-- The decision that is left to a function. -/
  decision : Option Decision := none

namespace Route

/-- Compiles a condition. -/
def compileTest (k : Key) (source : String) : Except PatternError ConditionTest :=
  match Regex.parse? source with
  | some r => .ok ⟨k, source, r⟩
  | none => .error (.invalidRegex k.name source)

/-- The number of capturing groups of the condition on a key, if there is one. -/
def groups? (tests : List ConditionTest) (k : Key) : Option Nat :=
  (tests.find? (·.key = k)).map (·.groups)

/-- The route that a chain describes. The first condition or parameter that is refused, in the order
of keys and then of names, is the error. -/
def build (c : Chain) (decision : Option Decision) (isDefault : Bool) :
    Except PatternError Route := do
  let tests ← c.conditions.toList.mapM fun (k, source) => compileTest k source
  let placeholders := c.placeholders
  let params ← c.params.toList.mapM fun (name, value) => do
    let t ← Template.parse name value (placeholders[·]?) (groups? tests)
    return (name, t)
  return {
    isDefault, tests, params, decision
    hasPattern := c.hasPattern
    segments := c.spellings[Key.path]?.map Segment.ofPath
    spellings := c.spellings }

/-- The parameter with a name. -/
def param? (r : Route) (name : String) : Option Template := r.params.lookup name

/-- A short name for the route: its name, else its index, else its path. -/
def label (r : Route) : String :=
  match r.name, r.index with
  | some n, _ => "'" ++ n ++ "'"
  | none, some i => "#" ++ toString i
  | none, none =>
    match r.spellings[Key.path]? with
    | some p => "'" ++ p ++ "'"
    | none => "<unnamed>"

/-- A description of the route: its index, its conditions as given, its parameters and its name. -/
def display (r : Route) : String :=
  let index := match r.index with
    | some i => "#" ++ toString i
    | none => "#-"
  let conditions := r.spellings.toList.map fun (k, s) => " " ++ k.name ++ "=" ++ s
  let params := r.params.map fun (n, t) => " " ++ n ++ "=" ++ t.literal?.getD "<capture>"
  let name := match r.name with
    | some n => " as " ++ n
    | none => ""
  index ++ String.join conditions ++ " =>" ++ String.join params ++ name

end Route

end HttpRouting
