import HttpRouting.Route.Basic
/-!
# Matching a route

A route matches a request when all of its conditions match. Its parameters then read what the
conditions captured, and a route with a decision of its own passes them on to that decision.

## Main definitions

* `Route.captured?`: what the groups of all conditions captured.
* `Route.resolved`: the parameters.
* `Route.match?`: the answer of a route to a request.
-/

namespace HttpRouting.Route

/-- The texts of the groups of each condition, in the order in which the conditions are tested. -/
abbrev Captured := List (Key × List (Option String))

/-- Tests conditions in order; without an answer if one does not match. -/
def captured? (tests : List ConditionTest) (lowercaseMethod : Bool) (q : Request) :
    Option Captured :=
  tests.mapM fun t => do
    let groups ← t.regex.captures? (q.subject lowercaseMethod t.key)
    return (t.key, groups)

/-- The text that a group of a condition captured. -/
def groupText (c : Captured) (k : Key) (n : Nat) : Option String :=
  (c.lookup k).bind fun groups => (groups[n]?).join

/-- The value of a parameter. An action that is a single group which took no part in the match is
the default action. -/
def paramValue (o : Options) (c : Captured) (name : String) (t : Template) : Option String :=
  t.render (groupText c) <|>
    if name = "action" && t.capture?.isSome then some o.defaultAction else none

/-- The parameters that have a value. -/
def resolved (o : Options) (r : Route) (c : Captured) : Params :=
  r.params.foldl (fun ps (name, t) =>
    match paramValue o c name t with
    | some v => ps.insert name v
    | none => ps) ∅

/-- The answer of a route to a request: its parameters if it matches. -/
def match? (o : Options) (r : Route) (q : Request) : Option Params := do
  let c ← captured? r.tests o.caseInsensitiveMethod q
  let ps := r.resolved o c
  match r.decision with
  | some decide => decide q ps
  | none => return ps

end HttpRouting.Route
