import HttpRouting.Request
/-!
# Deferred decisions

A route may leave the last decision to a function of the request and of the parameters that the
match has given so far. The function refuses the request or answers with the parameters to use
instead.

## Main definitions

* `Decision`: such a function.
* `Deferral`: a decision given by rules, with `Deferral.decide` as its meaning.
-/

namespace HttpRouting

/-- A decision taken when all conditions hold: no answer refuses the request, an answer replaces the
parameters. -/
abbrev Decision := Request → Params → Option Params

/-- A decision given by rules. -/
structure Deferral where
  /-- Refuses every request. -/
  reject : Bool := false
  /-- Attributes of the request with the value they need, an absent value demanding that the
  attribute be absent. -/
  attrIs : List (String × Option String) := []
  /-- Parameters with the value they need, in the same form. -/
  paramIs : List (String × Option String) := []
  /-- Drops all parameters. -/
  clear : Bool := false
  /-- Parameters to drop. -/
  remove : List String := []
  /-- Parameters to set. -/
  assign : Params := ∅
  /-- Parameters to copy from the part of the request of the given name, if it is present. -/
  copy : List (String × String) := []

namespace Deferral

/-- Whether the request and the parameters meet all demands. -/
def accepts (d : Deferral) (r : Request) (ps : Params) : Bool :=
  !d.reject && d.attrIs.all (fun (n, v) => r.attributes[n]? == v) &&
    d.paramIs.all (fun (n, v) => ps[n]? == v)

/-- Sets a parameter to a part of the request, if that part is present. -/
def copyFrom (r : Request) (ps : Params) (c : String × String) : Params :=
  match r.value? (Key.ofName c.2) with
  | some v => ps.insert c.1 v
  | none => ps

/-- The decision that the rules describe. -/
def decide (d : Deferral) : Decision := fun r ps =>
  if d.accepts r ps then
    let kept := if d.clear then ∅ else ps.filter fun n _ => n ∉ d.remove
    some (d.copy.foldl (copyFrom r) (kept ∪ d.assign))
  else none

end Deferral

end HttpRouting
