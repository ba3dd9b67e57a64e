import HttpRouting.Model
import HttpRouting.Route.Basic
/-!
# Generating a URL from a route

## Main definitions

* `GenerateError`: why no URL can be generated.
* `Supply`: where the values of placeholders come from.
* `Route.generate`: the URL of a route.
* `Route.isConsistentWith`: whether parameters could have come from a route.
-/

namespace HttpRouting

/-- Why no URL can be generated. -/
inductive GenerateError where
  /-- The route has a condition that is a pattern. -/
  | patternRoute (route : String)
  /-- The route has no path. -/
  | noPath (route : String)
  /-- A placeholder has no value. -/
  | missingParam (route param : String)
  /-- The path has a placeholder without a name. -/
  | anonymousSegment (route : String)
  /-- No route fits the parameters, and there is no default route. -/
  | noDefaultRoute
  /-- The default route lacks a controller. -/
  | noController
  /-- The default route lacks an action. -/
  | noAction (controller : String)
deriving DecidableEq, Repr

/-- The text of the error. -/
def GenerateError.message : GenerateError → String
  | patternRoute route =>
    "route " ++ route ++ " has a regex condition and can not be generated"
  | noPath route => "route " ++ route ++ " has no path to generate from"
  | missingParam route param => "route " ++ route ++ " needs a value for '" ++ param ++ "'"
  | anonymousSegment route =>
    "route " ++ route ++ " contains an anonymous segment that can not be generated"
  | noDefaultRoute =>
    "no route is consistent with the given params and no default route is declared"
  | noController => "controller not specified"
  | noAction controller => "action not specified for controller '" ++ controller ++ "'"

/-- Where the values of placeholders come from. -/
inductive Supply where
  /-- Parameters; those that fill no placeholder go into the query. -/
  | params (ps : Params)
  /-- A model. -/
  | model (m : Model)

/-- The value for a placeholder. -/
def Supply.value? : Supply → String → Option String
  | params ps, name => ps[name]?
  | model m, name => m.value? name

/-- The names of the placeholders among some segments. -/
def Segment.names (ss : List Segment) : List String :=
  ss.filterMap fun
    | placeholder n => some n
    | _ => none

namespace Route

/-- The path that some segments make, given the values of placeholders. The first segment that
cannot be filled is the error. -/
def fill (label : String) (value? : String → Option String) :
    List Segment → Except GenerateError String
  | [] => .ok ""
  | .literal t :: ss => return t ++ (← fill label value? ss)
  | .anonymous :: _ => .error (.anonymousSegment label)
  | .placeholder n :: ss =>
    match value? n with
    | some v => return percentEncode reservedInSegment v ++ (← fill label value? ss)
    | none => .error (.missingParam label n)

/-- The URL of a route. Placeholders are filled from the supply and then from the fallback. -/
def generate (r : Route) (s : Supply) (fallback : Params) : Except GenerateError String := do
  if r.hasPattern then throw (.patternRoute r.label)
  match r.segments with
  | none => throw (.noPath r.label)
  | some segments =>
    let path ← fill r.label (fun n => s.value? n <|> fallback[n]?) segments
    match s with
    | .params ps => return Params.appendTo (ps.filter fun n _ => n ∉ Segment.names segments) path
    | .model _ => return path

/-- Whether a literal parameter of the route has the value that is given for it, if one is given. -/
def literalAgrees (ps : Params) (p : String × Template) : Bool :=
  match p.2.literal?, ps[p.1]? with
  | some l, some v => l == v
  | _, _ => true

/-- Whether a segment can be filled. -/
def canFill (ps fallback : Params) : Segment → Bool
  | .literal _ => true
  | .anonymous => false
  | .placeholder n => ps.contains n || fallback.contains n

/-- Whether the route could have given the parameters: no condition is a pattern and no decision is
left to a function, literal parameters agree, a given controller or action is a parameter of the
route, and every placeholder has a value. -/
def isConsistentWith (r : Route) (ps fallback : Params) : Bool :=
  !r.hasPattern && r.decision.isNone &&
    match r.segments with
    | none => false
    | some segments =>
      r.params.all (literalAgrees ps) &&
        ["controller", "action"].all (fun n => !ps.contains n || (r.param? n).isSome) &&
        segments.all (canFill ps fallback)

/-- The parameters without those that are literal parameters of the route. -/
def withoutLiterals (r : Route) (ps : Params) : Params :=
  ps.filter fun n v => !r.params.any fun p => p.1 == n && p.2.literal? == some v

end Route

end HttpRouting
