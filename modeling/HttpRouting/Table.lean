import HttpRouting.Registry
import HttpRouting.Route.Matching
/-!
# Route tables

A table answers requests and generates URLs. It does not change: a router makes a new one after each
pass.

## Main definitions

* `Table`: routes in order with what each answers, and routes by name.
* `Table.compile`: the table of some routes and names.
* `Table.match?`: the first route that matches a request.
* `Table.generate`, `Table.generateForParams`, `Table.generateDefault`: URLs by name, by parameters,
  and in the form of the default route.
-/

namespace HttpRouting

/-- The route that a target stands for. -/
def Target.route? (routes : List Route) : Target → Option Route
  | registered i => routes[i]?
  | detached r => some r

/-- What a route answers to a request. -/
abbrev Matcher := Request → Option Params

/-- A table of routes. -/
structure Table where
  /-- The routes in order. -/
  routes : List Route
  /-- What each route answers to a request, in the same order. -/
  matchers : List Matcher
  /-- The routes by name. -/
  named : Std.ExtTreeMap String Route
  /-- The index of the first default route. -/
  defaultIndex? : Option Nat
  /-- The counters. -/
  metrics : Metrics

namespace Table

/-- The table of some routes and names. A name without a route is left out. -/
def compile (o : Options) (routes : List Route) (named : Std.ExtTreeMap String Target)
    (metrics : Metrics) : Table where
  routes := routes
  matchers := routes.map (Route.match? o)
  named := named.filterMap fun _ t => t.route? routes
  defaultIndex? := routes.findIdx? (·.isDefault)
  metrics := metrics

/-- The first default route. -/
def defaultRoute? (t : Table) : Option Route := t.defaultIndex?.bind (t.routes[·]?)

/-- The place of the first matcher with an answer, counted from `n`, and its answer. -/
def firstMatch? (q : Request) (n : Nat) : List Matcher → Option (Nat × Params)
  | [] => none
  | m :: ms =>
    match m q with
    | some ps => some (n, ps)
    | none => firstMatch? q (n + 1) ms

/-- The index of the first route that matches a request, with its parameters. -/
def match? (t : Table) (q : Request) : Option (Nat × Params) := firstMatch? q 0 t.matchers

/-- The URL of the route with a name. -/
def generate (t : Table) (name : String) (s : Supply) (fallback : Params) : Except Error String :=
  match t.named[name]? with
  | none => .error (.namedRouteNotFound name)
  | some r => (r.generate s fallback).mapError .generate

/-- The parameters that a default route puts into the path. -/
def defaultNames : List String := ["controller", "action", "id", "format"]

/-- The URL in the form of the default route: controller, action, identifier and format, and the
other parameters as a query. The action is needed as soon as anything but the controller is given.
The format `current` is the one of the fallback. -/
def generateDefault (ps fallback : Params) : Except GenerateError String := do
  let some controller := ps["controller"]? <|> fallback["controller"]? | throw .noController
  let rest := ps.filter fun n _ => n ∉ defaultNames
  let needsAction := ["action", "id", "format"].any ps.contains || !rest.isEmpty
  let action ←
    if needsAction then
      match ps["action"]? <|> fallback["action"]? with
      | some a => pure ("/" ++ a)
      | none => throw (.noAction controller)
    else pure ""
  let id := match ps["id"]? with
    | some v => "/" ++ percentEncode reservedInSegment v
    | none => ""
  let format := match ps["format"]? with
    | some v => "." ++ if v = "current" then fallback["format"]?.getD v else v
    | none => ""
  return Params.appendTo rest ("/" ++ controller ++ action ++ id ++ format)

/-- The URL of the first route that could have given the parameters, else of the default route. -/
def generateForParams (t : Table) (ps fallback : Params) : Except Error String :=
  match t.routes.find? (·.isConsistentWith ps fallback) with
  | some r => (r.generate (.params (r.withoutLiterals ps)) fallback).mapError .generate
  | none =>
    if t.defaultIndex?.isSome then (generateDefault ps fallback).mapError .generate
    else .error (.generate .noDefaultRoute)

end Table

end HttpRouting
