import HttpRouting.Resources
/-!
# Declarations

A declaration is a program that registers routes. It starts from the root behavior, steps into more
specific behaviors and back, and reports what it does. A step that fails ends the declaration,
unless the failure is caught on the way.

A declaration names a route, and sets what else is asked for, where it registers the route, and it
leaves the routes of a resource as they are. What does not depend on that is stated for all
registries and routers that arise by changes in any order (`Registry.Arises`, `Router.Arises`); a
declaration is one way to make them.

## Main definitions

* `Declaration`: the programs.
* `Entry`: what a declaration reports.
* `Declaration.run`: runs a declaration on a behavior.
* `Declaration.runPass`: runs it on the root of a fresh registry.
-/

namespace HttpRouting

/-- What kind of route is registered. -/
inductive RouteKind where
  /-- A route whose conditions decide. -/
  | plain
  /-- A route that leaves the last decision to a function. -/
  | deferred (d : Decision)
  /-- A default route. -/
  | default

/-- A route to register. -/
structure RouteSpec where
  /-- The kind of the route. -/
  kind : RouteKind := .plain
  /-- Its own parameters. -/
  params : Params := ∅
  /-- Whether it allows session fixation, if that is said. -/
  fixation : Option Bool := none
  /-- The names that it is given one after the other. -/
  names : List String := []

/-- A program that registers routes. -/
inductive Declaration where
  /-- Does nothing. -/
  | skip
  /-- Does one thing after the other. -/
  | seq (first second : Declaration)
  /-- Reports a failure and goes on. -/
  | attempt (d : Declaration)
  /-- Steps into a behavior with one more condition, on the path. -/
  | matchPath (path : Condition) (body : Declaration)
  /-- Steps into a behavior with more conditions. -/
  | matchConditions (cs : Conditions) (body : Declaration)
  /-- Steps into a behavior with more conditions, one of them on the path. -/
  | matchWith (path : Condition) (cs : Conditions) (body : Declaration)
  /-- Steps into a behavior with more parameters. -/
  | withParams (ps : Params) (body : Declaration)
  /-- Steps into a namespace. -/
  | inNamespace (name : String) (body : Declaration)
  /-- Registers a route. -/
  | route (spec : RouteSpec)
  /-- Registers a route, reports it, and goes on in the same behavior. -/
  | routeThen (spec : RouteSpec) (body : Declaration)
  /-- Declares a plural resource and steps into it. -/
  | resources (name : String) (o : ResourceOptions) (body : Declaration)
  /-- Declares a singular resource and steps into it. -/
  | resource (name : String) (o : ResourceOptions) (body : Declaration)
  /-- Reports the behavior. -/
  | inspect

/-- What a declaration reports. -/
inductive Entry where
  /-- A route has been registered at an index of the pass. -/
  | registered (index : Nat)
  /-- A route as it is. -/
  | route (r : Route)
  /-- A resource has been declared, with its routes at some indexes of the pass. -/
  | resource (indexes : List Nat)
  /-- A behavior as it is. -/
  | behavior (b : Behavior)
  /-- A failure has been caught. -/
  | failed (e : Error)

/-- How far a declaration has come. -/
structure Progress where
  /-- What it has registered. -/
  registry : Registry
  /-- What it has reported. -/
  log : List Entry := []

/-- A step of a declaration. -/
abbrev Step := ExceptT Error (StateM Progress)

namespace Step

/-- Takes a step of a pass. -/
def ofPass {α : Type} (p : Pass α) : Step α := fun s =>
  let (a, g) := p s.registry
  (a, { s with registry := g })

/-- Reports something. -/
def report (e : Entry) : Step Unit := modify fun s => { s with log := s.log ++ [e] }

/-- Reports a failure and goes on. What has been registered stays registered. -/
def attempt (p : Step Unit) : Step Unit := fun s =>
  match p s with
  | (.ok (), s) => (.ok (), s)
  | (.error e, s) => report (.failed e) s

end Step

/-- Registers a route of some kind. -/
def Behavior.registerKind (b : Behavior) (ps : Params) : RouteKind → Pass Nat
  | .plain => b.addRoute ps
  | .deferred d => b.deferTo ps d
  | .default => b.defaultRoutes ps

namespace Declaration

/-- Steps into a sequence of behaviors, each with one more condition on the path. -/
def matchPaths (paths : List Condition) (body : Declaration) : Declaration :=
  paths.foldr matchPath body

/-- Does a list of things one after the other. -/
def all (ds : List Declaration) : Declaration := ds.foldr seq skip

/-- Registers a route, reports its index, and then sets what is asked for; the answer is its
index. -/
def runRoute (spec : RouteSpec) (b : Behavior) : Step Nat := do
  let i ← Step.ofPass (b.registerKind spec.params spec.kind)
  Step.report (.registered i)
  if let some enabled := spec.fixation then
    Step.ofPass (modify (·.setFixation i enabled))
  spec.names.forM fun name => Step.ofPass (Pass.update (·.nameRoute? i name))
  return i

/-- Runs a declaration on a behavior. -/
def run : Declaration → Behavior → Step Unit
  | skip, _ => return
  | seq d e, b => do d.run b; e.run b
  | attempt d, b => Step.attempt (d.run b)
  | matchPath p d, b => do d.run (← Step.ofPass (b.matchPath p))
  | matchConditions cs d, b => do d.run (← Step.ofPass (b.matchConditions cs))
  | matchWith p cs d, b => do d.run (← Step.ofPass (b.matchWith p cs))
  | withParams ps d, b => do d.run (← Step.ofPass (b.withParams ps))
  | inNamespace n d, b => do d.run (← Step.ofPass (b.inNamespace n))
  | route spec, b => do let _ ← runRoute spec b
  | routeThen spec d, b => do
    let i ← runRoute spec b
    if let some r := (← get).registry.routes[i]? then Step.report (.route r)
    d.run b
  | resources n o d, b => do
    let (is, inner) ← Step.ofPass (b.resources n o)
    d.run inner
    Step.report (.resource is)
  | resource n o d, b => do
    let (is, inner) ← Step.ofPass (b.resource n o)
    d.run inner
    Step.report (.resource is)
  | inspect, b => Step.report (.behavior b)

/-- Runs a declaration on the root of a fresh registry. The answer is its outcome and how far it has
come. -/
def runPass (d : Declaration) (o : Options) : Except Error Unit × Progress :=
  d.run (Behavior.root o) { registry := { options := o } }

end Declaration

end HttpRouting
