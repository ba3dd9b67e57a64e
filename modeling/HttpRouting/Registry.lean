import HttpRouting.Error
/-!
# Registries

A pass over a declaration registers routes and gives names. What it has registered stays registered
when a later step of the pass fails.

Behaviors are values that carry their nodes. A step makes a new behavior out of an old one by
putting a node before its nodes, and marks no node but the one that it has just made, so a node is
never written once there is a behavior with it. A registry therefore keeps no behaviors: a registry
with the same counter has the same ones.

## Main definitions

* `Registry`: what a pass has registered so far, with counters in `Metrics`.
* `Pass`: a step of a pass, which may fail and keeps the registry.
* `Behavior.child`, `Behavior.addRoute`: a behavior with one more node, and a route made from a
  behavior.
* `Registry.claim?`, `nameRoute`, `nameDetached`: names are given once.
-/

namespace HttpRouting

/-- What a name stands for. -/
inductive Target where
  /-- The route at an index of the table. -/
  | registered (index : Nat)
  /-- A route that only generates. -/
  | detached (r : Route)

/-- Counters. -/
structure Metrics where
  /-- The number of behaviors made. -/
  behaviors : Nat := 0
  /-- The number of routes registered. -/
  routes : Nat := 0
  /-- The number of times a name was given. -/
  named : Nat := 0
deriving DecidableEq, Repr

/-- The sum of two sets of counters. -/
def Metrics.add (a b : Metrics) : Metrics :=
  ⟨a.behaviors + b.behaviors, a.routes + b.routes, a.named + b.named⟩

/-- What a pass has registered so far. -/
structure Registry where
  /-- The options of the router. -/
  options : Options
  /-- The routes in order. -/
  routes : List Route := []
  /-- The names that have been given. -/
  named : Std.ExtTreeMap String Target := ∅
  /-- The counters; the behavior that the pass starts from is counted. -/
  metrics : Metrics := { behaviors := 1 }

namespace Registry

/-- The registry after a route has been added at the end. -/
def register (g : Registry) (r : Route) : Registry :=
  { g with
    routes := g.routes ++ [{ r with index := some g.routes.length }]
    metrics := { g.metrics with routes := g.metrics.routes + 1 } }

/-- The registry after a name has been counted, if the name may be given: it is neither empty nor
taken. -/
def claim? (g : Registry) (name : String) : Except DeclarationError Registry :=
  if name.isEmpty then .error .emptyRouteName
  else if g.named.contains name then .error (.duplicateRouteName name)
  else .ok { g with metrics := { g.metrics with named := g.metrics.named + 1 } }

/-- The registry after the route at an index has been given a name. A name that the route had before
is free again. -/
def nameRoute? (g : Registry) (i : Nat) (name : String) : Except DeclarationError Registry := do
  let g ← g.claim? name
  let freed := match (g.routes[i]?).bind (·.name) with
    | some previous => g.named.erase previous
    | none => g.named
  return { g with
    routes := g.routes.modify i fun r => { r with name := some name }
    named := freed.insert name (.registered i) }

/-- The registry after a route that only generates has been given a name. -/
def nameDetached? (g : Registry) (r : Route) (name : String) :
    Except DeclarationError Registry := do
  let g ← g.claim? name
  return { g with named := g.named.insert name (.detached { r with name := some name }) }

/-- The registry after session fixation has been allowed or forbidden for the route at an index. -/
def setFixation (g : Registry) (i : Nat) (enabled : Bool) : Registry :=
  { g with routes := g.routes.modify i fun r => { r with fixation := enabled } }

end Registry

/-! ### Steps -/

/-- A step of a pass. -/
abbrev Pass := ExceptT Error (StateM Registry)

namespace Pass

/-- Refuses a declaration. -/
def refuse {α : Type} (e : DeclarationError) : Pass α := throw (.declaration e)

/-- Replaces the registry, unless that is refused. -/
def update (f : Registry → Except DeclarationError Registry) : Pass Unit := do
  match f (← get) with
  | .ok g => set g
  | .error e => refuse e

end Pass

namespace Behavior

/-- The behavior with one more node, which has the given conditions and parameters. -/
def child (b : Behavior) (cs : Conditions) (ps : Params) : Pass Behavior := do
  let g ← get
  set { g with metrics := { g.metrics with behaviors := g.metrics.behaviors + 1 } }
  return ⟨g.metrics.behaviors, Node.ofConditions g.options cs ps :: b.chain⟩

/-- The behavior with its innermost node changed. -/
def mapNode (b : Behavior) (f : Node → Node) : Behavior :=
  match b.chain with
  | n :: outer => { b with chain := f n :: outer }
  | [] => b

/-- The behavior with one more condition, on the path. -/
def matchPath (b : Behavior) (path : Condition) : Pass Behavior := b.child (.ofPath path) ∅

/-- The behavior with more conditions. -/
def matchConditions (b : Behavior) (cs : Conditions) : Pass Behavior := b.child cs ∅

/-- The behavior with more conditions, one of them on the path. -/
def matchWith (b : Behavior) (path : Condition) (cs : Conditions) : Pass Behavior :=
  b.child (cs.insert .path path) ∅

/-- The behavior with more parameters. -/
def withParams (b : Behavior) (ps : Params) : Pass Behavior := b.child ∅ ps

/-- The behavior in a namespace. -/
def inNamespace (b : Behavior) (name : String) : Pass Behavior := do
  let name := trimSlashes name
  if name.isEmpty then Pass.refuse .emptyNamespace
  else
    let c ← b.child ∅ ∅
    return c.mapNode fun n => { n with scope := some ⟨name, false⟩ }

/-- The route that the behavior describes together with some more parameters. -/
def route (b : Behavior) (ps : Params) (decision : Option Decision) (isDefault : Bool) :
    Pass Route := do
  let b ← if ps.isEmpty then pure b else b.child ∅ ps
  match Route.build b.chain decision isDefault with
  | .ok r => return r
  | .error e => throw (.pattern e)

/-- Registers the route that the behavior describes; the answer is its index in the pass. -/
def register (b : Behavior) (ps : Params) (decision : Option Decision) (isDefault : Bool) :
    Pass Nat := do
  let r ← b.route ps decision isDefault
  let g ← get
  set (g.register r)
  return g.routes.length

/-- Registers a route with the given parameters. -/
def addRoute (b : Behavior) (ps : Params) : Pass Nat := b.register ps none false

/-- Registers a route whose match is left to a decision. -/
def deferTo (b : Behavior) (ps : Params) (d : Decision) : Pass Nat := b.register ps (some d) false

/-- The path of default routes: a controller, with an optional action, identifier and format. -/
def defaultPath : Condition := .pattern "^/:controller(/:action(/:id)?)?(\\.:format)?$"

/-- Registers a default route. -/
def defaultRoutes (b : Behavior) (ps : Params) : Pass Nat := do
  (← b.matchPath defaultPath).register ps none true

end Behavior

end HttpRouting
