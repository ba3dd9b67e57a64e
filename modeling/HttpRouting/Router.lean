import HttpRouting.Declaration
import HttpRouting.Table
/-!
# Routers

A router owns the routes of all passes. A pass replaces them, or puts its routes behind or before
them. A pass that fails changes nothing.

## Main definitions

* `Router`: routes and names; `Router.new` makes an empty one.
* `Placement`: where the routes of a pass go; `Router.place` puts them there, and `Router.install`
  makes a table of the outcome.
* `Router.declare`: runs a declaration and installs what it has registered.
* `Router.table`: the table, once there is one.
-/

namespace HttpRouting

/-- Where the routes of a pass go. -/
inductive Placement where
  /-- In place of all routes. -/
  | replace
  /-- Behind the routes. -/
  | append
  /-- Before the routes. -/
  | prepend
deriving DecidableEq, Repr

/-- The owner of all routes. -/
structure Router where
  /-- The options. -/
  options : Options
  /-- The routes in order. -/
  routes : List Route := []
  /-- What names stand for. -/
  named : Std.ExtTreeMap String Target := ∅
  /-- The counters. -/
  metrics : Metrics := {}
  /-- The table that was made after the last pass that succeeded. -/
  snapshot : Option Table := none

/-- The target after `n` routes have been put before it. -/
def Target.shift (n : Nat) : Target → Target
  | registered i => registered (i + n)
  | detached r => detached r

namespace Router

/-- Routes with their places from `n` on. -/
def reindex (n : Nat) : List Route → List Route
  | [] => []
  | r :: rs => { r with index := some n } :: reindex (n + 1) rs

@[simp] theorem length_reindex (n : Nat) (rs : List Route) : (reindex n rs).length = rs.length := by
  induction rs generalizing n with
  | nil => rfl
  | cons r rs ih => simp [reindex, ih]

theorem getElem?_reindex (n i : Nat) (rs : List Route) :
    (reindex n rs)[i]? = rs[i]?.map fun r => { r with index := some (n + i) } := by
  induction rs generalizing n i with
  | nil => simp [reindex]
  | cons r rs ih =>
    cases i with
    | zero => simp [reindex]
    | succ i => simp [reindex, ih, Nat.add_assoc, Nat.add_comm 1]

/-- An empty router, unless the options are refused. -/
def new (o : Options) : Except Options.Error Router := do
  o.validate
  return { options := o }

/-- What names stand for after `n` routes have been put before the routes. -/
def shiftNames (n : Nat) (named : Std.ExtTreeMap String Target) : Std.ExtTreeMap String Target :=
  named.map fun _ t => t.shift n

/-- The router with what a pass has registered in its place. Names of the pass replace names of the
router. -/
def place (r : Router) (p : Placement) (g : Registry) : Router :=
  match p with
  | .replace => { r with routes := reindex 0 g.routes, named := g.named, metrics := g.metrics }
  | .append =>
    let n := r.routes.length
    { r with
      routes := r.routes ++ reindex n g.routes
      named := r.named ∪ shiftNames n g.named
      metrics := r.metrics.add g.metrics }
  | .prepend =>
    let n := g.routes.length
    { r with
      routes := reindex 0 g.routes ++ reindex n r.routes
      named := shiftNames n r.named ∪ g.named
      metrics := r.metrics.add g.metrics }

/-- Puts what a pass has registered into the router and makes a new table. -/
def install (r : Router) (p : Placement) (g : Registry) : Router :=
  let r := r.place p g
  { r with snapshot := some (.compile r.options r.routes r.named r.metrics) }

/-- Runs a declaration and, if it succeeds, installs what it has registered. The answer is its
outcome, what it has reported, and the router after it. -/
def declare (r : Router) (p : Placement) (d : Declaration) :
    Except Error Unit × List Entry × Router :=
  match d.runPass r.options with
  | (.ok (), s) => (.ok (), s.log, r.install p s.registry)
  | (.error e, s) => (.error e, s.log, r)

/-- The table, once a pass has succeeded. -/
def table (r : Router) : Except Error Table :=
  match r.snapshot with
  | some t => .ok t
  | none => .error .notCompiled

end Router

end HttpRouting
