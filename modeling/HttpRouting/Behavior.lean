import HttpRouting.Condition.Basic
import HttpRouting.Options
import HttpRouting.Placeholder.Expansion
import HttpRouting.Query
import HttpRouting.Text.Ends
/-!
# Behaviors

A behavior is a point in a declaration: a chain of nodes, each of which adds conditions and
parameters to the nodes around it. A route is made of what a whole chain says.

Path conditions of a chain are joined into one path. Any other condition replaces the one on the
same key further out, and with it the placeholders of that condition.

## Main definitions

* `Node`: what one step of a declaration adds, with `Node.ofConditions` to make it.
* `Chain`: nodes, the innermost first.
* `Chain.conditions`, `Chain.spellings`, `Chain.placeholders`, `Chain.params`: what a chain says.
* `Behavior`: a chain with its number.
-/

namespace HttpRouting

/-- A namespace in force. -/
structure NamespaceScope where
  /-- Its name. -/
  name : String
  /-- Whether a resource has already put it in front of its path. -/
  pathApplied : Bool
deriving DecidableEq, Repr

/-- What one step of a declaration adds. -/
structure Node where
  /-- The patterns to match, their placeholders expanded. -/
  conditions : Std.ExtTreeMap Key String := ∅
  /-- The texts to generate from. -/
  spellings : Std.ExtTreeMap Key String := ∅
  /-- The parameters. -/
  params : Params := ∅
  /-- The placeholders by name: the condition of each and its group there. -/
  placeholders : Std.ExtTreeMap String (Key × Nat) := ∅
  /-- Whether a condition is a pattern. -/
  hasPattern : Bool := false
  /-- The namespace that starts here. -/
  scope : Option NamespaceScope := none
  /-- The singular names of the resources that this step is nested in, the outermost first. -/
  parents : Option (List String) := none

namespace Node

/-- The parameter value that reads a placeholder. -/
def reading (name : String) : String := ":" ++ name

/-- Adds a condition. Each named placeholder becomes a parameter that reads it, unless there is a
parameter of that name. -/
def addCondition (o : Options) (n : Node) (k : Key) (c : Condition) : Node :=
  let c := if k = .method && o.caseInsensitiveMethod then c.foldCase else c
  let r := Placeholder.expand c.source o.placeholderPattern
  let named := r.placeholders.filterMap fun (name, i) => name.map (·, i)
  { n with
    conditions := n.conditions.insert k r.source
    spellings := n.spellings.insert k c.spelling
    params := named.foldl (fun ps (name, _) => ps.insertIfNew name (reading name)) n.params
    placeholders := named.foldl (fun ps (name, i) => ps.insert name (k, i)) n.placeholders
    hasPattern := n.hasPattern || c.isPattern }

/-- The node with the given conditions and parameters. A path condition that demands nothing is left
out. -/
def ofConditions (o : Options) (cs : Conditions) (ps : Params) : Node :=
  let cs := if cs[Key.path]?.any (·.isEmptyPath) then cs.erase .path else cs
  cs.toList.foldl (fun n (k, c) => n.addCondition o k c) { params := ps }

/-- The number of capturing groups in the path condition. -/
def pathGroups (n : Node) : Nat := (n.conditions[Key.path]?.map Placeholder.countCaptures).getD 0

end Node

/-- Nodes, the innermost first. -/
abbrev Chain := List Node

namespace Chain

/-- The conditions of a step on top of those further out: paths are joined, other conditions
replaced. -/
def merge (outer inner : Std.ExtTreeMap Key String) : Std.ExtTreeMap Key String :=
  match outer[Key.path]?, inner[Key.path]? with
  | some l, some r => (outer ∪ inner).insert .path (joinFragments l r)
  | _, _ => outer ∪ inner

theorem getElem?_merge_of_ne {outer inner : Std.ExtTreeMap Key String} {k : Key}
    (h : k ≠ .path) : (merge outer inner)[k]? = inner[k]?.or outer[k]? := by
  unfold merge
  split
  · rw [Std.ExtTreeMap.getElem?_insert, if_neg (by simpa using Ne.symm h),
      Std.ExtTreeMap.getElem?_union]
  · exact Std.ExtTreeMap.getElem?_union

theorem getElem?_merge_path_of_some {outer inner : Std.ExtTreeMap Key String} {l r : String}
    (hl : outer[Key.path]? = some l) (hr : inner[Key.path]? = some r) :
    (merge outer inner)[Key.path]? = some (joinFragments l r) := by
  simp [merge, hl, hr]

theorem getElem?_merge_path_of_none {outer inner : Std.ExtTreeMap Key String}
    (h : outer[Key.path]? = none ∨ inner[Key.path]? = none) :
    (merge outer inner)[Key.path]? = inner[Key.path]?.or outer[Key.path]? := by
  unfold merge
  split
  · next hl hr => rcases h with h | h <;> simp_all
  · exact Std.ExtTreeMap.getElem?_union

/-- The patterns to match. -/
def conditions : Chain → Std.ExtTreeMap Key String
  | [] => ∅
  | n :: outer => merge (conditions outer) n.conditions

/-- The texts to generate from. -/
def spellings : Chain → Std.ExtTreeMap Key String
  | [] => ∅
  | n :: outer => merge (spellings outer) n.spellings

/-- The number of capturing groups in the path. -/
def pathGroups : Chain → Nat
  | [] => 0
  | n :: outer => pathGroups outer + n.pathGroups

/-- The group of a placeholder in the merged condition: groups of a path count after those of the
path further out. -/
def shift (offset : Nat) : Key × Nat → Key × Nat
  | (.path, i) => (.path, i + offset)
  | p => p

/-- The placeholders by name, with their groups in the merged conditions. A condition that replaces
another takes the placeholders of that one away. -/
def placeholders : Chain → Std.ExtTreeMap String (Key × Nat)
  | [] => ∅
  | n :: outer =>
    ((placeholders outer).filter fun _ p => p.1 = .path || !n.conditions.contains p.1) ∪
      n.placeholders.map fun _ p => shift (pathGroups outer) p

/-- The parameters of all nodes, inner ones replacing outer ones. -/
def allParams : Chain → Params
  | [] => ∅
  | n :: outer => allParams outer ∪ n.params

/-- Whether a parameter reads a placeholder of the chain whose condition has been replaced. -/
def isStale (c : Chain) (name value : String) : Bool :=
  value == Node.reading name && c.any (·.placeholders.contains name) &&
    !c.placeholders.contains name

/-- The parameters, without those that read a placeholder whose condition has been replaced. -/
def params (c : Chain) : Params := c.allParams.filter fun name value => !c.isStale name value

/-- Whether some condition is a pattern. -/
def hasPattern (c : Chain) : Bool := c.any (·.hasPattern)

/-- The innermost namespace. -/
def scope? (c : Chain) : Option NamespaceScope := c.findSome? (·.scope)

/-- The singular names of the resources around, the outermost first. -/
def parents (c : Chain) : List String := (c.findSome? (·.parents)).getD []

end Chain

/-- A point in a declaration. -/
structure Behavior where
  /-- The number of behaviors made before this one. -/
  id : Nat
  /-- Its nodes. -/
  chain : Chain

namespace Behavior

/-- The behavior that a declaration starts from: every route has the default action. -/
def root (o : Options) : Behavior :=
  ⟨0, [Node.ofConditions o ∅ ((∅ : Params).insert "action" o.defaultAction)]⟩

end Behavior

end HttpRouting
