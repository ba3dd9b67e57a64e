import HttpRouting.Proofs.Overriding
import HttpRouting.Proofs.RouteAnswer
import HttpRouting.Proofs.RouteNames

/-!
# The action of a match

The root gives every route an action. A step may give another one, and a condition with a
placeholder named `action` gives one that reads the placeholder. When such a condition is replaced
further in, its placeholder is taken away, and the action that reads it with it. The action of the
root does not come back then. This is the only way in which a route loses its action, and a route
that has one puts it into every match, because a group that took no part is read as the default.

## Main definitions

* `Chain.Loses` — a chain loses a parameter with a placeholder of a replaced condition
* `Route.StemsFrom` — a route that a declared chain describes, in some place and with some name

## Main results

* `Chain.getElem?_params_eq_none_iff` — when a chain lacks a parameter
* `Route.getElem?_action_of_match?` — when a match lacks the action
* `Router.Arises.allStem` — every route of a router stems from a declared chain
* `Router.Arises.action_eq_none_iff` — the answers of any router without an action
* `Router.action_lost_iff` — the same after any passes over declarations
-/

namespace HttpRouting

/-! ### Chains -/

/-- Every placeholder of a node is a parameter of the node. -/
def Node.ReadsAll (n : Node) : Prop :=
  ∀ x : String, n.placeholders[x]?.isSome = true → n.params[x]?.isSome = true

namespace Chain

/-- A chain loses a parameter: a step with a placeholder of that name, on a key other than the path,
has its condition replaced further in. No step further in has a placeholder of that name, and what
the steps up to there give to the parameter reads the placeholder. -/
structure LosesAt (inner : Chain) (n : Node) (x : String) (k : Key) : Prop where
  /-- The placeholder is one of a condition on the key. -/
  placeholder : ∃ i, n.placeholders[x]? = some (k, i)
  /-- Conditions on the path are never replaced. -/
  key : k ≠ .path
  /-- The condition is replaced further in. -/
  replaced : ∃ m ∈ inner, m.conditions[k]?.isSome = true
  /-- The placeholder is not given again. -/
  hidden : ∀ m ∈ inner, m.placeholders[x]? = none
  /-- The parameter reads it. -/
  reading : (inner ++ [n]).findSome? (·.params[x]?) = some (Node.reading x)

/-- A chain loses a parameter in one of its steps. -/
def Loses (c : Chain) (x : String) : Prop :=
  ∃ inner n outer k, c = inner ++ n :: outer ∧ LosesAt inner n x k

variable {o : Options} {c : Chain} {x : String}

theorem getElem?_allParams_split (inner : Chain) (n : Node) (outer : Chain) :
    (allParams (inner ++ n :: outer))[x]? =
      ((inner ++ [n]).findSome? (·.params[x]?)).or outer.allParams[x]? := by
  rw [getElem?_allParams_append, getElem?_allParams_cons_node, ← Option.or_assoc,
    List.findSome?_append]
  simp

/-- A parameter that is lost is not there. -/
theorem Loses.getElem?_params (h : c.Loses x) : c.params[x]? = none := by
  obtain ⟨inner, n, outer, k, rfl, hloses⟩ := h
  obtain ⟨i, hi⟩ := hloses.placeholder
  -- The placeholder is taken away for good, but its node still counts for what is stale.
  have hgone := getElem?_placeholders_lost hloses.key hloses.replaced hi hloses.hidden outer
  have hstale : isStale (inner ++ n :: outer) x (Node.reading x) = true := by
    have hcontains : n.placeholders.contains x = true := by
      rw [Std.ExtTreeMap.contains_eq_isSome_getElem?, hi]
      rfl
    rw [isStale, Std.ExtTreeMap.contains_eq_isSome_getElem?, hgone, List.any_append, List.any_cons,
      hcontains]
    simp
  rw [Chain.getElem?_params, getElem?_allParams_split, hloses.reading, Option.some_or,
    Option.filter_some, hstale]
  rfl

/-- A chain with a placeholder of a name has an innermost one. -/
theorem exists_innermost (h : c.any (·.placeholders.contains x) = true) :
    ∃ inner n outer p, c = inner ++ n :: outer ∧ n.placeholders[x]? = some p ∧
      ∀ m ∈ inner, m.placeholders[x]? = none := by
  induction c with
  | nil => cases h
  | cons m c ih =>
    cases hm : m.placeholders[x]? with
    | some p => exact ⟨[], m, c, p, rfl, hm, List.forall_mem_nil _⟩
    | none =>
      rw [List.any_cons, Std.ExtTreeMap.contains_eq_isSome_getElem?, hm] at h
      obtain ⟨inner, n, outer, p, rfl, hn, hinner⟩ := ih h
      exact ⟨m :: inner, n, outer, p, rfl, hn, List.forall_mem_cons.mpr ⟨hm, hinner⟩⟩

/-- A parameter that is stale is lost in the innermost step with a placeholder of its name. -/
theorem loses_of_isStale (hc : ∀ n ∈ c, n.ReadsAll) {v : String} (hall : c.allParams[x]? = some v)
    (hstale : c.isStale x v = true) : c.Loses x := by
  rw [isStale, Bool.and_eq_true, Bool.and_eq_true, Bool.not_eq_true'] at hstale
  obtain ⟨⟨hvalue, hany⟩, hgone⟩ := hstale
  obtain rfl := beq_iff_eq.mp hvalue
  obtain ⟨inner, n, outer, ⟨k, i⟩, rfl, hn, hinner⟩ := exists_innermost hany
  -- Were the placeholder kept all the way, it would still be there.
  have htaken : inner.all (keeps (shift (pathGroups outer) (k, i))) = false := by
    by_contra hkept
    rw [Bool.not_eq_false] at hkept
    rw [Std.ExtTreeMap.contains_eq_isSome_getElem?, getElem?_placeholders_append hinner,
      getElem?_placeholders_cons, hn, Option.map_some, Option.some_or, Option.filter_some,
      hkept] at hgone
    cases hgone
  obtain ⟨m, hm, hmkeeps⟩ := List.all_eq_false.mp htaken
  have hkey : (shift (pathGroups outer) (k, i)).1 = k := by
    unfold shift
    split <;> simp_all
  rw [keeps, hkey, Bool.or_eq_true, decide_eq_true_eq, not_or, Bool.not_eq_true,
    Bool.not_eq_false', Std.ExtTreeMap.contains_eq_isSome_getElem?] at hmkeeps
  refine ⟨inner, n, outer, k, rfl, ⟨i, hn⟩, hmkeeps.1, ⟨m, hm, hmkeeps.2⟩, hinner, ?_⟩
  -- The node has a parameter of this name, so what is given comes from here or from further in.
  rw [getElem?_allParams_split] at hall
  cases hgiven : (inner ++ [n]).findSome? (·.params[x]?) with
  | some w => rwa [hgiven, Option.some_or] at hall
  | none =>
    have hnone := List.findSome?_eq_none_iff.mp hgiven n (by simp)
    have hreads := hc n (by simp) x (by rw [hn]; rfl)
    rw [hnone] at hreads
    cases hreads

/-- A chain lacks a parameter if no step has it, or if it is lost. -/
theorem getElem?_params_eq_none_iff (hc : ∀ n ∈ c, n.ReadsAll) :
    c.params[x]? = none ↔ c.allParams[x]? = none ∨ c.Loses x := by
  constructor
  · intro h
    rw [Chain.getElem?_params] at h
    cases hall : c.allParams[x]? with
    | none => exact .inl rfl
    | some v =>
      rw [hall, Option.filter_some] at h
      have hstale : isStale c x v = true := by
        by_contra hstale
        rw [Bool.not_eq_true] at hstale
        rw [hstale] at h
        cases h
      exact .inr (loses_of_isStale hc hall hstale)
  · rintro (h | h)
    · rw [Chain.getElem?_params, h]
      rfl
    · exact h.getElem?_params

/-- Declared chains read all of their placeholders. -/
theorem Declared.readsAll (h : c.Declared o) : ∀ n ∈ c, n.ReadsAll := by
  have hnode : ∀ cs ps, (Node.ofConditions o cs ps).ReadsAll := by
    intro cs ps x hx
    rw [Node.getElem?_params_ofConditions, Std.ExtTreeMap.contains_eq_isSome_getElem?, hx,
      if_pos rfl]
    cases ps[x]? <;> rfl
  induction h with
  | root => exact List.forall_mem_singleton.mpr (hnode _ _)
  | child cs ps h ih => exact List.forall_mem_cons.mpr ⟨hnode cs ps, ih⟩
  | marked scope parents h ih =>
    obtain ⟨hn, houter⟩ := List.forall_mem_cons.mp ih
    exact List.forall_mem_cons.mpr ⟨hn, houter⟩

/-- The root gives every declared chain an action, though it may be stale. -/
theorem Declared.isSome_action (h : c.Declared o) : c.allParams["action"]?.isSome = true := by
  induction h with
  | root =>
    rw [Behavior.root, getElem?_allParams_cons_node, Node.getElem?_params_ofConditions,
      Std.ExtTreeMap.getElem?_insert_self]
    rfl
  | child cs ps h ih =>
    rw [getElem?_allParams_cons_node, Option.isSome_or, ih, Bool.or_true]
  | marked scope parents h ih => exact ih

/-- A declared chain lacks an action exactly if it loses the one that it has. -/
theorem Declared.getElem?_params_action (h : c.Declared o) :
    c.params["action"]? = none ↔ c.Loses "action" := by
  rw [getElem?_params_eq_none_iff h.readsAll, or_iff_right]
  exact Option.isSome_iff_ne_none.mp h.isSome_action

end Chain

/-! ### Routes -/

namespace Route

variable {o : Options} {c : Chain} {r : Route}

/-- A declared chain describes the route, up to its place, its name and its session fixation. -/
structure StemsFrom (o : Options) (c : Chain) (r : Route) : Prop where
  /-- The chain comes from the root. -/
  declared : c.Declared o
  /-- It describes the route. -/
  built : ∃ r₀, build c r.decision r.isDefault = .ok r₀ ∧
    r = { r₀ with index := r.index, name := r.name, fixation := r.fixation }

theorem StemsFrom.of_build (hc : c.Declared o) {decision : Option Decision} {isDefault : Bool}
    (h : build c decision isDefault = .ok r) : r.StemsFrom o c := by
  refine ⟨hc, r, ?_, rfl⟩
  obtain ⟨tests, params, -, -, rfl⟩ := build_eq_ok_iff.mp h
  exact h

/-- Where a route stems from does not depend on its place, its name and its session fixation. -/
theorem StemsFrom.labelled (h : r.StemsFrom o c) (index : Option Nat) (name : Option String)
    (fixation : Bool) : StemsFrom o c { r with index, name, fixation } := by
  obtain ⟨r₀, hbuild, heq⟩ := h.built
  refine ⟨h.declared, r₀, hbuild, ?_⟩
  rw [heq]

/-- A parameter named `action` always has a value. -/
theorem isSome_paramValue_action (captured : Captured) (t : Template) :
    (paramValue o captured "action" t).isSome = true := by
  unfold paramValue Template.render
  -- Only a template that is a single group may have no text, and the default is for those.
  cases t.capture? <;> simp

/-- A match of a route without a decision lacks an action exactly if its chain does. -/
theorem getElem?_action_of_match? (h : r.StemsFrom o c) (hr : r.decision = none) {q : Request}
    {ps : Params} (hps : r.match? o q = some ps) :
    ps["action"]? = none ↔ c.params["action"]? = none := by
  obtain ⟨r₀, hbuild, heq⟩ := h.built
  rw [hr] at hbuild
  have hmatch : r₀.match? o q = some ps := by
    rw [← hps, heq]
    rfl
  obtain ⟨captured, rfl, -⟩ := exists_captured_of_match? hbuild hmatch
  constructor
  · intro hnone
    by_contra hsome
    obtain ⟨value, hvalue⟩ := Option.ne_none_iff_exists'.mp hsome
    obtain ⟨t, ht⟩ := exists_mem_params hbuild hvalue
    obtain ⟨tests, params, -, hparams, rfl⟩ := build_eq_ok_iff.mp hbuild
    -- What the route resolves for a parameter that it has is the value of its template.
    have haction := @isSome_paramValue_action o captured t
    rw [← getElem?_resolved (pairwise_params hparams) ht, hnone] at haction
    cases haction
  · exact getElem?_resolved_absent hbuild

end Route

/-- Every route stems from a declared chain. -/
def AllStem (o : Options) (routes : List Route) : Prop :=
  ∀ x ∈ routes, ∃ c, x.StemsFrom o c

namespace AllStem

variable {o : Options} {routes : List Route} {g g' : Registry} {r : Router}

theorem reindex (h : AllStem o routes) (n : Nat) : AllStem o (Router.reindex n routes) := by
  intro x hx
  obtain ⟨i, hi⟩ := List.mem_iff_getElem?.mp hx
  rw [Router.getElem?_reindex] at hi
  obtain ⟨y, hy, rfl⟩ := Option.map_eq_some_iff.mp hi
  obtain ⟨c, hc⟩ := h y (List.mem_of_getElem? hy)
  exact ⟨c, hc.labelled _ _ _⟩

theorem modify (h : AllStem o routes) (i : Nat) {f : Route → Route}
    (hf : ∀ (x : Route) (c : Chain), x.StemsFrom o c → (f x).StemsFrom o c) :
    AllStem o (routes.modify i f) := by
  intro x hx
  obtain ⟨j, hj⟩ := List.mem_iff_getElem?.mp hx
  rw [List.getElem?_modify] at hj
  obtain ⟨y, hy, rfl⟩ := Option.map_eq_some_iff.mp hj
  obtain ⟨c, hc⟩ := h y (List.mem_of_getElem? hy)
  refine ⟨c, ?_⟩
  split
  · exact hf y c hc
  · exact hc

/-- Each change to a registry keeps where its routes stem from. -/
theorem change (h : AllStem g.options g.routes) (hchange : Registry.Change g g') :
    AllStem g'.options g'.routes := by
  cases hchange with
  | growth hgrowth =>
    cases hgrowth with
    | behavior => exact h
    | register declared built =>
      refine List.forall_mem_append.mpr ⟨h, List.forall_mem_singleton.mpr ?_⟩
      exact ⟨_, (Route.StemsFrom.of_build declared built).labelled _ _ _⟩
    | nameDetached _ _ hnamed =>
      obtain ⟨-, -, rfl⟩ := Registry.nameDetached?_eq_ok_iff.mp hnamed
      exact h
  | nameRoute _ hnamed =>
    obtain ⟨-, -, rfl⟩ := Registry.nameRoute?_eq_ok_iff.mp hnamed
    exact h.modify _ fun x c hc => hc.labelled _ _ _
  | fixation i enabled => exact h.modify i fun x c hc => hc.labelled _ _ _

theorem changes (h : AllStem g.options g.routes) (hchanges : g.Changes g') :
    AllStem g'.options g'.routes := by
  induction hchanges with
  | refl => exact h
  | tail _ hchange ih => exact ih.change hchange

/-- Every route of a registry that arises in a pass stems from a declared chain. -/
theorem of_arises (hg : g.Arises o) : AllStem o g.routes := by
  have hfresh : AllStem o [] := List.forall_mem_nil _
  have hstem := changes (g := { options := o }) hfresh hg
  rwa [hg.frame.1] at hstem

/-- Each way to place the routes of a pass keeps where routes stem from. -/
theorem place (hr : AllStem o r.routes) (hg : AllStem o g.routes) (p : Placement) :
    AllStem o (r.place p g).routes := by
  cases p with
  | replace => exact hg.reindex 0
  | append => exact List.forall_mem_append.mpr ⟨hr, hg.reindex _⟩
  | prepend => exact List.forall_mem_append.mpr ⟨hg.reindex 0, hr.reindex _⟩

end AllStem

/-! ### Routers -/

namespace Router

variable {o : Options} {passes : List (Placement × Declaration)}

/-- Every route of a router stems from a declared chain. -/
theorem Arises.allStem {r : Router} (h : r.Arises o) : AllStem o r.routes := by
  induction h with
  | start => exact List.forall_mem_nil _
  | install _ p hg ih => exact ih.place (.of_arises hg) p

/-- When a match lacks an action, whatever passes have led to the router. The route of a match is
one that a declared chain describes. If no decision is left to a function, the match lacks an action
exactly if the chain loses it. -/
theorem Arises.action_eq_none_iff {router : Router} (harises : router.Arises o) {t : Table}
    (ht : router.table = .ok t) {q : Request} {i : Nat} {ps : Params}
    (h : t.match? q = some (i, ps)) :
    ∃ r, t.routes[i]? = some r ∧ (∃ c, r.StemsFrom o c) ∧
      (r.decision = none → ∀ c, r.StemsFrom o c →
        (ps["action"]? = none ↔ c.Loses "action")) := by
  have hsnapshot := table_eq_ok.mp ht
  obtain ⟨⟨r, hr, hmatch⟩, -⟩ := (harises.serves hsnapshot).matched q i ps h
  rw [harises.options_eq] at hmatch
  have hstem : ∃ c, r.StemsFrom o c := by
    refine harises.allStem r (List.mem_of_getElem? (i := i) ?_)
    rw [harises.current.snapshot t hsnapshot] at hr
    exact hr
  refine ⟨r, hr, hstem, fun hdecision c hc => ?_⟩
  rw [Route.getElem?_action_of_match? hc hdecision hmatch]
  exact hc.declared.getElem?_params_action

/-- When a match lacks an action. The route of a match is one that a declared chain describes. If no
decision is left to a function, the match lacks an action exactly if the chain loses it. -/
theorem action_lost_iff {t : Table} (ht : (after o passes).table = .ok t) {q : Request} {i : Nat}
    {ps : Params} (h : t.match? q = some (i, ps)) :
    ∃ r, t.routes[i]? = some r ∧ (∃ c, r.StemsFrom o c) ∧
      (r.decision = none → ∀ c, r.StemsFrom o c →
        (ps["action"]? = none ↔ c.Loses "action")) :=
  (arises_after o passes).action_eq_none_iff ht h

/-- The index of the answer after one pass, its action, and whether its route leaves nothing to a
decision. -/
def answeredAction (d : Declaration) (q : Request) : Option (Nat × Option String × Option Bool) :=
  (after {} [(.replace, d)]).table.toOption.bind fun t =>
    (t.match? q).map fun a => (a.1, a.2["action"]?, t.routes[a.1]?.map (·.decision.isNone))

theorem exists_of_answeredAction {d : Declaration} {q : Request} {i : Nat} {action : Option String}
    (h : answeredAction d q = some (i, action, some true)) :
    ∃ t ps r, (after {} [(.replace, d)]).table = .ok t ∧ t.match? q = some (i, ps) ∧
      ps["action"]? = action ∧ t.routes[i]? = some r ∧ r.decision = none := by
  obtain ⟨t, ht, hanswer⟩ := Option.bind_eq_some_iff.mp h
  obtain ⟨⟨j, ps⟩, hmatch, hanswer⟩ := Option.map_eq_some_iff.mp hanswer
  rw [Prod.mk.injEq, Prod.mk.injEq] at hanswer
  obtain ⟨rfl, haction, hdecision⟩ := hanswer
  obtain ⟨r, hr, hnone⟩ := Option.map_eq_some_iff.mp hdecision
  exact ⟨t, ps, r, toOption_eq_some_iff.mp ht, hmatch, haction, hr,
    Option.isNone_iff_eq_none.mp hnone⟩

/-- A pass with a path whose action may be left out. -/
def optionalAction : Declaration := .matchPath (.pattern "^/posts(/:action)?$") (.route {})

/-- Without the part for the action, the match has the default action, and the chain of the route
does not lose it. -/
theorem action_lost_optionalAction :
    ∃ t ps r, (after {} [(.replace, optionalAction)]).table = .ok t ∧
      t.match? { method := "GET", path := "/posts" } = some (0, ps) ∧
      ps["action"]? = some "index" ∧ t.routes[0]? = some r ∧ r.decision = none ∧
      ∃ c, r.StemsFrom {} c ∧ ¬c.Loses "action" := by
  have hrun : answeredAction optionalAction { method := "GET", path := "/posts" } =
      some (0, some "index", some true) := by
    decide +kernel
  obtain ⟨t, ps, r, ht, hmatch, haction, hr, hnone⟩ := exists_of_answeredAction hrun
  obtain ⟨r', hr', ⟨c, hc⟩, hlost⟩ := action_lost_iff ht hmatch
  obtain rfl := Option.some.inj (hr.symm.trans hr')
  refine ⟨t, ps, r, ht, hmatch, haction, hr, hnone, c, hc, fun hloses => ?_⟩
  have hmissing := (hlost hnone c hc).mpr hloses
  cases hmissing.symm.trans haction

/-- A pass in which a condition on the host has a placeholder named `action` and is replaced. -/
def replacedAction : Declaration :=
  .matchConditions ((∅ : Conditions).insert (.attr "host") (.literal ":action.example.com"))
    (.matchConditions ((∅ : Conditions).insert (.attr "host") (.literal "static.example.com"))
      (.route {}))

/-- A request for the host that the inner condition asks for. -/
def staticRequest : Request where
  method := "GET"
  path := "/x"
  attributes := (∅ : Params).insert "host" "static.example.com"

/-- The options are fine, and the route is not left to a decision. Still, a match of it has no
action. -/
theorem action_lost_replacedAction : Options.validate {} = .ok () ∧
    ∃ t ps r, (after {} [(.replace, replacedAction)]).table = .ok t ∧
      t.match? staticRequest = some (0, ps) ∧ ps["action"]? = none ∧
      t.routes[0]? = some r ∧ r.decision = none :=
  ⟨by decide +kernel, exists_of_answeredAction (by decide +kernel)⟩

end Router

end HttpRouting
