import HttpRouting.Declaration
import HttpRouting.Proofs.RouteBuild
import Mathlib.Logic.Relation
import Mathlib.Tactic.SplitIfs

/-!
# How a pass changes its registry

A declaration may run through any number of steps, but all of them change the registry in one of
five ways. This file says so once: `Registry.Change` lists the ways, and whatever a declaration
does is a sequence of them, also when it fails on the way. An invariant of registries is then shown
for the five changes only. The steps into behaviors and resources, and those that register routes,
use three of them, which leave the routes that are there as they are.

## Main definitions

* `Chain.Declared` — the chains that declarations make from the root
* `Registry.Growth`, `Registry.Change` — the changes that only add something, and all changes
* `Registry.Growths`, `Registry.Changes` — sequences of changes
* `Registry.Arises` — the registries that a pass goes through
* `Leads` — where the runs of a program with a state lead

## Main results

* `Declaration.builds_run` — a declaration makes a sequence of changes and adds to its log
* `Declaration.extends_runPass` — so does a pass, which starts from a fresh registry
* `Registry.Arises.run` — a declaration leads from one registry of a pass to another
-/

namespace HttpRouting

/-- The chains that declarations make from the root by adding nodes, and by marking the innermost
node with a namespace or with the resources around it. -/
inductive Chain.Declared (o : Options) : Chain → Prop where
  /-- The chain of the root. -/
  | root : Declared o (Behavior.root o).chain
  /-- A chain with one more node. -/
  | child (cs : Conditions) (ps : Params) {c : Chain} (h : Declared o c) :
      Declared o (Node.ofConditions o cs ps :: c)
  /-- A chain whose innermost node has been marked. -/
  | marked (scope : Option NamespaceScope) (parents : Option (List String)) {n : Node} {c : Chain}
      (h : Declared o (n :: c)) : Declared o ({ n with scope, parents } :: c)

namespace Registry

/-- One change to a registry that leaves its routes as they are. -/
inductive Growth : Registry → Registry → Prop where
  /-- A behavior has been counted. -/
  | behavior (g : Registry) :
      Growth g { g with metrics := { g.metrics with behaviors := g.metrics.behaviors + 1 } }
  /-- The route that a chain describes has been registered. -/
  | register (g : Registry) {c : Chain} {decision : Option Decision} {isDefault : Bool} {r : Route}
      (declared : c.Declared g.options) (built : Route.build c decision isDefault = .ok r) :
      Growth g (g.register r)
  /-- A route that only generates has been given a name. -/
  | nameDetached {g g' : Registry} {c : Chain} {r : Route} {name : String}
      (declared : c.Declared g.options) (built : Route.build c none false = .ok r)
      (named : g.nameDetached? r name = .ok g') : Growth g g'

/-- One change to a registry. -/
inductive Change : Registry → Registry → Prop where
  /-- Something has been added. -/
  | growth {g g' : Registry} (h : Growth g g') : Change g g'
  /-- A registered route has been given a name. -/
  | nameRoute {g g' : Registry} {i : Nat} {name : String} (lt : i < g.routes.length)
      (named : g.nameRoute? i name = .ok g') : Change g g'
  /-- Session fixation has been allowed or forbidden for a route. -/
  | fixation (g : Registry) (i : Nat) (enabled : Bool) : Change g (g.setFixation i enabled)

/-- A sequence of changes that leave the routes as they are. -/
abbrev Growths : Registry → Registry → Prop := Relation.ReflTransGen Growth

/-- A sequence of changes. -/
abbrev Changes : Registry → Registry → Prop := Relation.ReflTransGen Change

/-- The registries that a pass under the given options goes through. It starts with a fresh one and
makes one change after the other, in any order: a route may be named long after it has been
registered, whatever has registered it. -/
def Arises (o : Options) (g : Registry) : Prop := ({ options := o } : Registry).Changes g

theorem Growths.changes {g g' : Registry} (h : g.Growths g') : g.Changes g' :=
  Relation.ReflTransGen.mono (fun _ _ hgrowth => Change.growth hgrowth) g g' h

variable {g g' : Registry}

theorem claim?_eq_ok_iff {name : String} :
    g.claim? name = .ok g' ↔ name.isEmpty = false ∧ g.named.contains name = false ∧
      g' = { g with metrics := { g.metrics with named := g.metrics.named + 1 } } := by
  unfold claim?
  split_ifs with hempty htaken
  · simp [hempty]
  · simp [htaken]
  · rw [Except.ok.injEq]
    simp only [Bool.not_eq_true] at hempty htaken
    exact ⟨fun h => ⟨hempty, htaken, h.symm⟩, fun h => h.2.2.symm⟩

/-- The names without the one that the route at an index has. -/
def freed (g : Registry) (i : Nat) : Std.ExtTreeMap String Target :=
  match (g.routes[i]?).bind (·.name) with
  | some previous => g.named.erase previous
  | none => g.named

theorem getElem?_freed (g : Registry) (i : Nat) (n : String) :
    (g.freed i)[n]? =
      if (g.routes[i]?).bind (·.name) = some n then none else g.named[n]? := by
  unfold freed
  cases (g.routes[i]?).bind (·.name) with
  | none => rfl
  | some previous =>
    refine Std.ExtTreeMap.getElem?_erase.trans ?_
    simp only [Std.compare_eq_iff_eq, Option.some.injEq]

/-- What a route's new name does to a registry. The name is free, the route loses its old one. -/
theorem nameRoute?_eq_ok_iff {i : Nat} {name : String} :
    g.nameRoute? i name = .ok g' ↔ name.isEmpty = false ∧ g.named.contains name = false ∧
      g' = { g with
        metrics := { g.metrics with named := g.metrics.named + 1 }
        routes := g.routes.modify i fun r => { r with name := some name }
        named := (g.freed i).insert name (.registered i) } := by
  unfold nameRoute?
  constructor
  · intro h
    obtain ⟨claimed, hclaim, hnamed⟩ := except_bind_eq_ok.mp h
    obtain ⟨hempty, hfree, rfl⟩ := claim?_eq_ok_iff.mp hclaim
    exact ⟨hempty, hfree, (Except.ok.inj hnamed).symm⟩
  · rintro ⟨hempty, hfree, rfl⟩
    exact except_bind_eq_ok.mpr ⟨_, claim?_eq_ok_iff.mpr ⟨hempty, hfree, rfl⟩, rfl⟩

theorem nameDetached?_eq_ok_iff {r : Route} {name : String} :
    g.nameDetached? r name = .ok g' ↔ name.isEmpty = false ∧ g.named.contains name = false ∧
      g' = { g with
        metrics := { g.metrics with named := g.metrics.named + 1 }
        named := g.named.insert name (.detached { r with name := some name }) } := by
  unfold nameDetached?
  constructor
  · intro h
    obtain ⟨claimed, hclaim, hnamed⟩ := except_bind_eq_ok.mp h
    obtain ⟨hempty, hfree, rfl⟩ := claim?_eq_ok_iff.mp hclaim
    exact ⟨hempty, hfree, (Except.ok.inj hnamed).symm⟩
  · rintro ⟨hempty, hfree, rfl⟩
    exact except_bind_eq_ok.mpr ⟨_, claim?_eq_ok_iff.mpr ⟨hempty, hfree, rfl⟩, rfl⟩

/-- No change touches the options or takes a route away. -/
theorem Change.frame (h : Change g g') :
    g'.options = g.options ∧ g.routes.length ≤ g'.routes.length := by
  cases h with
  | growth h =>
    cases h with
    | behavior => exact ⟨rfl, Nat.le_refl _⟩
    | register => simp [Registry.register]
    | nameDetached _ _ named =>
      obtain ⟨-, -, rfl⟩ := nameDetached?_eq_ok_iff.mp named
      simp
  | nameRoute _ named =>
    obtain ⟨-, -, rfl⟩ := nameRoute?_eq_ok_iff.mp named
    simp
  | fixation => simp [setFixation]

theorem Changes.frame (h : g.Changes g') :
    g'.options = g.options ∧ g.routes.length ≤ g'.routes.length := by
  induction h with
  | refl => exact ⟨rfl, Nat.le_refl _⟩
  | tail _ hchange ih =>
    obtain ⟨hoptions, hlength⟩ := hchange.frame
    exact ⟨hoptions.trans ih.1, Nat.le_trans ih.2 hlength⟩

end Registry


/-! ### Where programs lead

Programs that register routes have a state and may fail. A failure keeps the state, so what is said
about the state holds for every run, and what is said about the value for those that give one. -/

section Leads

variable {σ α β : Type} {R : σ → σ → Prop} {P : σ → Prop}

/-- Every run from a state with `P` ends in a state that `R` relates to the first one, and a value
that it gives meets `Q`. -/
def Leads (R : σ → σ → Prop) (P : σ → Prop) (p : ExceptT Error (StateM σ) α) (Q : α → Prop) :
    Prop :=
  ∀ s, P s → R s (p s).2 ∧ ∀ a, (p s).1 = .ok a → Q a

theorem bind_apply (p : ExceptT Error (StateM σ) α) (f : α → ExceptT Error (StateM σ) β) (s : σ) :
    (p >>= f) s =
      match p s with
      | (.ok a, s') => f a s'
      | (.error e, s') => (.error e, s') := by
  simp only [bind, ExceptT.bind, ExceptT.mk, StateT.bind]
  rcases p s with ⟨_ | _, s'⟩
  · rfl
  · rfl

/-- A program that succeeds goes through parts that do. -/
theorem bind_eq_ok {p : ExceptT Error (StateM σ) α} {f : α → ExceptT Error (StateM σ) β}
    {s s'' : σ} {b : β} (h : (p >>= f) s = (.ok b, s'')) :
    ∃ a s', p s = (.ok a, s') ∧ f a s' = (.ok b, s'') := by
  rw [bind_apply] at h
  rcases hp : p s with ⟨e | a, s'⟩
  · rw [hp] at h
    cases h
  · rw [hp] at h
    exact ⟨a, s', rfl, h⟩

/-- A program that fails fails in its first part, or in the second one where the first one has
led. -/
theorem bind_eq_error {p : ExceptT Error (StateM σ) α} {f : α → ExceptT Error (StateM σ) β}
    {s s'' : σ} {e : Error} (h : (p >>= f) s = (.error e, s'')) :
    p s = (.error e, s'') ∨ ∃ a s', p s = (.ok a, s') ∧ f a s' = (.error e, s'') := by
  rw [bind_apply] at h
  rcases hp : p s with ⟨e' | a, s'⟩
  · rw [hp] at h
    obtain ⟨he, rfl⟩ := Prod.mk.inj h
    exact .inl (by rw [Except.error.inj he])
  · rw [hp] at h
    exact .inr ⟨a, s', rfl, h⟩

theorem Leads.pure [Std.Refl R] {Q : α → Prop} {a : α} (h : Q a) :
    Leads R P (Pure.pure a) Q := by
  intro s _
  refine ⟨Std.Refl.refl s, fun b hb => ?_⟩
  obtain rfl : a = b := Except.ok.inj hb
  exact h

theorem Leads.throw [Std.Refl R] {Q : α → Prop} (e : Error) :
    Leads R P (throw e : ExceptT Error (StateM σ) α) Q := by
  intro s _
  exact ⟨Std.Refl.refl s, fun b hb => nomatch hb⟩

/-- One program after another, where `R` keeps the condition `P` on the state. -/
theorem Leads.bind [IsTrans σ R] (stable : ∀ s s', R s s' → P s → P s') {Q : α → Prop}
    {S : β → Prop} {p : ExceptT Error (StateM σ) α} {f : α → ExceptT Error (StateM σ) β}
    (hp : Leads R P p Q) (hf : ∀ a, Q a → Leads R P (f a) S) : Leads R P (p >>= f) S := by
  intro s hs
  obtain ⟨hR, hQ⟩ := hp s hs
  rw [bind_apply]
  -- A failure of the first program ends the run where that program has led.
  rcases hps : p s with ⟨e | a, s'⟩
  · rw [hps] at hR
    exact ⟨hR, fun b hb => nomatch hb⟩
  · rw [hps] at hR hQ
    obtain ⟨hR', hS⟩ := hf a (hQ a rfl) s' (stable s s' hR hs)
    exact ⟨IsTrans.trans _ _ _ hR hR', hS⟩

theorem Leads.mapM [Std.Refl R] [IsTrans σ R] (stable : ∀ s s', R s s' → P s → P s')
    {f : α → ExceptT Error (StateM σ) β} {as : List α}
    (hf : ∀ a ∈ as, Leads R P (f a) fun _ => True) : Leads R P (as.mapM f) fun _ => True := by
  induction as with
  | nil =>
    rw [List.mapM_nil]
    exact .pure trivial
  | cons a as ih =>
    rw [List.mapM_cons]
    refine (hf a List.mem_cons_self).bind stable fun b _ => ?_
    exact (ih fun a' ha' => hf a' (List.mem_cons_of_mem _ ha')).bind stable fun bs _ =>
      .pure trivial

theorem Leads.forM [Std.Refl R] [IsTrans σ R] (stable : ∀ s s', R s s' → P s → P s')
    {f : α → ExceptT Error (StateM σ) PUnit} {as : List α}
    (hf : ∀ a ∈ as, Leads R P (f a) fun _ => True) : Leads R P (as.forM f) fun _ => True := by
  induction as with
  | nil => exact .pure trivial
  | cons a as ih =>
    exact (hf a List.mem_cons_self).bind stable fun _ _ =>
      ih fun a' ha' => hf a' (List.mem_cons_of_mem _ ha')

end Leads

/-! ### Steps of a pass -/

instance : Std.Refl Registry.Changes := ⟨fun _ => .refl⟩

instance : Std.Refl Registry.Growths := ⟨fun _ => .refl⟩

/-- A step of a pass under given options adds something to its registry, and its value meets
`Q`. -/
abbrev Pass.Builds {α : Type} (o : Options) (p : Pass α) (Q : α → Prop) : Prop :=
  Leads Registry.Growths (·.options = o) p Q

/-- A behavior that a declaration has reached. -/
def Behavior.Declared (o : Options) (b : Behavior) : Prop := b.chain.Declared o

namespace Pass

open Registry

variable {α β : Type} {o : Options} {b : Behavior} {Q : α → Prop} {S : β → Prop}

theorem Builds.andThen {p : Pass α} {f : α → Pass β} (hp : p.Builds o Q)
    (hf : ∀ a, Q a → (f a).Builds o S) : (p >>= f).Builds o S :=
  Leads.bind (fun _ _ h ho => h.changes.frame.1.trans ho) hp hf

theorem Builds.mapM {f : α → Pass β} {as : List α}
    (hf : ∀ a ∈ as, (f a).Builds o fun _ => True) : Pass.Builds o (as.mapM f) fun _ => True :=
  Leads.mapM (fun _ _ h ho => h.changes.frame.1.trans ho) hf

theorem Builds.forM {f : α → Pass Unit} {as : List α}
    (hf : ∀ a ∈ as, (f a).Builds o fun _ => True) : Pass.Builds o (as.forM f) fun _ => True :=
  Leads.forM (fun _ _ h ho => h.changes.frame.1.trans ho) hf

theorem builds_refuse (e : DeclarationError) : (refuse e : Pass α).Builds o Q := .throw _

theorem builds_child (hb : b.Declared o) (cs : Conditions) (ps : Params) :
    (b.child cs ps).Builds o (·.Declared o) := by
  rintro g rfl
  refine ⟨.single (.behavior g), fun c hc => ?_⟩
  obtain rfl := Except.ok.inj hc
  exact .child cs ps hb

theorem update_apply (f : Registry → Except DeclarationError Registry) (g : Registry) :
    update f g = match f g with
      | .ok g' => (.ok (), g')
      | .error e => (.error (.declaration e), g) := by
  unfold update
  rw [bind_apply]
  change (match f g with | .ok g => set g | .error e => refuse e : Pass Unit) g = _
  cases f g with
  | ok g' => rfl
  | error e => rfl

theorem builds_update {f : Registry → Except DeclarationError Registry}
    (hf : ∀ g g', g.options = o → f g = .ok g' → Growth g g') :
    (update f).Builds o fun _ => True := by
  intro g hg
  rw [update_apply]
  cases hfg : f g with
  | ok g' => exact ⟨.single (hf g g' hg hfg), fun _ _ => trivial⟩
  | error e => exact ⟨.refl, fun _ _ => trivial⟩

/-- The step that answers with a route, unless it could not be built. -/
def ofBuild (built : Except PatternError Route) : Pass Route :=
  match built with
  | .ok r => return r
  | .error e => throw (.pattern e)

theorem route_eq (b : Behavior) (ps : Params) (decision : Option Decision) (isDefault : Bool) :
    b.route ps decision isDefault =
      if ps.isEmpty then ofBuild (Route.build b.chain decision isDefault)
      else b.child ∅ ps >>= fun c => ofBuild (Route.build c.chain decision isDefault) := by
  unfold Behavior.route
  dsimp only
  split_ifs <;> rfl

/-- The route of a behavior is the one that a declared chain describes. -/
theorem builds_route (hb : b.Declared o) (ps : Params) (decision : Option Decision)
    (isDefault : Bool) :
    (b.route ps decision isDefault).Builds o fun r =>
      ∃ c : Chain, c.Declared o ∧ Route.build c decision isDefault = .ok r := by
  have described : ∀ d : Behavior, d.Declared o →
      (ofBuild (Route.build d.chain decision isDefault)).Builds o fun r =>
        ∃ c : Chain, c.Declared o ∧ Route.build c decision isDefault = .ok r := by
    intro d hd
    cases hr : Route.build d.chain decision isDefault with
    | ok r => exact .pure ⟨_, hd, hr⟩
    | error e => exact .throw _
  rw [route_eq]
  split_ifs
  · exact described b hb
  · exact (builds_child hb ∅ ps).andThen described

theorem builds_register (hb : b.Declared o) (ps : Params) (decision : Option Decision)
    (isDefault : Bool) : (b.register ps decision isDefault).Builds o fun _ => True := by
  unfold Behavior.register
  refine (builds_route hb ps decision isDefault).andThen fun r ⟨c, hc, hr⟩ => ?_
  rintro g rfl
  exact ⟨.single (.register g hc hr), fun _ _ => trivial⟩

theorem builds_defaultRoutes (hb : b.Declared o) (ps : Params) :
    (b.defaultRoutes ps).Builds o fun _ => True :=
  (builds_child hb _ _).andThen fun _ hc => builds_register hc ps none true

theorem builds_registerKind (hb : b.Declared o) (ps : Params) (k : RouteKind) :
    (b.registerKind ps k).Builds o fun _ => True := by
  cases k with
  | plain => exact builds_register hb ps none false
  | deferred d => exact builds_register hb ps (some d) false
  | default => exact builds_defaultRoutes hb ps

/-- Marking the innermost node with a namespace or with resources keeps a behavior declared. -/
theorem declared_mapNode (hb : b.Declared o) {f : Node → Node}
    (hf : ∀ n, ∃ scope parents, f n = { n with scope, parents }) : (b.mapNode f).Declared o := by
  unfold Behavior.Declared Behavior.mapNode at *
  split
  · next n outer hchain =>
    rw [hchain] at hb
    obtain ⟨scope, parents, hn⟩ := hf n
    rw [hn]
    exact .marked scope parents hb
  · exact hb

theorem builds_inNamespace (hb : b.Declared o) (name : String) :
    (b.inNamespace name).Builds o (·.Declared o) := by
  unfold Behavior.inNamespace
  dsimp only
  split_ifs
  · exact builds_refuse _
  · exact (builds_child hb ∅ ∅).andThen fun c hc =>
      .pure (declared_mapNode hc fun n => ⟨_, n.parents, rfl⟩)

/-! ### Resources -/

variable {s : ResourceScope}

theorem builds_action (hs : s.base.Declared o) (path : String) (method : Condition)
    (action : String) : (s.action path method action).Builds o fun _ => True :=
  (builds_child hs _ _).andThen fun _ hc => builds_register hc _ none false

theorem builds_generation (hs : s.base.Declared o) (path action name : String) :
    (s.generation path action name).Builds o fun _ => True := by
  refine (builds_child hs _ _).andThen fun c hc => ?_
  refine (builds_route hc _ none false).andThen fun r ⟨d, hd, hr⟩ => ?_
  exact builds_update fun g g' ho hnamed => .nameDetached (ho ▸ hd) hr hnamed

theorem builds_actions (hs : s.base.Declared o) (path name : String)
    (as : List (String × MethodSet)) : (s.actions path name as).Builds o fun _ => True := by
  refine Builds.mapM fun ⟨action, methods⟩ _ => ?_
  refine (builds_action hs _ _ _).andThen fun i _ => ?_
  exact (builds_generation hs _ _ _).andThen fun _ _ => .pure trivial

theorem builds_require (e : Except DeclarationError Unit) :
    (Behavior.require e).Builds o fun _ => True := by
  cases e with
  | ok => exact .pure trivial
  | error e => exact builds_refuse e

/-- A refused declaration ends the step, whatever comes after it. -/
theorem builds_refuse_andThen (e : DeclarationError) (f : α → Pass β) :
    ((refuse e : Pass α) >>= f).Builds o S :=
  (builds_refuse (Q := fun _ => False) e).andThen fun _ h => h.elim

theorem builds_resourceScope (hb : b.Declared o) (name : String) (ro : ResourceOptions) :
    (b.resourceScope name ro).Builds o (·.base.Declared o) := by
  unfold Behavior.resourceScope
  dsimp only
  split_ifs
  · exact builds_refuse_andThen _ _
  · split
    · exact builds_refuse _
    · next scopeName inPath _ =>
      refine (builds_child hb _ _).andThen fun c hc => .pure ?_
      cases scopeName with
      | none => exact hc
      | some n => exact declared_mapNode hc fun n => ⟨_, n.parents, rfl⟩

theorem builds_resources (hb : b.Declared o) (name : String) (ro : ResourceOptions) :
    (b.resources name ro).Builds o (·.2.Declared o) := by
  refine (builds_require _).andThen fun _ _ => ?_
  refine (builds_require _).andThen fun _ _ => ?_
  refine (builds_require _).andThen fun _ _ => ?_
  refine (builds_resourceScope hb name ro).andThen fun s hs => ?_
  refine (builds_actions hs _ _ _).andThen fun _ _ => ?_
  refine (builds_actions hs _ _ _).andThen fun _ _ => ?_
  refine (Builds.mapM fun _ _ => builds_action hs _ _ _).andThen fun _ _ => ?_
  refine (Builds.forM fun _ _ => builds_generation hs _ _ _).andThen fun _ _ => ?_
  exact (builds_child hs _ _).andThen fun c hc =>
    .pure (declared_mapNode hc fun n => ⟨n.scope, _, rfl⟩)

theorem builds_resource (hb : b.Declared o) (name : String) (ro : ResourceOptions) :
    (b.resource name ro).Builds o (·.2.Declared o) := by
  unfold Behavior.resource
  dsimp only
  split
  · exact builds_refuse_andThen _ _
  split
  · exact builds_refuse_andThen _ _
  · refine (builds_require _).andThen fun _ _ => ?_
    refine (builds_resourceScope hb name ro).andThen fun s hs => ?_
    refine (builds_actions hs _ _ _).andThen fun _ _ => ?_
    refine (Builds.mapM fun _ _ => builds_action hs _ _ _).andThen fun _ _ => ?_
    refine (Builds.forM fun _ _ => builds_generation hs _ _ _).andThen fun _ _ => ?_
    exact .pure (declared_mapNode hs fun n => ⟨n.scope, _, rfl⟩)

/-- The index of a route that has just been registered is an index of the registry. -/
theorem lt_length_of_register {ps : Params} {decision : Option Decision} {isDefault : Bool}
    {g g' : Registry} {i : Nat} (h : b.register ps decision isDefault g = (.ok i, g')) :
    i < g'.routes.length := by
  obtain ⟨r, g₁, -, hend⟩ := bind_eq_ok h
  obtain ⟨hi, rfl⟩ := Prod.mk.inj hend
  obtain rfl := Except.ok.inj hi
  simp [Registry.register]

theorem lt_length_of_registerKind {ps : Params} {k : RouteKind} {g g' : Registry} {i : Nat}
    (h : b.registerKind ps k g = (.ok i, g')) : i < g'.routes.length := by
  cases k with
  | plain => exact lt_length_of_register h
  | deferred d => exact lt_length_of_register h
  | default =>
    obtain ⟨c, g₁, -, hregister⟩ := bind_eq_ok h
    exact lt_length_of_register hregister

end Pass

/-! ### Declarations -/

/-- What a program does to a declaration's progress: the registry changes, and the log grows. -/
def Progress.Extends (s s' : Progress) : Prop :=
  s.registry.Changes s'.registry ∧ s.log <+: s'.log

instance : Std.Refl Progress.Extends := ⟨fun _ => ⟨.refl, List.prefix_rfl⟩⟩

instance : IsTrans Progress Progress.Extends :=
  ⟨fun _ _ _ h h' => ⟨h.1.trans h'.1, h.2.trans h'.2⟩⟩

namespace Step

variable {α β : Type} {o : Options} {b : Behavior} {Q : α → Prop} {S : β → Prop}

/-- A step of a declaration under given options extends its progress, and its value meets `Q`. -/
abbrev Builds (o : Options) (p : Step α) (Q : α → Prop) : Prop :=
  Leads Progress.Extends (·.registry.options = o) p Q

theorem Builds.andThen {p : Step α} {f : α → Step β} (hp : Builds o p Q)
    (hf : ∀ a, Q a → Builds o (f a) S) : Builds o (p >>= f) S :=
  Leads.bind (fun _ _ h ho => h.1.frame.1.trans ho) hp hf

theorem leads_ofPass {P : Registry → Prop} {p : Pass α}
    (h : Leads Registry.Changes P p Q) :
    Leads Progress.Extends (fun s => P s.registry) (ofPass p) Q :=
  fun s hs => ⟨⟨(h s.registry hs).1, List.prefix_rfl⟩, (h s.registry hs).2⟩

theorem builds_ofPass {p : Pass α} (h : p.Builds o Q) : Builds o (ofPass p) Q :=
  leads_ofPass fun g hg => ⟨(h g hg).1.changes, (h g hg).2⟩

theorem leads_report {P : Progress → Prop} (e : Entry) :
    Leads Progress.Extends P (report e) fun _ => True :=
  fun _ _ => ⟨⟨.refl, List.prefix_append _ _⟩, fun _ _ => trivial⟩

theorem builds_report (e : Entry) : Builds o (report e) fun _ => True := leads_report e

theorem builds_attempt {p : Step Unit} (h : Builds o p fun _ => True) :
    Builds o (attempt p) fun _ => True := by
  intro s hs
  have hp := (h s hs).1
  unfold attempt
  split
  · next s' hps =>
    rw [hps] at hp
    exact ⟨hp, fun _ _ => trivial⟩
  · next e s' hps =>
    rw [hps] at hp
    exact ⟨IsTrans.trans _ _ _ hp ((leads_report (P := fun _ => True) _ s' trivial).1),
      fun _ _ => trivial⟩

end Step

namespace Declaration

open Step

variable {o : Options} {b : Behavior}

/-- What follows the registration of a route makes changes, because the route is there to be
named. -/
theorem leads_settings (spec : RouteSpec) (i : Nat) :
    Leads Progress.Extends (i < ·.registry.routes.length)
      (do
        Step.report (.registered i)
        if let some enabled := spec.fixation then
          Step.ofPass (modify (·.setFixation i enabled))
        spec.names.forM fun name => Step.ofPass (Pass.update (·.nameRoute? i name))
        return i)
      fun _ => True := by
  -- Naming needs the route. It is there when the settings begin, and no change takes a route away.
  have stable : ∀ s s' : Progress, s.Extends s' → i < s.registry.routes.length →
      i < s'.registry.routes.length := fun _ _ h hi => Nat.lt_of_lt_of_le hi h.1.frame.2
  have naming : Leads Progress.Extends (i < ·.registry.routes.length)
      (spec.names.forM fun name => Step.ofPass (Pass.update (·.nameRoute? i name)))
      fun _ => True := by
    refine Leads.forM stable fun name _ => leads_ofPass (P := (i < ·.routes.length)) ?_
    intro g hi
    rw [Pass.update_apply]
    cases hnamed : g.nameRoute? i name with
    | ok g' => exact ⟨.single (.nameRoute hi hnamed), fun _ _ => trivial⟩
    | error e => exact ⟨.refl, fun _ _ => trivial⟩
  refine (leads_report _).bind stable fun _ _ => ?_
  cases spec.fixation with
  | none => exact naming.bind stable fun _ _ => .pure trivial
  | some enabled =>
    refine Leads.bind stable (Q := fun _ => True) ?_ fun _ _ =>
      naming.bind stable fun _ _ => .pure trivial
    exact fun s _ => ⟨⟨.single (.fixation _ i enabled), List.prefix_rfl⟩, fun _ _ => trivial⟩

theorem builds_runRoute (hb : b.Declared o) (spec : RouteSpec) :
    Step.Builds o (runRoute spec b) fun _ => True := by
  intro s hs
  unfold runRoute
  rw [bind_apply]
  have hroute := builds_ofPass (Pass.builds_registerKind hb spec.params spec.kind) s hs
  -- The run itself is kept, because it shows that the index which it gives is one of the registry
  -- in which the settings begin.
  rcases hrun : Step.ofPass (b.registerKind spec.params spec.kind) s with ⟨e | i, s'⟩
  · rw [hrun] at hroute
    exact ⟨hroute.1, fun _ _ => trivial⟩
  · rw [hrun] at hroute
    have hi : i < s'.registry.routes.length := by
      have hfst : (b.registerKind spec.params spec.kind s.registry).1 = .ok i :=
        congrArg Prod.fst hrun
      have hsnd : (b.registerKind spec.params spec.kind s.registry).2 = s'.registry :=
        congrArg (fun x => x.2.registry) hrun
      exact Pass.lt_length_of_registerKind (Prod.ext hfst hsnd)
    exact ⟨IsTrans.trans _ _ _ hroute.1 (leads_settings spec i s' hi).1, fun _ _ => trivial⟩

/-- A declaration that runs on a declared behavior makes changes to its registry and adds to its
log, whether it succeeds or fails. -/
theorem builds_run (d : Declaration) (hb : b.Declared o) :
    Step.Builds o (d.run b) fun _ => True := by
  -- The declaration inside a step runs on the behavior that the step has made, so the behavior
  -- varies in the induction.
  induction d generalizing b with
  | skip => exact .pure trivial
  | seq d e ihd ihe => exact (ihd hb).andThen fun _ _ => ihe hb
  | attempt d ih => exact builds_attempt (ih hb)
  | matchPath p d ih =>
    exact (builds_ofPass (Pass.builds_child hb _ _)).andThen fun _ hc => ih hc
  | matchConditions cs d ih =>
    exact (builds_ofPass (Pass.builds_child hb _ _)).andThen fun _ hc => ih hc
  | matchWith p cs d ih =>
    exact (builds_ofPass (Pass.builds_child hb _ _)).andThen fun _ hc => ih hc
  | withParams ps d ih =>
    exact (builds_ofPass (Pass.builds_child hb _ _)).andThen fun _ hc => ih hc
  | inNamespace n d ih =>
    exact (builds_ofPass (Pass.builds_inNamespace hb n)).andThen fun _ hc => ih hc
  | route spec => exact (builds_runRoute hb spec).andThen fun _ _ => .pure trivial
  | routeThen spec d ih =>
    refine (builds_runRoute hb spec).andThen fun i _ => ?_
    -- The progress is only read here.
    refine Builds.andThen (Q := fun _ => True) (fun s _ => ⟨Std.Refl.refl s, fun _ _ => trivial⟩)
      fun s _ => ?_
    cases s.registry.routes[i]? with
    | none => exact ih hb
    | some r => exact (builds_report _).andThen fun _ _ => ih hb
  | resources n ro d ih =>
    refine (builds_ofPass (Pass.builds_resources hb n ro)).andThen fun ⟨is, inner⟩ hinner => ?_
    exact (ih hinner).andThen fun _ _ => builds_report _
  | resource n ro d ih =>
    refine (builds_ofPass (Pass.builds_resource hb n ro)).andThen fun ⟨is, inner⟩ hinner => ?_
    exact (ih hinner).andThen fun _ _ => builds_report _
  | inspect => exact builds_report _

/-- A pass extends the progress that it starts with, whether it succeeds or fails. -/
theorem extends_runPass (d : Declaration) (o : Options) :
    Progress.Extends { registry := { options := o } } (d.runPass o).2 :=
  (builds_run d .root _ rfl).1

end Declaration

/-- A declaration that is run at some point of a pass leads to another point of it, whether it
succeeds or fails. -/
theorem Registry.Arises.run {o : Options} {s : Progress} (h : s.registry.Arises o) (d : Declaration)
    {b : Behavior} (hb : b.Declared o) : (d.run b s).2.registry.Arises o :=
  h.trans (Declaration.builds_run d hb s h.frame.1).1.1

/-- What a pass over a declaration ends with arises in a pass. -/
theorem Declaration.arises_runPass (d : Declaration) (o : Options) :
    (d.runPass o).2.registry.Arises o :=
  Registry.Arises.run (s := { registry := { options := o } }) .refl d .root

end HttpRouting
