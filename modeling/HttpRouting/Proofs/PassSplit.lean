import HttpRouting.Proofs.RouteTable

/-!
# Splitting a declaration over passes

What one pass declares can as well be declared by two passes, the second of which puts its routes
behind or before those of the first. The pass over everything shares one registry, the two passes
have one each, and the second counts its routes from zero.

The proof runs the second half twice: from where the first half has come, and from a fresh registry.
The registry of the first run stays that of the first half with the registry of the second run
behind it (`Registry.Joins`). `Simulates` carries this relation through programs. It asks for runs
without failures: one half may only refuse a name because the other has taken it.

## Main definitions

* `Registry.Joins` — a registry consists of another one and a third one behind it
* `Simulates` — two programs run side by side
* `Table.Agrees` — two tables give the same answers

## Main results

* `Declaration.simulates_run` — a declaration keeps what it starts from out of what it registers
* `Router.declare_split` — one pass, or two in either order, yield tables that agree
-/

namespace HttpRouting

/-! ### Programs side by side -/

section Simulates

variable {σ α α' β β' : Type} {K : σ → Prop} {R : σ → σ → Prop} {V : α → α' → Prop}
  {W : β → β' → Prop}

/-- What is clean after a run of `p` was clean before it, and a successful run of `p` with a clean
end has a successful run of `p'` beside it, with a related value and a related state. -/
structure Simulates (K : σ → Prop) (R : σ → σ → Prop) (V : α → α' → Prop)
    (p : ExceptT Error (StateM σ) α) (p' : ExceptT Error (StateM σ) α') : Prop where
  /-- Nothing becomes clean. -/
  clean : ∀ s, K (p s).2 → K s
  /-- The run beside a run. -/
  agrees : ∀ s s', R s s' → ∀ a t, p s = (.ok a, t) → K t →
    ∃ a' t', p' s' = (.ok a', t') ∧ V a a' ∧ R t t'

theorem Simulates.mono {V' : α → α' → Prop} {p : ExceptT Error (StateM σ) α}
    {p' : ExceptT Error (StateM σ) α'} (h : Simulates K R V p p')
    (hV : ∀ a a', V a a' → V' a a') : Simulates K R V' p p' := by
  refine ⟨h.clean, fun s s' hs a t hp ht => ?_⟩
  obtain ⟨a', t', hp', ha, ht'⟩ := h.agrees s s' hs a t hp ht
  exact ⟨a', t', hp', hV a a' ha, ht'⟩

theorem Simulates.pure {a : α} {a' : α'} (h : V a a') :
    Simulates K R V (Pure.pure a) (Pure.pure a') := by
  refine ⟨fun s hs => hs, fun s s' hs b t hp _ => ?_⟩
  obtain ⟨rfl, rfl⟩ : a = b ∧ s = t := by
    change (Except.ok a, s) = (Except.ok b, t) at hp
    simpa using hp
  exact ⟨a', s', rfl, h, hs⟩

/-- A program that fails has no run to simulate. -/
theorem Simulates.throw (e : Error) (p' : ExceptT Error (StateM σ) α') :
    Simulates K R V (throw e : ExceptT Error (StateM σ) α) p' :=
  ⟨fun _ hs => hs, fun _ _ _ _ _ hp => nomatch congrArg Prod.fst hp⟩

theorem Simulates.bind {p : ExceptT Error (StateM σ) α} {p' : ExceptT Error (StateM σ) α'}
    {f : α → ExceptT Error (StateM σ) β} {f' : α' → ExceptT Error (StateM σ) β'}
    (hp : Simulates K R V p p') (hclean : ∀ a s, K (f a s).2 → K s)
    (hf : ∀ a a', V a a' → Simulates K R W (f a) (f' a')) :
    Simulates K R W (p >>= f) (p' >>= f') := by
  constructor
  · intro s hs
    refine hp.clean s ?_
    rw [bind_apply] at hs
    rcases hps : p s with ⟨e | a, s₁⟩
    · rwa [hps] at hs
    · rw [hps] at hs
      exact hclean a s₁ hs
  · intro s s' hR b t hrun ht
    obtain ⟨a, s₁, hps, hfa⟩ := bind_eq_ok hrun
    -- The state in between is clean, because the end is and nothing becomes clean.
    have hs₁ : K s₁ := hclean a s₁ (by rwa [hfa])
    obtain ⟨a', s₁', hps', ha, hR₁⟩ := hp.agrees s s' hR a s₁ hps hs₁
    obtain ⟨b', t', hfa', hb, hRt⟩ := (hf a a' ha).agrees s₁ s₁' hR₁ b t hfa ht
    refine ⟨b', t', ?_, hb, hRt⟩
    rw [bind_apply, hps']
    exact hfa'

theorem Simulates.mapM {γ : Type} {f f' : γ → ExceptT Error (StateM σ) α} {cs : List γ}
    (hf : ∀ c ∈ cs, Simulates K R (fun _ _ => True) (f c) (f' c)) :
    Simulates K R (fun _ _ => True) (cs.mapM f) (cs.mapM f') := by
  induction cs with
  | nil =>
    rw [List.mapM_nil, List.mapM_nil]
    exact .pure trivial
  | cons c cs ih =>
    have hrest := ih fun c' hc' => hf c' (List.mem_cons_of_mem _ hc')
    have hcons : ∀ a a', Simulates K R (fun _ _ => True)
        (cs.mapM f >>= fun as => Pure.pure (a :: as))
        (cs.mapM f' >>= fun as => Pure.pure (a' :: as)) :=
      fun _ _ => hrest.bind (fun _ _ hs => hs) fun _ _ _ => .pure trivial
    rw [List.mapM_cons, List.mapM_cons]
    exact (hf c List.mem_cons_self).bind (fun a => (hcons a a).clean) fun a a' _ => hcons a a'

theorem Simulates.forM {γ : Type} {f f' : γ → ExceptT Error (StateM σ) PUnit} {cs : List γ}
    (hf : ∀ c ∈ cs, Simulates K R (fun _ _ => True) (f c) (f' c)) :
    Simulates K R (fun _ _ => True) (cs.forM f) (cs.forM f') := by
  induction cs with
  | nil => exact .pure trivial
  | cons c cs ih =>
    have hrest := ih fun c' hc' => hf c' (List.mem_cons_of_mem _ hc')
    exact (hf c List.mem_cons_self).bind (fun _ => hrest.clean) fun _ _ _ => hrest

end Simulates

/-! ### Registries behind each other -/

/-- Routes keep everything but their places. -/
theorem Router.reindex_modify {n i : Nat} {rs : List Route} {f : Route → Route}
    (hf : ∀ (r : Route) (k : Option Nat), f { r with index := k } = { f r with index := k }) :
    reindex n (rs.modify i f) = (reindex n rs).modify i f := by
  refine List.ext_getElem? fun j => ?_
  simp only [getElem?_reindex, List.getElem?_modify]
  split_ifs
  · cases rs[j]? with
    | none => rfl
    | some r => exact congrArg some (hf r _).symm
  · simp

theorem Router.reindex_append (n : Nat) (rs rs' : List Route) :
    reindex n (rs ++ rs') = reindex n rs ++ reindex (n + rs.length) rs' := by
  induction rs generalizing n with
  | nil => rfl
  | cons r rs ih =>
    rw [List.cons_append, reindex, ih, reindex, List.cons_append, List.length_cons,
      Nat.add_right_comm, Nat.add_assoc]

theorem Router.reindex_reindex (n m : Nat) (rs : List Route) :
    reindex n (reindex m rs) = reindex n rs := by
  refine List.ext_getElem? fun j => ?_
  simp [getElem?_reindex, Function.comp_def]

namespace Registry

/-- `g` consists of `base`, and behind it of `f`, which has been made apart from it. -/
structure Joins (base f g : Registry) : Prop where
  /-- The options are the same. -/
  options : g.options = f.options
  /-- The routes of `f` are behind those of `base`. -/
  routes : g.routes = base.routes ++ Router.reindex base.routes.length f.routes
  /-- Names of `f` stand for the routes further back. -/
  named : ∀ name : String, g.named[name]? =
    (f.named[name]?.map (Target.shift base.routes.length)).or base.named[name]?
  /-- No name has been given in both. -/
  disjoint : ∀ name : String, name ∈ f.named → base.named[name]? = none
  /-- The routes of `f` have none of the names of `base`. -/
  names : ∀ r ∈ f.routes, ∀ name, r.name = some name → base.named[name]? = none

variable {base f g g' : Registry}

/-- A registry consists of itself and a fresh one. -/
theorem joins_fresh (g : Registry) : Joins g { options := g.options } g where
  options := rfl
  routes := by simp [Router.reindex]
  named := by simp
  disjoint := by simp
  names := by simp

theorem Joins.length (h : Joins base f g) :
    g.routes.length = f.routes.length + base.routes.length := by
  rw [h.routes, List.length_append, Router.length_reindex, Nat.add_comm]

/-- The route of `f` at an index, found further back. -/
theorem Joins.getElem? (h : Joins base f g) (i : Nat) :
    g.routes[i + base.routes.length]? =
      f.routes[i]?.map fun r => { r with index := some (base.routes.length + i) } := by
  rw [h.routes, List.getElem?_append_right (Nat.le_add_left _ _), Nat.add_sub_cancel,
    Router.getElem?_reindex]

theorem Joins.modify (h : Joins base f g) (i : Nat) {c : Route → Route}
    (hc : ∀ (r : Route) (k : Option Nat), c { r with index := k } = { c r with index := k }) :
    g.routes.modify (i + base.routes.length) c =
      base.routes ++ Router.reindex base.routes.length (f.routes.modify i c) := by
  rw [h.routes, Router.reindex_modify hc, Nat.add_comm]
  exact List.modifyTailIdx_add _ _ _ _

/-- A name that `g` may give is free in both parts. -/
theorem Joins.free (h : Joins base f g) {name : String} (hfree : g.named.contains name = false) :
    f.named.contains name = false ∧ base.named[name]? = none := by
  have hnone := Std.ExtTreeMap.getElem?_eq_none_of_contains_eq_false hfree
  rw [h.named, Option.or_eq_none_iff, Option.map_eq_none_iff] at hnone
  refine ⟨?_, hnone.2⟩
  rw [Std.ExtTreeMap.contains_eq_isSome_getElem?, hnone.1]
  rfl

theorem Joins.register (h : Joins base f g) {r : Route} (hr : r.name = none) :
    Joins base (f.register r) (g.register r) where
  options := h.options
  routes := by
    have hplace : g.routes.length = base.routes.length + f.routes.length := by
      rw [h.length, Nat.add_comm]
    simp only [Registry.register, h.routes, Router.reindex_append, List.append_assoc]
    simp [Router.reindex]
  named := h.named
  disjoint := h.disjoint
  names x hx name hname := by
    rcases List.mem_append.mp hx with hx | hx
    · exact h.names x hx name hname
    · obtain rfl := List.mem_singleton.mp hx
      cases hr.symm.trans hname

theorem Joins.setFixation (h : Joins base f g) (i : Nat) (enabled : Bool) :
    Joins base (f.setFixation i enabled)
      (g.setFixation (i + base.routes.length) enabled) where
  options := h.options
  routes := h.modify i fun _ _ => rfl
  named := h.named
  disjoint := h.disjoint
  names := by
    intro r hr name hname
    obtain ⟨j, hj⟩ := List.mem_iff_getElem?.mp hr
    rw [Registry.setFixation, List.getElem?_modify] at hj
    obtain ⟨r', hr', rfl⟩ := Option.map_eq_some_iff.mp hj
    refine h.names r' (List.mem_of_getElem? hr') name ?_
    split_ifs at hname
    · exact hname
    · exact hname

/-- A name of the part is free in `base`, and stays so when the part gives another free name. -/
theorem Joins.disjoint_insert (h : Joins base f g) {named : Std.ExtTreeMap String Target}
    (hsub : ∀ n : String, n ∈ named → n ∈ f.named) {name : String} {t : Target}
    (hbase : base.named[name]? = none) (n : String) (hn : n ∈ named.insert name t) :
    base.named[n]? = none := by
  rcases Std.ExtTreeMap.mem_insert.mp hn with hcmp | hn
  · obtain rfl : name = n := by simpa using hcmp
    exact hbase
  · exact h.disjoint n (hsub n hn)

theorem Joins.nameRoute? (h : Joins base f g) {i : Nat} {name : String}
    (hnamed : g.nameRoute? (i + base.routes.length) name = .ok g') :
    ∃ f', f.nameRoute? i name = .ok f' ∧ Joins base f' g' := by
  obtain ⟨hempty, hfree, rfl⟩ := nameRoute?_eq_ok_iff.mp hnamed
  obtain ⟨hf, hbase⟩ := h.free hfree
  refine ⟨_, nameRoute?_eq_ok_iff.mpr ⟨hempty, hf, rfl⟩, ?_⟩
  -- In both registries the route has lost the same name, for it differs only in its place.
  have hprevious : (g.routes[i + base.routes.length]?).bind (·.name) =
      (f.routes[i]?).bind (·.name) := by
    rw [h.getElem?]
    cases f.routes[i]? with
    | none => rfl
    | some r => rfl
  constructor
  · exact h.options
  · exact h.modify i fun _ _ => rfl
  · intro n
    simp only [Std.ExtTreeMap.getElem?_insert, getElem?_freed, hprevious]
    split_ifs with hn hname
    · rfl
    · -- The old name of the route is free again in both parts.
      obtain ⟨r, hr, hrname⟩ := Option.bind_eq_some_iff.mp hname
      simp [h.names r (List.mem_of_getElem? hr) n hrname]
    · exact h.named n
  · refine h.disjoint_insert (fun n hn => ?_) hbase
    rw [Std.ExtTreeMap.mem_iff_isSome_getElem?] at hn ⊢
    rw [getElem?_freed] at hn
    split_ifs at hn
    · cases hn
    · exact hn
  · intro r hr n hn
    obtain ⟨j, hj⟩ := List.mem_iff_getElem?.mp hr
    rw [List.getElem?_modify] at hj
    obtain ⟨r', hr', rfl⟩ := Option.map_eq_some_iff.mp hj
    -- The route itself has the new name, and every other route the name that it had.
    split_ifs at hn with hij
    · obtain rfl := Option.some.inj hn
      exact hbase
    · exact h.names r' (List.mem_of_getElem? hr') n hn

theorem Joins.nameDetached? (h : Joins base f g) {r : Route} {name : String}
    (hnamed : g.nameDetached? r name = .ok g') :
    ∃ f', f.nameDetached? r name = .ok f' ∧ Joins base f' g' := by
  obtain ⟨hempty, hfree, rfl⟩ := nameDetached?_eq_ok_iff.mp hnamed
  obtain ⟨hf, hbase⟩ := h.free hfree
  refine ⟨_, nameDetached?_eq_ok_iff.mpr ⟨hempty, hf, rfl⟩, ?_⟩
  constructor
  · exact h.options
  · exact h.routes
  · intro n
    simp only [Std.ExtTreeMap.getElem?_insert]
    split_ifs with hn
    · rfl
    · exact h.named n
  · exact h.disjoint_insert (fun _ hn => hn) hbase
  · exact h.names

end Registry

/-! ### Passes side by side -/

/-- A step of a pass from where `base` is the first part of the registry, and a step of a pass
without that part. -/
abbrev Pass.Simulates {α α' : Type} (base : Registry) (V : α → α' → Prop) (p : Pass α)
    (p' : Pass α') : Prop :=
  HttpRouting.Simulates (fun _ => True) (fun g f => base.Joins f g) V p p'

/-- Behaviors that say the same. -/
def Behavior.Alike (b b' : Behavior) : Prop := b.chain = b'.chain

/-- Resources that stand in the same place. -/
def ResourceScope.Alike (s s' : ResourceScope) : Prop :=
  ∃ c, s.base.Alike c ∧ s' = { s with base := c }

namespace Pass

variable {α α' β β' : Type} {base : Registry} {b b' : Behavior} {V : α → α' → Prop}
  {W : β → β' → Prop}

theorem Simulates.andThen {p : Pass α} {p' : Pass α'} {f : α → Pass β} {f' : α' → Pass β'}
    (hp : p.Simulates base V p') (hf : ∀ a a', V a a' → (f a).Simulates base W (f' a')) :
    (p >>= f).Simulates base W (p' >>= f') :=
  hp.bind (fun _ _ _ => trivial) hf

theorem simulates_refuse (e : DeclarationError) (p' : Pass α') :
    (refuse e : Pass α).Simulates base V p' := .throw _ _

/-- Whatever comes after a refused declaration is not run. -/
theorem simulates_refuse_andThen (e : DeclarationError) (f : α → Pass β) (p' : Pass β') :
    ((refuse e : Pass α) >>= f).Simulates base W p' :=
  ⟨fun _ _ => trivial, fun _ _ _ _ _ hrun => nomatch congrArg Prod.fst hrun⟩

theorem simulates_child (hb : b.Alike b') (cs : Conditions) (ps : Params) :
    (b.child cs ps).Simulates base Behavior.Alike (b'.child cs ps) := by
  refine ⟨fun _ _ => trivial, fun g f hjoins a t hrun _ => ?_⟩
  obtain ⟨hvalue, rfl⟩ := Prod.mk.inj hrun
  obtain rfl := Except.ok.inj hvalue
  refine ⟨_, _, rfl, ?_, ⟨hjoins.options, hjoins.routes, hjoins.named, hjoins.disjoint,
    hjoins.names⟩⟩
  change Node.ofConditions g.options cs ps :: b.chain =
    Node.ofConditions f.options cs ps :: b'.chain
  rw [hjoins.options, hb]

theorem simulates_update {c c' : Registry → Except DeclarationError Registry}
    (h : ∀ f g g', base.Joins f g → c g = .ok g' → ∃ f', c' f = .ok f' ∧ base.Joins f' g') :
    (update c).Simulates base (fun _ _ => True) (update c') := by
  refine ⟨fun _ _ => trivial, fun g f hjoins a t hrun _ => ?_⟩
  rw [update_apply] at hrun
  cases hc : c g with
  | error e =>
    rw [hc] at hrun
    cases hrun
  | ok g' =>
    rw [hc] at hrun
    obtain ⟨-, rfl⟩ := Prod.mk.inj hrun
    obtain ⟨f', hc', hjoins'⟩ := h f g g' hjoins hc
    exact ⟨(), f', by rw [update_apply, hc'], trivial, hjoins'⟩

/-- Behaviors that say the same describe the same route. It has no name yet. -/
theorem simulates_route (hb : b.Alike b') (ps : Params) (decision : Option Decision)
    (isDefault : Bool) :
    (b.route ps decision isDefault).Simulates base (fun r r' => r = r' ∧ r.name = none)
      (b'.route ps decision isDefault) := by
  have described : ∀ c c' : Behavior, c.Alike c' →
      Pass.Simulates base (fun r r' => r = r' ∧ r.name = none)
        (ofBuild (Route.build c.chain decision isDefault))
        (ofBuild (Route.build c'.chain decision isDefault)) := by
    intro c c' hc
    rw [← hc]
    cases hr : Route.build c.chain decision isDefault with
    | error e => exact .throw _ _
    | ok r =>
      obtain ⟨tests, params, -, -, hfields⟩ := Route.build_eq_ok_iff.mp hr
      exact .pure ⟨rfl, by rw [hfields]⟩
  rw [route_eq, route_eq]
  split_ifs
  · exact described b b' hb
  · exact (simulates_child hb ∅ ps).andThen described

theorem simulates_register (hb : b.Alike b') (ps : Params) (decision : Option Decision)
    (isDefault : Bool) :
    (b.register ps decision isDefault).Simulates base (fun i i' => i = i' + base.routes.length)
      (b'.register ps decision isDefault) := by
  unfold Behavior.register
  refine (simulates_route hb ps decision isDefault).andThen ?_
  rintro r r' ⟨rfl, hname⟩
  refine ⟨fun _ _ => trivial, fun g f hjoins i t hrun _ => ?_⟩
  obtain ⟨hi, rfl⟩ := Prod.mk.inj hrun
  obtain rfl := Except.ok.inj hi
  exact ⟨_, _, rfl, hjoins.length, hjoins.register hname⟩

theorem simulates_registerKind (hb : b.Alike b') (ps : Params) (k : RouteKind) :
    (b.registerKind ps k).Simulates base (fun i i' => i = i' + base.routes.length)
      (b'.registerKind ps k) := by
  cases k with
  | plain => exact simulates_register hb ps none false
  | deferred d => exact simulates_register hb ps (some d) false
  | default =>
    exact (simulates_child hb _ _).andThen fun _ _ hc => simulates_register hc ps none true

theorem alike_mapNode (hb : b.Alike b') (f : Node → Node) : (b.mapNode f).Alike (b'.mapNode f) := by
  unfold Behavior.Alike Behavior.mapNode at *
  cases hchain : b.chain with
  | nil =>
    rw [hchain] at hb
    rw [← hb]
    exact hchain.trans hb
  | cons n outer =>
    rw [hchain] at hb
    rw [← hb]

theorem simulates_inNamespace (hb : b.Alike b') (name : String) :
    (b.inNamespace name).Simulates base Behavior.Alike (b'.inNamespace name) := by
  unfold Behavior.inNamespace
  dsimp only
  split_ifs
  · exact simulates_refuse _ _
  · exact (simulates_child hb ∅ ∅).andThen fun _ _ hc => .pure (alike_mapNode hc _)

/-! ### Resources side by side -/

variable {s s' : ResourceScope}

theorem simulates_action (hs : s.Alike s') (path : String) (method : Condition)
    (action : String) :
    (s.action path method action).Simulates base (fun _ _ => True)
      (s'.action path method action) := by
  obtain ⟨c, hc, rfl⟩ := hs
  refine (simulates_child hc _ _).andThen fun _ _ hd => ?_
  exact (simulates_register hd _ none false).mono fun _ _ _ => trivial

theorem simulates_generation (hs : s.Alike s') (path action name : String) :
    (s.generation path action name).Simulates base (fun _ _ => True)
      (s'.generation path action name) := by
  obtain ⟨c, hc, rfl⟩ := hs
  refine (simulates_child hc _ _).andThen fun d d' hd => ?_
  refine (simulates_route hd _ none false).andThen ?_
  rintro r r' ⟨rfl, -⟩
  exact simulates_update fun f g g' hjoins hnamed => hjoins.nameDetached? hnamed

theorem simulates_actions (hs : s.Alike s') (path name : String)
    (as : List (String × MethodSet)) :
    (s.actions path name as).Simulates base (fun _ _ => True) (s'.actions path name as) := by
  refine Simulates.mapM fun ⟨action, methods⟩ _ => ?_
  refine (simulates_action hs _ _ _).andThen fun i i' _ => ?_
  exact (simulates_generation hs _ _ _).andThen fun _ _ _ => .pure trivial

theorem simulates_require (e : Except DeclarationError Unit) :
    (Behavior.require e).Simulates base (fun _ _ => True) (Behavior.require e) := by
  cases e with
  | ok => exact .pure trivial
  | error e => exact simulates_refuse e _

theorem simulates_resourceScope (hb : b.Alike b') (name : String) (o : ResourceOptions) :
    (b.resourceScope name o).Simulates base ResourceScope.Alike (b'.resourceScope name o) := by
  -- Namespaces and controllers are read off the chain, and the chains are the same.
  have hnamespace : b'.resourceNamespace o = b.resourceNamespace o := by
    unfold Behavior.resourceNamespace
    rw [← hb]
  have hcontroller : ∀ n, b'.resourceController name o n = b.resourceController name o n := by
    intro n
    unfold Behavior.resourceController
    rw [← hb]
  unfold Behavior.resourceScope
  rw [hnamespace]
  dsimp only
  split_ifs
  · exact simulates_refuse_andThen _ _ _
  · cases b.resourceNamespace o with
    | error e => exact simulates_refuse _ _
    | ok scope =>
      obtain ⟨scopeName, inPath⟩ := scope
      refine (simulates_child hb _ _).andThen fun c c' hc => .pure ?_
      rw [hcontroller, ← hb]
      cases scopeName with
      | none => exact ⟨c', hc, rfl⟩
      | some n => exact ⟨_, alike_mapNode hc _, rfl⟩

theorem simulates_resources (hb : b.Alike b') (name : String) (o : ResourceOptions) :
    (b.resources name o).Simulates base (fun x x' => x.2.Alike x'.2) (b'.resources name o) := by
  refine (simulates_require _).andThen fun _ _ _ => ?_
  refine (simulates_require _).andThen fun _ _ _ => ?_
  refine (simulates_require _).andThen fun _ _ _ => ?_
  refine (simulates_resourceScope hb name o).andThen fun s s' hs => ?_
  obtain ⟨c, hc, rfl⟩ := hs
  refine (simulates_actions ⟨c, hc, rfl⟩ _ _ _).andThen fun _ _ _ => ?_
  refine (simulates_actions ⟨c, hc, rfl⟩ _ _ _).andThen fun _ _ _ => ?_
  refine Simulates.andThen (.mapM fun _ _ => simulates_action ⟨c, hc, rfl⟩ _ _ _)
    fun _ _ _ => ?_
  refine Simulates.andThen (.forM fun _ _ => simulates_generation ⟨c, hc, rfl⟩ _ _ _)
    fun _ _ _ => ?_
  exact (simulates_child hc _ _).andThen fun _ _ hd => .pure (alike_mapNode hd _)

theorem simulates_resource (hb : b.Alike b') (name : String) (o : ResourceOptions) :
    (b.resource name o).Simulates base (fun x x' => x.2.Alike x'.2) (b'.resource name o) := by
  unfold Behavior.resource
  dsimp only
  split
  · exact simulates_refuse_andThen _ _ _
  split
  · exact simulates_refuse_andThen _ _ _
  · refine (simulates_require _).andThen fun _ _ _ => ?_
    refine (simulates_resourceScope hb name o).andThen fun s s' hs => ?_
    obtain ⟨c, hc, rfl⟩ := hs
    refine (simulates_actions ⟨c, hc, rfl⟩ _ _ _).andThen fun _ _ _ => ?_
    refine Simulates.andThen (.mapM fun _ _ => simulates_action ⟨c, hc, rfl⟩ _ _ _)
      fun _ _ _ => ?_
    refine Simulates.andThen (.forM fun _ _ => simulates_generation ⟨c, hc, rfl⟩ _ _ _)
      fun _ _ _ => ?_
    exact .pure (alike_mapNode hc _)

end Pass

/-! ### Declarations side by side -/

/-- No failure has been caught. -/
def Progress.Quiet (s : Progress) : Prop := ∀ e, Entry.failed e ∉ s.log

/-- Whether an entry reports a failure. -/
def Entry.isFailed : Entry → Bool
  | failed _ => true
  | _ => false

instance (s : Progress) : Decidable s.Quiet :=
  decidable_of_iff (∀ e ∈ s.log, e.isFailed = false) <| by
    constructor
    · intro h e he
      cases h _ he
    · intro h e he
      cases e with
      | failed e => exact absurd he (h e)
      | _ => rfl

/-- A step of a declaration from where `base` is the first part of the registry, and a step without
that part. -/
abbrev Step.Simulates {α α' : Type} (base : Registry) (V : α → α' → Prop) (p : Step α)
    (p' : Step α') : Prop :=
  HttpRouting.Simulates Progress.Quiet (fun s s' => base.Joins s'.registry s.registry) V p p'

namespace Step

variable {α α' : Type} {base : Registry} {V : α → α' → Prop}

theorem simulates_ofPass {p : Pass α} {p' : Pass α'} (h : p.Simulates base V p') :
    Step.Simulates base V (ofPass p) (ofPass p') := by
  refine ⟨fun s hs => hs, fun s s' hjoins a t hrun _ => ?_⟩
  obtain ⟨hvalue, rfl⟩ := Prod.mk.inj hrun
  obtain ⟨a', f', hrun', ha, hjoins'⟩ :=
    h.agrees s.registry s'.registry hjoins a _ (Prod.ext hvalue rfl) trivial
  refine ⟨a', { s' with registry := f' }, ?_, ha, hjoins'⟩
  unfold ofPass
  rw [hrun']

theorem simulates_report (e e' : Entry) :
    Step.Simulates base (fun _ _ => True) (report e) (report e') := by
  refine ⟨fun s hs e he => hs e (List.mem_append_left _ he), fun s s' hjoins a t hrun _ => ?_⟩
  obtain ⟨-, rfl⟩ := Prod.mk.inj hrun
  exact ⟨(), _, rfl, trivial, hjoins⟩

/-- A failure that is caught is reported, so in a quiet run there is none. -/
theorem simulates_attempt {p p' : Step Unit}
    (h : Step.Simulates base (fun _ _ => True) p p') :
    Step.Simulates base (fun _ _ => True) (attempt p) (attempt p') := by
  constructor
  · intro s hs
    refine h.clean s ?_
    unfold attempt at hs
    rcases hp : p s with ⟨e | a, t⟩
    · rw [hp] at hs
      exact fun e he => hs e (List.mem_append_left _ he)
    · rw [hp] at hs
      exact hs
  · intro s s' hjoins a t hrun ht
    unfold attempt at hrun ⊢
    rcases hp : p s with ⟨e | a₁, t₁⟩
    · rw [hp] at hrun
      obtain ⟨-, rfl⟩ := Prod.mk.inj hrun
      exact absurd (List.mem_append_right _ List.mem_cons_self) (ht e)
    · rw [hp] at hrun
      obtain ⟨-, rfl⟩ := Prod.mk.inj hrun
      obtain ⟨a', t', hp', -, hjoins'⟩ := h.agrees s s' hjoins a₁ t₁ hp ht
      exact ⟨(), t', by rw [hp'], trivial, hjoins'⟩

end Step

namespace Declaration

open Step

variable {base : Registry} {b b' : Behavior}

/-- What follows the registration of a route simulates itself, with the route further back. -/
theorem simulates_settings (spec : RouteSpec) (i : Nat) :
    Step.Simulates base (fun j j' => j = j' + base.routes.length)
      (do
        Step.report (.registered (i + base.routes.length))
        if let some enabled := spec.fixation then
          Step.ofPass (modify (·.setFixation (i + base.routes.length) enabled))
        spec.names.forM fun name =>
          Step.ofPass (Pass.update (·.nameRoute? (i + base.routes.length) name))
        return i + base.routes.length)
      (do
        Step.report (.registered i)
        if let some enabled := spec.fixation then
          Step.ofPass (modify (·.setFixation i enabled))
        spec.names.forM fun name => Step.ofPass (Pass.update (·.nameRoute? i name))
        return i) := by
  -- Names come last, whether session fixation is set or not.
  have naming : Step.Simulates base (fun j j' => j = j' + base.routes.length)
      (do
        spec.names.forM fun name =>
          Step.ofPass (Pass.update (·.nameRoute? (i + base.routes.length) name))
        return i + base.routes.length)
      (do
        spec.names.forM fun name => Step.ofPass (Pass.update (·.nameRoute? i name))
        return i) := by
    refine Simulates.bind (.forM fun name _ => ?_) (fun _ _ hs => hs) fun _ _ _ => .pure rfl
    exact simulates_ofPass (Pass.simulates_update fun f g g' hjoins hnamed =>
      hjoins.nameRoute? hnamed)
  cases spec.fixation with
  | none => exact (simulates_report _ _).bind (fun _ => naming.clean) fun _ _ _ => naming
  | some enabled =>
    have fixing : Pass.Simulates base (fun _ _ => True)
        (modify (·.setFixation (i + base.routes.length) enabled) : Pass Unit)
        (modify (·.setFixation i enabled) : Pass Unit) := by
      refine ⟨fun _ _ => trivial, fun g f hjoins a t hrun _ => ?_⟩
      obtain ⟨-, rfl⟩ := Prod.mk.inj hrun
      exact ⟨(), _, rfl, trivial, hjoins.setFixation i enabled⟩
    have rest := (simulates_ofPass fixing).bind (fun _ => naming.clean) fun _ _ _ => naming
    exact (simulates_report _ _).bind (fun _ => rest.clean) fun _ _ _ => rest

theorem simulates_runRoute (hb : b.Alike b') (spec : RouteSpec) :
    Step.Simulates base (fun i i' => i = i' + base.routes.length) (runRoute spec b)
      (runRoute spec b') := by
  unfold runRoute
  refine (simulates_ofPass (Pass.simulates_registerKind hb spec.params spec.kind)).bind ?_ ?_
  · -- Whether a run is quiet does not depend on what it is run beside.
    exact fun i => (@simulates_settings { options := {} } spec i).clean
  · rintro i i' rfl
    exact simulates_settings spec i'

/-- Whether a declaration simulates itself on behaviors that say the same. -/
def SelfSimulates (base : Registry) (d : Declaration) : Prop :=
  ∀ {b b' : Behavior}, b.Alike b' → Step.Simulates base (fun _ _ => True) (d.run b) (d.run b')

/-- Stepping into behaviors that say the same. -/
theorem SelfSimulates.inside {d : Declaration} (h : d.SelfSimulates base) {p p' : Pass Behavior}
    (hp : p.Simulates base Behavior.Alike p') :
    Step.Simulates base (fun _ _ => True) (do d.run (← ofPass p)) (do d.run (← ofPass p')) :=
  (simulates_ofPass hp).bind (fun c => (h (b := c) rfl).clean) fun _ _ hc => h hc

/-- Stepping into a resource and reporting it. -/
theorem SelfSimulates.insideResource {d : Declaration} (h : d.SelfSimulates base)
    {p p' : Pass (List Nat × Behavior)}
    (hp : p.Simulates base (fun x x' => x.2.Alike x'.2) p') :
    Step.Simulates base (fun _ _ => True)
      (do let (is, inner) ← ofPass p
          d.run inner
          Step.report (.resource is))
      (do let (is, inner) ← ofPass p'
          d.run inner
          Step.report (.resource is)) := by
  have finishing : ∀ x x' : List Nat × Behavior, x.2.Alike x'.2 →
      Step.Simulates base (fun _ _ => True) (do d.run x.2; Step.report (.resource x.1))
        (do d.run x'.2; Step.report (.resource x'.1)) := by
    intro x x' hx
    have hreport : Step.Simulates base (fun _ _ => True) (report (.resource x.1))
        (report (.resource x'.1)) := simulates_report _ _
    exact (h hx).bind (fun _ => hreport.clean) fun _ _ _ => hreport
  exact (simulates_ofPass hp).bind (fun x => (finishing x x rfl).clean) finishing

/-- A program that first reports a route, if there is one, and then goes on. -/
theorem simulates_reporting {d : Declaration} (hd : Step.Simulates base (fun _ _ => True) (d.run b)
    (d.run b')) {r r' : Option Route} (hr : r.isSome = r'.isSome) :
    Step.Simulates base (fun _ _ => True)
      (do if let some r := r then Step.report (.route r)
          d.run b)
      (do if let some r' := r' then Step.report (.route r')
          d.run b') := by
  cases r with
  | none =>
    obtain rfl : r' = none := by simpa using hr.symm
    exact hd
  | some r =>
    obtain ⟨r', rfl⟩ := Option.isSome_iff_exists.mp hr.symm
    exact (simulates_report _ _).bind (fun _ => hd.clean) fun _ _ _ => hd

/-- A declaration runs from where `base` is the first part of the registry as it does without that
part: it never reads what has been registered but to refuse a name. -/
theorem simulates_run (d : Declaration) : d.SelfSimulates base := by
  intro b b' hb
  -- The declaration inside a step runs on the behaviors that the step has made on either side, so
  -- both behaviors vary in the induction.
  induction d generalizing b b' with
  | skip => exact .pure trivial
  | seq d e ihd ihe => exact (ihd hb).bind (fun _ => (ihe hb).clean) fun _ _ _ => ihe hb
  | attempt d ih => exact simulates_attempt (ih hb)
  | matchPath p d ih => exact SelfSimulates.inside ih (Pass.simulates_child hb _ _)
  | matchConditions cs d ih => exact SelfSimulates.inside ih (Pass.simulates_child hb _ _)
  | matchWith p cs d ih => exact SelfSimulates.inside ih (Pass.simulates_child hb _ _)
  | withParams ps d ih => exact SelfSimulates.inside ih (Pass.simulates_child hb _ _)
  | inNamespace n d ih => exact SelfSimulates.inside ih (Pass.simulates_inNamespace hb n)
  | route spec =>
    exact (simulates_runRoute hb spec).bind (fun _ _ hs => hs) fun _ _ _ => .pure trivial
  | routeThen spec d ih =>
    have reading : Step.Simulates base (fun s s' => base.Joins s'.registry s.registry)
        (get : Step Progress) (get : Step Progress) := by
      refine ⟨fun _ hs => hs, fun s s' hjoins a t hrun _ => ?_⟩
      obtain ⟨hvalue, rfl⟩ := Prod.mk.inj hrun
      obtain rfl := Except.ok.inj hvalue
      exact ⟨_, _, rfl, hjoins, hjoins⟩
    refine (simulates_runRoute hb spec).bind (fun i => ?_) ?_
    · exact fun s hs => (simulates_reporting (ih hb) rfl).clean s hs
    · rintro i i' rfl
      refine reading.bind (fun s => (simulates_reporting (ih hb) rfl).clean) fun s s' hjoins => ?_
      -- The route is there on both sides, or on neither.
      refine simulates_reporting (ih hb) ?_
      rw [hjoins.getElem?, Option.isSome_map]
  | resources n o d ih => exact SelfSimulates.insideResource ih (Pass.simulates_resources hb n o)
  | resource n o d ih => exact SelfSimulates.insideResource ih (Pass.simulates_resource hb n o)
  | inspect => exact simulates_report _ _

theorem run_all_append (A B : List Declaration) (b : Behavior) :
    (all (A ++ B)).run b = (do (all A).run b; (all B).run b) := by
  induction A with
  | nil => exact (pure_bind _ _).symm
  | cons d ds ih =>
    change (do d.run b; (all (ds ++ B)).run b) = (do (do d.run b; (all ds).run b); (all B).run b)
    rw [ih, bind_assoc]

/-- What a quiet pass over two lists registers consists of what passes over each register. -/
theorem runPass_all_append {o : Options} {A B : List Declaration} {s : Progress}
    (h : (all (A ++ B)).runPass o = (.ok (), s)) (quiet : s.Quiet) :
    ∃ sA sB, (all A).runPass o = (.ok (), sA) ∧ (all B).runPass o = (.ok (), sB) ∧
      sA.registry.Joins sB.registry s.registry := by
  unfold runPass at h ⊢
  rw [run_all_append] at h
  obtain ⟨⟨⟩, sA, hA, hrest⟩ := bind_eq_ok h
  have hoptions : sA.registry.options = o := by
    have hframe := ((all A).extends_runPass o).1.frame.1
    rwa [runPass, hA] at hframe
  -- The second half begins behind the registry of the first half, with nothing of its own yet.
  have start : sA.registry.Joins { options := o } sA.registry := by
    simpa only [hoptions] using Registry.joins_fresh sA.registry
  obtain ⟨a, sB, hB, -, hjoins⟩ := ((all B).simulates_run rfl).agrees sA
    { registry := { options := o } } start () s hrest quiet
  exact ⟨sA, sB, hA, hB, hjoins⟩

end Declaration

/-- Two tables have the same routes in the same order, the same routes by name and the same default
route, and answer alike. Only their counters may differ. -/
structure Table.Agrees (t t' : Table) : Prop where
  /-- The routes are the same, also in what they are called and in their places. -/
  routes : t.routes = t'.routes
  /-- Names lead to the same routes. -/
  named : ∀ name : String, t.named[name]? = t'.named[name]?
  /-- The default routes are the same. -/
  default : t.defaultRoute? = t'.defaultRoute?
  /-- Requests are answered alike. -/
  match? : ∀ q, t.match? q = t'.match? q
  /-- The same URLs are generated by name. -/
  generate : ∀ name s fallback, t.generate name s fallback = t'.generate name s fallback
  /-- The same URLs are generated by parameters, also in the form of the default route. -/
  generateForParams : ∀ ps fallback,
    t.generateForParams ps fallback = t'.generateForParams ps fallback

theorem Table.agrees_compile (o : Options) (routes : List Route)
    (named : Std.ExtTreeMap String Target) (m m' : Metrics) :
    (compile o routes named m).Agrees (compile o routes named m') :=
  ⟨rfl, fun _ => rfl, rfl, fun _ => rfl, fun _ _ _ => rfl, fun _ _ => rfl⟩

namespace Router

/-- Passes all succeed and leave a table. -/
def Yields (r : Router) (passes : List (Placement × Declaration)) (t : Table) : Prop :=
  (∀ pass ∈ passes, pass.2.succeeds r.options = true) ∧ (r.declareAll passes).table = .ok t

theorem runPass_of_succeeds {o : Options} {d : Declaration} (h : d.succeeds o = true) :
    d.runPass o = (.ok (), (d.runPass o).2) := by
  unfold Declaration.succeeds at h
  rcases hrun : d.runPass o with ⟨e | ⟨⟩, s⟩
  · rw [hrun] at h
    cases h
  · rfl

theorem succeeds_of_runPass {o : Options} {d : Declaration} {s : Progress}
    (h : d.runPass o = (.ok (), s)) : d.succeeds o = true := by
  rw [Declaration.succeeds, h]
  rfl

variable {o : Options} {d e : Declaration} {s t : Progress}

theorem declareAll_cons_of_runPass {r : Router} (ho : r.options = o)
    (hd : d.runPass o = (.ok (), s)) (p : Placement) (passes : List (Placement × Declaration)) :
    r.declareAll ((p, d) :: passes) = (r.install p s.registry).declareAll passes := by
  subst ho
  rw [declareAll_cons, declare_of_succeeds (succeeds_of_runPass hd), hd]

/-- The table after a pass is made of the routes in their places. -/
theorem table_install (r : Router) (p : Placement) (g : Registry) :
    (r.install p g).table = .ok (.compile r.options (r.place p g).routes (r.place p g).named
      (r.place p g).metrics) := by
  cases p <;> rfl

theorem yields_replace (hd : d.runPass o = (.ok (), s)) :
    Yields { options := o } [(.replace, d)]
      (.compile o (reindex 0 s.registry.routes) s.registry.named s.registry.metrics) := by
  refine ⟨by simpa using succeeds_of_runPass hd, ?_⟩
  rw [declareAll_cons_of_runPass (r := { options := o }) rfl hd]
  exact table_install _ _ _

/-- The table after two passes, the second of which puts its routes behind or before the others. -/
theorem yields_replace_then (hd : d.runPass o = (.ok (), s)) (he : e.runPass o = (.ok (), t))
    (p : Placement) :
    let r : Router := Router.place { options := o } .replace s.registry
    Yields { options := o } [(.replace, d), (p, e)]
      (.compile o (r.place p t.registry).routes (r.place p t.registry).named
        (r.place p t.registry).metrics) := by
  refine ⟨by simpa using ⟨succeeds_of_runPass hd, succeeds_of_runPass he⟩, ?_⟩
  rw [declareAll_cons_of_runPass (r := { options := o }) rfl hd,
    declareAll_cons_of_runPass (options_install { options := o } .replace s.registry) he]
  refine (table_install _ _ _).trans ?_
  cases p <;> rfl

end Router

/-- The names of a registry are those of its parts, whichever is asked first. -/
theorem Registry.Joins.union {base f g : Registry} (h : base.Joins f g) :
    base.named ∪ Router.shiftNames base.routes.length f.named = g.named ∧
      Router.shiftNames base.routes.length f.named ∪ base.named = g.named := by
  constructor
  · refine Std.ExtTreeMap.ext_getElem? fun name => ?_
    rw [Std.ExtTreeMap.getElem?_union, Router.getElem?_shiftNames, h.named]
  · refine Std.ExtTreeMap.ext_getElem? fun name => ?_
    rw [Std.ExtTreeMap.getElem?_union, Router.getElem?_shiftNames, h.named]
    cases hname : f.named[name]? with
    | none => simp
    | some t =>
      have hmem : name ∈ f.named := by
        rw [Std.ExtTreeMap.mem_iff_isSome_getElem?, hname]
        rfl
      simp [h.disjoint name hmem]

/-- A declaration may be split over two passes that put their routes behind or before each other, as
long as no error is raised on the way, not even one that is caught. -/
theorem Router.declare_split {o : Options} {A B : List Declaration} {s : Progress}
    (h : (Declaration.all (A ++ B)).runPass o = (.ok (), s)) (quiet : s.Quiet) :
    ∃ t t' t'', Yields { options := o } [(.replace, .all (A ++ B))] t ∧
      Yields { options := o } [(.replace, .all A), (.append, .all B)] t' ∧
      Yields { options := o } [(.replace, .all B), (.prepend, .all A)] t'' ∧
      t'.Agrees t ∧ t''.Agrees t := by
  obtain ⟨sA, sB, hA, hB, hjoins⟩ := Declaration.runPass_all_append h quiet
  have hroutes : reindex 0 s.registry.routes = reindex 0 sA.registry.routes ++
      reindex sA.registry.routes.length sB.registry.routes := by
    rw [hjoins.routes, reindex_append, Nat.zero_add, reindex_reindex]
  obtain ⟨hbehind, hbefore⟩ := hjoins.union
  refine ⟨_, _, _, yields_replace h, yields_replace_then hA hB .append,
    yields_replace_then hB hA .prepend, ?_, ?_⟩
  -- Names of the second half are asked first here, and last below.
  · simp only [Router.place, length_reindex]
    rw [hroutes, hbehind]
    exact Table.agrees_compile o _ _ _ _
  · simp only [Router.place, reindex_reindex]
    rw [hroutes, hbefore]
    exact Table.agrees_compile o _ _ _ _

/-- A route that changes its name. -/
def Router.renamed : List Declaration :=
  [.matchPath (.literal "/a/:id") (.route { names := ["a", "b"] })]

/-- A route inside two paths. -/
def Router.nested : List Declaration :=
  [.matchPath (.literal "/c") (.matchPath (.literal "/d")
    (.route { names := ["c"], fixation := some true }))]

theorem Router.declare_split_renamed_nested :
    (∃ s, (Declaration.all (renamed ++ nested)).runPass {} = (.ok (), s) ∧ s.Quiet) ∧
    ∃ t t' t'', Yields { options := {} } [(.replace, .all (renamed ++ nested))] t ∧
      Yields { options := {} } [(.replace, .all renamed), (.append, .all nested)] t' ∧
      Yields { options := {} } [(.replace, .all nested), (.prepend, .all renamed)] t'' ∧
      t'.Agrees t ∧ t''.Agrees t := by
  have success : (Declaration.all (renamed ++ nested)).succeeds {} = true := by decide +kernel
  have quiet : ((Declaration.all (renamed ++ nested)).runPass {}).2.Quiet := by decide +kernel
  have run := runPass_of_succeeds success
  exact ⟨⟨_, run, quiet⟩, declare_split run quiet⟩

end HttpRouting
