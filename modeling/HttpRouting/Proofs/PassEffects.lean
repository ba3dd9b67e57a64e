import HttpRouting.Proofs.PassSplit

/-!
# What a pass adds

The steps of a pass that declare resources register routes and give names to routes that only
generate. Such a step succeeds exactly if its names are free, that is, not empty, not taken and not
given twice, and then it has added its routes and its names and done nothing else. Steps that follow
each other add what each of them adds.

## Main definitions

* `Registry.Free` — names that may be given one after the other
* `Registry.Adds` — a registry has been extended by routes and names
* `Pass.Declares` — a step adds routes and names, if the names are free
* `Table.Offers` — a table answers from some routes, and knows some names

## Main results

* `Pass.Declares.andThen`, `Pass.declares_mapM`, `Pass.declares_forM` — steps that follow each other
* `Router.exists_yields_of_declares`, `Router.offers_of_yields` — the table after such a pass
-/

namespace HttpRouting

/-- Routes by the names that they are given. -/
abbrev NamedRoutes := List (String × Route)

/-- What names stand for once some routes that only generate have been named. -/
def addNames (named : Std.ExtTreeMap String Target) (ns : NamedRoutes) :
    Std.ExtTreeMap String Target :=
  ns.foldl (fun m p => m.insert p.1 (.detached { p.2 with name := some p.1 })) named

theorem contains_addNames (named : Std.ExtTreeMap String Target) (ns : NamedRoutes)
    (name : String) :
    (addNames named ns).contains name = true ↔
      name ∈ ns.map (·.1) ∨ named.contains name = true := by
  induction ns generalizing named with
  | nil => simp [addNames]
  | cons p ns ih =>
    refine (ih (named.insert p.1 _)).trans ?_
    rw [Std.ExtTreeMap.contains_insert, Bool.or_eq_true, List.map_cons, List.mem_cons, beq_iff_eq,
      Std.compare_eq_iff_eq, eq_comm (a := p.1), or_assoc (a := name = p.1), or_left_comm]

theorem getElem?_addNames_of_not_mem {named : Std.ExtTreeMap String Target} {ns : NamedRoutes}
    {name : String} (h : name ∉ ns.map (·.1)) : (addNames named ns)[name]? = named[name]? := by
  induction ns generalizing named with
  | nil => rfl
  | cons p ns ih =>
    rw [List.map_cons, List.mem_cons, not_or] at h
    refine (ih h.2).trans ?_
    rw [Std.ExtTreeMap.getElem?_insert, if_neg (by simpa using Ne.symm h.1)]

theorem getElem?_addNames_of_mem {named : Std.ExtTreeMap String Target} {ns : NamedRoutes}
    (hns : (ns.map (·.1)).Nodup) {p : String × Route} (hp : p ∈ ns) :
    (addNames named ns)[p.1]? = some (.detached { p.2 with name := some p.1 }) := by
  induction ns generalizing named with
  | nil => cases hp
  | cons p' ns ih =>
    obtain ⟨hfresh, hns⟩ := List.nodup_cons.mp hns
    rcases List.mem_cons.mp hp with rfl | hp
    · exact (getElem?_addNames_of_not_mem hfresh).trans Std.ExtTreeMap.getElem?_insert_self
    · exact ih hns hp

namespace Registry

/-- Names may be given one after the other: none is empty or taken, and none comes twice. -/
structure Free (g : Registry) (names : List String) : Prop where
  /-- No name comes twice. -/
  nodup : names.Nodup
  /-- No name is empty. -/
  ne_empty : ∀ name ∈ names, name ≠ ""
  /-- No name is taken. -/
  untaken : ∀ name ∈ names, g.named.contains name = false

/-- Some routes and names have been added. -/
structure Adds (g : Registry) (rs : List Route) (ns : NamedRoutes) (g' : Registry) : Prop where
  /-- The options are kept. -/
  options : g'.options = g.options
  /-- The routes stand behind those that have been there. -/
  routes : g'.routes = g.routes ++ Router.reindex g.routes.length rs
  /-- The names stand for routes that only generate. -/
  named : g'.named = addNames g.named ns

variable {g g₁ g' : Registry} {rs rs' : List Route} {ns ns' : NamedRoutes} {names : List String}

theorem adds_nothing (g : Registry) (m : Metrics) : g.Adds [] [] { g with metrics := m } where
  options := rfl
  routes := (List.append_nil _).symm
  named := rfl

theorem Adds.trans (h : g.Adds rs ns g₁) (h' : g₁.Adds rs' ns' g') :
    g.Adds (rs ++ rs') (ns ++ ns') g' where
  options := h'.options.trans h.options
  routes := by
    rw [h'.routes, h.routes, List.length_append, Router.length_reindex, Router.reindex_append,
      List.append_assoc]
  named := by rw [h'.named, h.named, addNames, addNames, addNames, List.foldl_append]

theorem Free.left {names' : List String} (h : g.Free (names ++ names')) : g.Free names where
  nodup := (List.nodup_append.mp h.nodup).1
  ne_empty name hname := h.ne_empty name (List.mem_append_left _ hname)
  untaken name hname := h.untaken name (List.mem_append_left _ hname)

/-- Names are free if the first ones are and the others are free once those have been given. -/
theorem Adds.free_append_iff (h : g.Adds rs ns g₁) :
    g.Free (ns.map (·.1) ++ names) ↔ g.Free (ns.map (·.1)) ∧ g₁.Free names := by
  have huntaken : ∀ name, g₁.named.contains name = false ↔
      name ∉ ns.map (·.1) ∧ g.named.contains name = false := by
    intro name
    rw [← Bool.not_eq_true, ← Bool.not_eq_true, h.named, contains_addNames, not_or]
  constructor
  · intro hfree
    obtain ⟨-, hnames, hdisjoint⟩ := List.nodup_append.mp hfree.nodup
    refine ⟨hfree.left, ⟨hnames, fun name hname => ?_, fun name hname => ?_⟩⟩
    · exact hfree.ne_empty name (List.mem_append_right _ hname)
    · refine (huntaken name).mpr ⟨fun hmem => hdisjoint name hmem name hname rfl, ?_⟩
      exact hfree.untaken name (List.mem_append_right _ hname)
  · rintro ⟨hfree, hfree'⟩
    refine ⟨List.nodup_append.mpr ⟨hfree.nodup, hfree'.nodup, ?_⟩,
      List.forall_mem_append.mpr ⟨hfree.ne_empty, hfree'.ne_empty⟩,
      List.forall_mem_append.mpr ⟨hfree.untaken, fun name hname => ?_⟩⟩
    · rintro name hname _ hname' rfl
      exact ((huntaken name).mp (hfree'.untaken name hname')).1 hname
    · exact ((huntaken name).mp (hfree'.untaken name hname)).2

end Registry

namespace Pass

variable {α β : Type} {rs rs' : List Route} {ns ns' : NamedRoutes} {Q : α → Prop} {S : β → Prop}
  {g g' : Registry}

/-- On default options, a step adds some routes and names and gives a value with `Q`, if the names
are free, and fails otherwise. -/
structure Declares (p : Pass α) (rs : List Route) (ns : NamedRoutes) (Q : α → Prop) : Prop where
  /-- The step succeeds if its names are free. -/
  adds : ∀ g : Registry, g.options = {} → g.Free (ns.map (·.1)) →
    ∃ a g', p g = (.ok a, g') ∧ Q a ∧ g.Adds rs ns g'
  /-- It fails otherwise. -/
  free : ∀ (g : Registry) a g', g.options = {} → p g = (.ok a, g') → g.Free (ns.map (·.1))

theorem Declares.of_eq_ok {p : Pass α} (h : p.Declares rs ns Q) (ho : g.options = {}) {a : α}
    (hp : p g = (.ok a, g')) : Q a ∧ g.Adds rs ns g' := by
  obtain ⟨a', g₁, hp', hQ, hadds⟩ := h.adds g ho (h.free g a g' ho hp)
  obtain ⟨heq, rfl⟩ := Prod.mk.inj (hp.symm.trans hp')
  obtain rfl := Except.ok.inj heq
  exact ⟨hQ, hadds⟩

/-- A step that only counts something. -/
theorem declares_of_eq {p : Pass α} (h : ∀ g : Registry, g.options = {} →
    ∃ a m, p g = (.ok a, { g with metrics := m }) ∧ Q a) : p.Declares [] [] Q where
  adds g ho _ := by
    obtain ⟨a, m, hp, ha⟩ := h g ho
    exact ⟨a, _, hp, ha, g.adds_nothing m⟩
  free _ _ _ _ _ := ⟨List.nodup_nil, nofun, nofun⟩

theorem declares_pure {a : α} (h : Q a) : (Pure.pure a : Pass α).Declares [] [] Q :=
  declares_of_eq fun g _ => ⟨a, g.metrics, rfl, h⟩

/-- One step after another. -/
theorem Declares.andThen {p : Pass α} {f : α → Pass β} (hp : p.Declares rs ns Q)
    (hf : ∀ a, Q a → (f a).Declares rs' ns' S) :
    (p >>= f).Declares (rs ++ rs') (ns ++ ns') S where
  adds g ho hfree := by
    -- What the first step adds takes none of the names that the second one gives.
    rw [List.map_append] at hfree
    obtain ⟨a, g₁, hrun, ha, hadds⟩ := hp.adds g ho hfree.left
    obtain ⟨b, g', hrun', hb, hadds'⟩ := (hf a ha).adds g₁ (hadds.options.trans ho)
      (hadds.free_append_iff.mp hfree).2
    refine ⟨b, g', ?_, hb, hadds.trans hadds'⟩
    rw [bind_apply, hrun]
    exact hrun'
  free g b g' ho h := by
    obtain ⟨a, g₁, hrun, hrun'⟩ := bind_eq_ok h
    obtain ⟨ha, hadds⟩ := hp.of_eq_ok ho hrun
    rw [List.map_append, hadds.free_append_iff]
    exact ⟨hp.free g a g₁ ho hrun, (hf a ha).free g₁ b g' (hadds.options.trans ho) hrun'⟩

/-- One step after another that adds nothing. -/
theorem Declares.after {p : Pass α} {f : α → Pass β} (hp : p.Declares [] [] Q)
    (hf : ∀ a, Q a → (f a).Declares rs ns S) : (p >>= f).Declares rs ns S := hp.andThen hf

/-- One step before another that adds no routes. -/
theorem Declares.before {p : Pass α} {f : α → Pass β} (hp : p.Declares rs ns Q)
    (hf : ∀ a, Q a → (f a).Declares [] ns' S) : (p >>= f).Declares rs (ns ++ ns') S := by
  have hall := hp.andThen hf
  rwa [List.append_nil] at hall

/-- One step, and then a value that is made of its value. -/
theorem Declares.andPure {p : Pass α} (h : p.Declares rs ns Q) {k : α → β}
    (hk : ∀ a, Q a → S (k a)) : (p >>= fun a => Pure.pure (k a)).Declares rs ns S := by
  have hpure := h.before fun a ha => declares_pure (hk a ha)
  rwa [List.append_nil] at hpure

section Lists

variable {as : List α} {routes : α → List Route} {names : α → NamedRoutes}

theorem declares_mapM {f : α → Pass β}
    (hf : ∀ a ∈ as, (f a).Declares (routes a) (names a) fun _ => True) :
    Declares (as.mapM f) (as.flatMap routes) (as.flatMap names) fun _ => True := by
  induction as with
  | nil =>
    rw [List.mapM_nil]
    exact declares_pure trivial
  | cons a as ih =>
    obtain ⟨ha, has⟩ := List.forall_mem_cons.mp hf
    rw [List.mapM_cons]
    exact ha.andThen fun b _ => (ih has).andPure fun _ _ => trivial

theorem declares_forM {f : α → Pass Unit}
    (hf : ∀ a ∈ as, (f a).Declares (routes a) (names a) fun _ => True) :
    Declares (as.forM f) (as.flatMap routes) (as.flatMap names) fun _ => True := by
  induction as with
  | nil => exact declares_pure trivial
  | cons a as ih =>
    obtain ⟨ha, has⟩ := List.forall_mem_cons.mp hf
    exact ha.andThen fun _ _ => ih has

end Lists

/-! ### Single steps -/

variable {b : Behavior} {cs : Conditions} {ps : Params}

theorem declares_child : (b.child cs ps).Declares [] [] fun c =>
    c.chain = Node.ofConditions {} cs ps :: b.chain := by
  refine declares_of_eq fun g ho => ?_
  rw [← ho]
  exact ⟨_, _, rfl, rfl⟩

theorem declares_require : (Behavior.require (.ok ())).Declares [] [] fun _ => True :=
  declares_pure trivial

/-- A route is made and not registered yet. -/
theorem declares_route {decision : Option Decision} {isDefault : Bool} {r : Route}
    (hr : Route.build (if ps.isEmpty then b.chain else Node.ofConditions {} ∅ ps :: b.chain)
      decision isDefault = .ok r) : (b.route ps decision isDefault).Declares [] [] (· = r) := by
  rw [route_eq]
  split at hr
  · next hempty =>
    rw [if_pos hempty, hr]
    exact declares_pure rfl
  · next hempty =>
    rw [if_neg hempty]
    refine declares_child.after fun c hc => ?_
    rw [hc, hr]
    exact declares_pure rfl

/-- A route is registered. -/
theorem declares_register {decision : Option Decision} {isDefault : Bool} {r : Route}
    (hr : (b.route ps decision isDefault).Declares [] [] (· = r)) :
    (b.register ps decision isDefault).Declares [r] [] fun _ => True := by
  refine hr.after fun r' hr' => ?_
  obtain rfl : r' = r := hr'
  exact ⟨fun g ho _ => ⟨g.routes.length, g.register _, rfl, trivial, rfl, rfl, rfl⟩,
    fun _ _ _ _ _ => ⟨List.nodup_nil, nofun, nofun⟩⟩

/-- A name is given to a route that only generates. -/
theorem declares_nameDetached (r : Route) (name : String) :
    (update (·.nameDetached? r name)).Declares [] [(name, r)] fun _ => True where
  adds g ho hfree := by
    have hempty : name.isEmpty = false := by
      simpa using hfree.ne_empty name List.mem_cons_self
    have huntaken := hfree.untaken name List.mem_cons_self
    have hnamed := (Registry.nameDetached?_eq_ok_iff (g := g) (r := r)).mpr ⟨hempty, huntaken, rfl⟩
    rw [update_apply, hnamed]
    exact ⟨(), _, rfl, trivial, rfl, (List.append_nil _).symm, rfl⟩
  free g a g' ho h := by
    rw [update_apply] at h
    cases hnamed : g.nameDetached? r name with
    | error e =>
      rw [hnamed] at h
      cases h
    | ok g₁ =>
      obtain ⟨hempty, huntaken, -⟩ := Registry.nameDetached?_eq_ok_iff.mp hnamed
      refine ⟨List.pairwise_singleton _ name, List.forall_mem_singleton.mpr ?_,
        List.forall_mem_singleton.mpr huntaken⟩
      simpa using hempty

end Pass

/-! ### Runs -/

/-- A step of a pass that is followed by reports succeeds if the step does, and leaves the registry
as the step has left it. -/
theorem Step.exists_ofPass_bind_iff {α : Type} {p : Pass α} {f : α → Step Unit}
    (hf : ∀ a s, ∃ log, f a s = (.ok (), { s with log := log })) (s : Progress) (g : Registry) :
    (∃ s', (ofPass p >>= f) s = (.ok (), s') ∧ s'.registry = g) ↔
      ∃ a, p s.registry = (.ok a, g) := by
  rw [bind_apply, ofPass]
  rcases p s.registry with ⟨e | a, g'⟩
  · exact ⟨fun ⟨_, h, _⟩ => (nomatch h), fun ⟨_, h⟩ => (nomatch h)⟩
  · obtain ⟨log, hlog⟩ := hf a { s with registry := g' }
    dsimp only
    rw [hlog]
    constructor
    · rintro ⟨s', hs', rfl⟩
      obtain ⟨-, rfl⟩ := Prod.mk.inj hs'
      exact ⟨a, rfl⟩
    · rintro ⟨a', ha'⟩
      obtain ⟨-, rfl⟩ := Prod.mk.inj ha'
      exact ⟨_, rfl, rfl⟩

/-- A route that is declared without names registers itself and does nothing else. -/
theorem Declaration.run_route_iff {ps : Params} {k : RouteKind} (b : Behavior) (s : Progress)
    (g : Registry) :
    (∃ s', (route { params := ps, kind := k }).run b s = (.ok (), s') ∧ s'.registry = g) ↔
      ∃ i, b.registerKind ps k s.registry = (.ok i, g) := by
  have hrun : (route { params := ps, kind := k }).run b s =
      (Step.ofPass (b.registerKind ps k) >>= fun i => Step.report (.registered i)) s := by
    rw [run, bind_apply, bind_apply, runRoute, bind_apply]
    rcases Step.ofPass (b.registerKind ps k) s with ⟨e | i, s'⟩ <;> rfl
  rw [hrun]
  exact Step.exists_ofPass_bind_iff (fun i s' => ⟨_, rfl⟩) s g

/-! ### Tables -/

/-- A table answers from some routes, and knows some names. -/
structure Table.Offers (t : Table) (rs : List Route) (ns : NamedRoutes) : Prop where
  /-- The routes are those of the table. -/
  routes : t.routes = Router.reindex 0 rs
  /-- Requests are answered by them. -/
  matchers : t.matchers = rs.map (Route.match? {})
  /-- The names lead to their routes. -/
  named : ∀ p ∈ ns, t.named[p.1]? = some { p.2 with name := some p.1 }

namespace Router

/-- Routes answer alike at all places. -/
theorem map_match?_reindex (o : Options) (n : Nat) (rs : List Route) :
    (reindex n rs).map (Route.match? o) = rs.map (Route.match? o) := by
  induction rs generalizing n with
  | nil => rfl
  | cons r rs ih =>
    rw [reindex, List.map_cons, List.map_cons, ih]
    rfl

variable {α : Type} {p : Pass α} {rs : List Route} {ns : NamedRoutes} {Q : α → Prop}
  {d : Declaration}

/-- What a pass has added to a fresh registry is what its table offers. -/
theorem offers_compile {g : Registry} (h : Registry.Adds { options := {} } rs ns g)
    (hnames : (ns.map (·.1)).Nodup) (o : Options) (ho : o = {}) :
    (Table.compile o (reindex 0 g.routes) g.named g.metrics).Offers rs ns := by
  subst ho
  have hroutes : reindex 0 g.routes = reindex 0 rs := by
    rw [h.routes]
    exact reindex_reindex 0 0 rs
  refine ⟨hroutes, ?_, fun p hp => ?_⟩
  · rw [Table.compile, hroutes]
    exact map_match?_reindex {} 0 rs
  · rw [Table.getElem?_named_compile, h.named, getElem?_addNames_of_mem hnames hp]
    rfl

theorem free_fresh_iff {names : List String} :
    Registry.Free { options := {} } names ↔ names.Nodup ∧ ∀ name ∈ names, name ≠ "" := by
  constructor
  · exact fun h => ⟨h.nodup, h.ne_empty⟩
  · rintro ⟨hnodup, hne⟩
    exact ⟨hnodup, hne, fun name _ => Std.ExtTreeMap.contains_empty⟩

section Yields

variable (hp : p.Declares rs ns Q)
  (hrun : ∀ g, (∃ s, d.runPass {} = (.ok (), s) ∧ s.registry = g) ↔
    ∃ a, p { options := {} } = (.ok a, g))
include hp hrun

/-- A declaration that takes such a step makes a table that offers its routes and names. -/
theorem exists_yields_of_declares (hnodup : (ns.map (·.1)).Nodup)
    (hne : ∀ name ∈ ns.map (·.1), name ≠ "") :
    ∃ t, Yields { options := {} } [(.replace, d)] t ∧ t.Offers rs ns := by
  obtain ⟨a, g, hstep, -, hadds⟩ := hp.adds { options := {} } rfl
    (free_fresh_iff.mpr ⟨hnodup, hne⟩)
  obtain ⟨s, hs, rfl⟩ := (hrun g).mpr ⟨a, hstep⟩
  exact ⟨_, yields_replace hs, offers_compile hadds hnodup {} rfl⟩

/-- If such a declaration has made a table, its names are distinct, and the table offers them. -/
theorem offers_of_yields {t : Table} (h : Yields { options := {} } [(.replace, d)] t) :
    ((ns.map (·.1)).Nodup ∧ ∀ name ∈ ns.map (·.1), name ≠ "") ∧ t.Offers rs ns := by
  have hs := runPass_of_succeeds (h.1 _ List.mem_cons_self)
  obtain ⟨a, hstep⟩ := (hrun _).mp ⟨_, hs, rfl⟩
  have hfree := free_fresh_iff.mp (hp.free _ a _ rfl hstep)
  obtain ⟨-, hadds⟩ := hp.of_eq_ok rfl hstep
  obtain rfl := Except.ok.inj (h.2.symm.trans (yields_replace hs).2)
  exact ⟨hfree, offers_compile hadds hfree.1 {} rfl⟩

end Yields

end Router

end HttpRouting
