import HttpRouting.Proofs.RouteNames

/-!
# The counter of names

The counter of names goes up whenever a name is given, and never goes down. So it runs ahead of the
names that a table knows, in two ways. A route that is given a new name loses its old one, which
stays counted. A name of a pass that the router has already takes the place of the one in the
router, and both stay counted. These are the only ways.

## Main definitions

* `Registry.Ahead` — how far a change has taken the counter ahead of the names
* `Declaration.renames` — how many times a run gives a new name to a route that has one
* `Router.common` — how many names a router and a pass have in common
* `Router.Overcounted` — how many names are counted and not there after some passes

## Main results

* `Declaration.ahead_run` — the counter after a run of a declaration
* `Router.Overcounted.counted` — the counter after some passes
* `Router.named_metric_iff` — when the counter of a table is the number of its names
-/

namespace HttpRouting

/-! ### One change -/

namespace Registry

/-- From one registry to another, the counter of names has run ahead of the names by some number. -/
def Ahead (n : Nat) (g g' : Registry) : Prop :=
  g'.metrics.named + g.named.size = g.metrics.named + g'.named.size + n

/-- Whether giving a name to the route at an index takes another one away. -/
def isRename (g : Registry) (i : Nat) : Bool := ((g.routes[i]?).bind (·.name)).isSome

variable {g g' g'' : Registry} {m n i : Nat} {name : String}

theorem Ahead.refl (g : Registry) : Ahead 0 g g := rfl

theorem Ahead.trans (h : Ahead m g g') (h' : Ahead n g' g'') : Ahead (m + n) g g'' := by
  unfold Ahead at *
  omega

theorem size_insert_of_free {named : Std.ExtTreeMap String Target}
    (hfree : named.contains name = false) (t : Target) :
    (named.insert name t).size = named.size + 1 := by
  rw [Std.ExtTreeMap.size_insert, hfree, if_neg Bool.false_ne_true]

/-- What leaves the routes as they are counts as many names as it adds. -/
theorem Growth.ahead (h : Growth g g') : Ahead 0 g g' := by
  cases h with
  | behavior => rfl
  | register => rfl
  | nameDetached _ _ hnamed =>
    obtain ⟨-, hfree, rfl⟩ := nameDetached?_eq_ok_iff.mp hnamed
    rw [Ahead, size_insert_of_free hfree]
    dsimp only
    omega

theorem Growths.ahead (h : g.Growths g') : Ahead 0 g g' := by
  induction h with
  | refl => exact .refl g
  | tail _ hgrowth ih => exact ih.trans hgrowth.ahead

/-- Every name that is given is counted. If another one is taken away for it, there are as many as
before. -/
theorem ahead_nameRoute (hunique : NamesUnique g.routes g.named)
    (hnamed : g.nameRoute? i name = .ok g') : Ahead (if g.isRename i then 1 else 0) g g' := by
  obtain ⟨-, hfree, rfl⟩ := nameRoute?_eq_ok_iff.mp hnamed
  rw [Ahead]
  dsimp only
  -- A name is counted when it is given. What stands for it grows only if no old name goes.
  cases hprevious : (g.routes[i]?).bind (·.name) with
  | none =>
    have hfreed : g.freed i = g.named := by rw [freed, hprevious]
    rw [hfreed, size_insert_of_free hfree, isRename, hprevious]
    simp only [Option.isSome_none, Bool.false_eq_true, if_false]
    omega
  | some previous =>
    obtain ⟨x, hx, hname⟩ := Option.bind_eq_some_iff.mp hprevious
    have hold : g.named.contains previous = true := by
      rw [Std.ExtTreeMap.contains_eq_isSome_getElem?, hunique i x previous hx hname]
      rfl
    have hfreed : g.freed i = g.named.erase previous := by rw [freed, hprevious]
    have hnew : (g.freed i).contains name = false := by
      rw [hfreed, Std.ExtTreeMap.contains_erase, hfree, Bool.and_false]
    have hpos : 0 < g.named.size := by
      refine Nat.pos_of_ne_zero fun hzero => ?_
      rw [Std.ExtTreeMap.eq_empty_iff_size_eq_zero.mpr hzero, Std.ExtTreeMap.contains_empty] at hold
      cases hold
    rw [size_insert_of_free hnew, hfreed, Std.ExtTreeMap.size_erase, if_pos hold, isRename,
      hprevious]
    simp only [Option.isSome_some, if_true]
    omega

end Registry

/-! ### One pass -/

/-- What is counted behind a step, in the state and with the value that the step has given. Nothing
is, if the step has failed. -/
def Step.behind {α : Type} (p : Step α) (count : α → Progress → Nat) (s : Progress) : Nat :=
  match p s with
  | (.ok a, s') => count a s'
  | (.error _, _) => 0

namespace Declaration

/-- How many names are taken away while the route at an index is given one name after the other. -/
def renamesOf (i : Nat) : List String → Registry → Nat
  | [], _ => 0
  | name :: names, g =>
    match g.nameRoute? i name with
    | .ok g' => (if g.isRename i then 1 else 0) + renamesOf i names g'
    | .error _ => 0

/-- How many names are taken away while a route is registered and given its names. -/
def renamesIn (spec : RouteSpec) (b : Behavior) : Progress → Nat :=
  (Step.ofPass (b.registerKind spec.params spec.kind)).behind fun i s =>
    renamesOf i spec.names (match spec.fixation with
      | some enabled => s.registry.setFixation i enabled
      | none => s.registry)

/-- How many times a run of a declaration on a behavior gives a new name to a route that has one. -/
def renames : Declaration → Behavior → Progress → Nat
  | skip, _, _ => 0
  | seq d e, b, s => d.renames b s + (d.run b).behind (fun _ => e.renames b) s
  | attempt d, b, s => d.renames b s
  | matchPath p d, b, s => (Step.ofPass (b.matchPath p)).behind d.renames s
  | matchConditions cs d, b, s => (Step.ofPass (b.matchConditions cs)).behind d.renames s
  | matchWith p cs d, b, s => (Step.ofPass (b.matchWith p cs)).behind d.renames s
  | withParams ps d, b, s => (Step.ofPass (b.withParams ps)).behind d.renames s
  | inNamespace n d, b, s => (Step.ofPass (b.inNamespace n)).behind d.renames s
  | route spec, b, s => renamesIn spec b s
  | routeThen spec d, b, s => renamesIn spec b s + (runRoute spec b).behind (fun i s =>
      match s.registry.routes[i]? with
      | some r => d.renames b (Step.report (.route r) s).2
      | none => d.renames b s) s
  | resources n o d, b, s =>
    (Step.ofPass (b.resources n o)).behind (fun p => d.renames p.2) s
  | resource n o d, b, s => (Step.ofPass (b.resource n o)).behind (fun p => d.renames p.2) s
  | inspect, _, _ => 0

/-- How many renames there are in a pass. -/
def RenamesIn (d : Declaration) (o : Options) (n : Nat) : Prop :=
  d.renames (Behavior.root o) { registry := { options := o } } = n

end Declaration

/-- The options are the given ones, and names are unique. -/
structure Progress.Sound (o : Options) (s : Progress) : Prop where
  /-- The given options. -/
  options : s.registry.options = o
  /-- Unique names. -/
  unique : NamesUnique s.registry.routes s.registry.named

theorem Progress.Sound.extends {o : Options} {s s' : Progress} (h : s.Sound o)
    (hs : s.Extends s') : s'.Sound o :=
  ⟨hs.1.frame.1.trans h.options, h.unique.changes hs.1⟩

namespace Step

variable {α β : Type} {o : Options} {Q : α → Prop} {p : Step α} {f : α → Step β}
  {count : Progress → Nat} {counts : α → Progress → Nat}

/-- The counter of names runs ahead by what is counted in a step. -/
def RunsAhead (o : Options) (p : Step α) (count : Progress → Nat) : Prop :=
  ∀ s : Progress, s.Sound o → Registry.Ahead (count s) s.registry (p s).2.registry

theorem runsAhead_pure (a : α) : RunsAhead o (pure a) fun _ => 0 := fun _ _ => .refl _

theorem runsAhead_report (e : Entry) : RunsAhead o (report e) fun _ => 0 := fun _ _ => .refl _

theorem runsAhead_ofPass {p : Pass α} (h : p.Builds o Q) : RunsAhead o (ofPass p) fun _ => 0 :=
  fun s hs => (h s.registry hs.options).1.ahead

/-- One step after the other. -/
theorem RunsAhead.bind (hp : RunsAhead o p count) (hbuilds : Builds o p Q)
    (hf : ∀ a, Q a → RunsAhead o (f a) (counts a)) :
    RunsAhead o (p >>= f) fun s => count s + p.behind counts s := by
  intro s hs
  obtain ⟨hextends, hQ⟩ := hbuilds s hs.options
  have hfirst := hp s hs
  dsimp only
  rw [bind_apply, behind]
  rcases hps : p s with ⟨e | a, s'⟩
  · rw [hps] at hfirst
    exact hfirst
  · rw [hps] at hextends hQ hfirst
    exact hfirst.trans (hf a (hQ a rfl) s' (hs.extends hextends))

/-- A step in which nothing is counted, and one after it. -/
theorem RunsAhead.after (hp : RunsAhead o p fun _ => 0) (hbuilds : Builds o p Q)
    (hf : ∀ a, Q a → RunsAhead o (f a) (counts a)) : RunsAhead o (p >>= f) (p.behind counts) := by
  intro s hs
  have h := hp.bind hbuilds hf s hs
  dsimp only at h
  rwa [Nat.zero_add] at h

/-- A step, and one after it in which nothing is counted. -/
theorem RunsAhead.before (hp : RunsAhead o p count) (hbuilds : Builds o p Q)
    (hf : ∀ a, Q a → RunsAhead o (f a) fun _ => 0) : RunsAhead o (p >>= f) count := by
  intro s hs
  have h := hp.bind hbuilds hf s hs
  have hzero : p.behind (fun _ _ => 0) s = 0 := by
    unfold behind
    split <;> rfl
  dsimp only at h
  rwa [hzero, Nat.add_zero] at h

theorem RunsAhead.attempt {p : Step Unit} (hp : RunsAhead o p count) :
    RunsAhead o (attempt p) count := by
  intro s hs
  have h := hp s hs
  unfold Step.attempt
  split
  · next s' hps => rwa [hps] at h
  · next e s' hps =>
    rw [hps] at h
    exact h

end Step

namespace Declaration

open Step

variable {d : Declaration} {o : Options} {b : Behavior} {n : Nat}

theorem ahead_names (i : Nat) (names : List String) {s : Progress} (hs : s.Sound o)
    (hi : i < s.registry.routes.length) :
    Registry.Ahead (renamesOf i names s.registry) s.registry
      ((names.forM fun name => ofPass (Pass.update (·.nameRoute? i name)) : Step Unit)
        s).2.registry := by
  induction names generalizing s with
  | nil => exact .refl _
  | cons name names ih =>
    have hupdate := Pass.update_apply (·.nameRoute? i name) s.registry
    rw [List.forM, bind_apply, ofPass, hupdate, renamesOf]
    cases hnamed : s.registry.nameRoute? i name with
    | error e => exact .refl _
    | ok g' =>
      have hextends : s.Extends { s with registry := g' } :=
        ⟨.single (.nameRoute hi hnamed), List.prefix_rfl⟩
      exact (Registry.ahead_nameRoute hs.unique hnamed).trans
        (ih (hs.extends hextends) (Nat.lt_of_lt_of_le hi hextends.1.frame.2))

/-- Of what follows the registration of a route, only the names count. -/
theorem ahead_settings (spec : RouteSpec) (i : Nat) {s : Progress} (hs : s.Sound o)
    (hi : i < s.registry.routes.length) :
    Registry.Ahead
      (renamesOf i spec.names (match spec.fixation with
        | some enabled => s.registry.setFixation i enabled
        | none => s.registry)) s.registry
      ((do
        report (.registered i)
        if let some enabled := spec.fixation then
          ofPass (modify (·.setFixation i enabled))
        spec.names.forM fun name => ofPass (Pass.update (·.nameRoute? i name))
        return i : Step Nat) s).2.registry := by
  -- The answer behind the names does not matter, whether the naming succeeds or fails.
  have hlast : ∀ (p : Step PUnit) (s : Progress), ((p >>= fun _ => pure i : Step Nat) s).2 =
      (p s).2 := by
    intro p s
    rw [bind_apply]
    rcases p s with ⟨_ | _, s'⟩ <;> rfl
  have hreport : s.Extends (report (.registered i) s).2 := ⟨.refl, List.prefix_append _ _⟩
  rw [bind_apply]
  cases spec.fixation with
  | none =>
    dsimp only
    refine Eq.mpr (congrArg (Registry.Ahead _ _ ·.registry) (hlast _ _)) ?_
    exact ahead_names i spec.names (hs.extends hreport) hi
  | some enabled =>
    have hfixed : s.Extends { (report (.registered i) s).2 with
        registry := s.registry.setFixation i enabled } :=
      ⟨.single (.fixation _ i enabled), List.prefix_append _ _⟩
    refine Eq.mpr (congrArg (Registry.Ahead _ _ ·.registry) (hlast _ _)) ?_
    exact ahead_names i spec.names (hs.extends hfixed) (Nat.lt_of_lt_of_le hi hfixed.1.frame.2)

theorem runsAhead_runRoute (hb : b.Declared o) (spec : RouteSpec) :
    RunsAhead o (runRoute spec b) (renamesIn spec b) := by
  intro s hs
  have hbuilds := Pass.builds_registerKind hb spec.params spec.kind
  have hextends := (builds_ofPass hbuilds s hs.options).1
  have hfirst := runsAhead_ofPass hbuilds s hs
  rw [renamesIn, behind, runRoute, bind_apply]
  rcases hrun : ofPass (b.registerKind spec.params spec.kind) s with ⟨e | i, s'⟩
  · rw [hrun] at hfirst
    exact hfirst
  rw [hrun] at hfirst hextends
  have hi : i < s'.registry.routes.length := by
    have hfst : (b.registerKind spec.params spec.kind s.registry).1 = .ok i :=
      congrArg Prod.fst hrun
    have hsnd : (b.registerKind spec.params spec.kind s.registry).2 = s'.registry :=
      congrArg (fun x => x.2.registry) hrun
    exact Pass.lt_length_of_registerKind (Prod.ext hfst hsnd)
  have hsettings := hfirst.trans (ahead_settings spec i (hs.extends hextends) hi)
  rwa [Nat.zero_add] at hsettings

/-- The counter of names runs ahead by the number of renames in a run. -/
theorem ahead_run (d : Declaration) (hb : b.Declared o) : RunsAhead o (d.run b) (d.renames b) := by
  induction d generalizing b with
  | skip => exact runsAhead_pure ()
  | seq d e ihd ihe => exact (ihd hb).bind (builds_run d hb) fun _ _ => ihe hb
  | attempt d ih => exact (ih hb).attempt
  | matchPath p d ih =>
    have hstep := Pass.builds_child hb (.ofPath p) ∅
    exact (runsAhead_ofPass hstep).after (builds_ofPass hstep) fun _ hc => ih hc
  | matchConditions cs d ih =>
    have hstep := Pass.builds_child hb cs ∅
    exact (runsAhead_ofPass hstep).after (builds_ofPass hstep) fun _ hc => ih hc
  | matchWith p cs d ih =>
    have hstep := Pass.builds_child hb (cs.insert .path p) ∅
    exact (runsAhead_ofPass hstep).after (builds_ofPass hstep) fun _ hc => ih hc
  | withParams ps d ih =>
    have hstep := Pass.builds_child hb ∅ ps
    exact (runsAhead_ofPass hstep).after (builds_ofPass hstep) fun _ hc => ih hc
  | inNamespace n d ih =>
    have hstep := Pass.builds_inNamespace hb n
    exact (runsAhead_ofPass hstep).after (builds_ofPass hstep) fun _ hc => ih hc
  | route spec =>
    exact (runsAhead_runRoute hb spec).before (builds_runRoute hb spec) fun _ _ =>
      runsAhead_pure ()
  | routeThen spec d ih =>
    refine (runsAhead_runRoute hb spec).bind (builds_runRoute hb spec) fun i _ s hs => ?_
    -- The state is read first, and the route that is reported changes only the log.
    have hread : (get : Step Progress) s = (.ok s, s) := rfl
    rw [bind_apply, hread]
    dsimp only
    cases s.registry.routes[i]? with
    | none => exact ih hb s hs
    | some r => exact ih hb _ (hs.extends ⟨.refl, List.prefix_append _ _⟩)
  | resources n ro d ih =>
    have hstep := Pass.builds_resources hb n ro
    refine (runsAhead_ofPass hstep).after (builds_ofPass hstep) fun ⟨is, inner⟩ hinner => ?_
    exact (ih hinner).before (builds_run d hinner) fun _ _ => runsAhead_report _
  | resource n ro d ih =>
    have hstep := Pass.builds_resource hb n ro
    refine (runsAhead_ofPass hstep).after (builds_ofPass hstep) fun ⟨is, inner⟩ hinner => ?_
    exact (ih hinner).before (builds_run d hinner) fun _ _ => runsAhead_report _
  | inspect => exact runsAhead_report _

theorem RenamesIn.counted (h : d.RenamesIn o n) : (d.runPass o).2.registry.metrics.named =
    (d.runPass o).2.registry.named.size + n := by
  have hahead := ahead_run d (b := Behavior.root o) .root { registry := { options := o } }
    ⟨rfl, .fresh o⟩
  rw [h] at hahead
  have hcounted : _ + (∅ : Std.ExtTreeMap String Target).size = 0 + _ + n := hahead
  rwa [Std.ExtTreeMap.size_empty, Nat.add_zero, Nat.zero_add] at hcounted

end Declaration

/-! ### Several passes -/

namespace Router

/-- How many names a router and a pass have in common. -/
def common (r : Router) (g : Registry) : Nat := (r.named ∩ g.named).size

variable {r : Router} {g : Registry}

theorem size_shiftNames (n : Nat) (named : Std.ExtTreeMap String Target) :
    (shiftNames n named).size = named.size := Std.ExtTreeMap.size_map

theorem mem_shiftNames {n : Nat} {named : Std.ExtTreeMap String Target} {name : String} :
    name ∈ shiftNames n named ↔ name ∈ named := Std.ExtTreeMap.mem_map

/-- A pass next to the routes of a router adds its names, except those in common. -/
theorem size_named_place {p : Placement} (hp : p ≠ .replace) :
    (r.place p g).named.size + r.common g = r.named.size + g.named.size := by
  cases p with
  | replace => exact absurd rfl hp
  | append =>
    have hinter : r.named ∩ shiftNames r.routes.length g.named = r.named ∩ g.named := by
      refine Std.ExtTreeMap.ext_getElem? fun name => ?_
      simp only [Std.ExtTreeMap.getElem?_inter, mem_shiftNames]
    have hunion := @Std.ExtTreeMap.size_add_size_eq_size_union_add_size_inter _ _ _ r.named
      (shiftNames r.routes.length g.named) _
    rw [hinter, size_shiftNames] at hunion
    exact hunion.symm
  | prepend =>
    have hinter : shiftNames g.routes.length r.named ∩ g.named =
        shiftNames g.routes.length (r.named ∩ g.named) := by
      refine Std.ExtTreeMap.ext_getElem? fun name => ?_
      rw [Std.ExtTreeMap.getElem?_inter, getElem?_shiftNames, getElem?_shiftNames,
        Std.ExtTreeMap.getElem?_inter]
      split <;> rfl
    have hunion := @Std.ExtTreeMap.size_add_size_eq_size_union_add_size_inter _ _ _
      (shiftNames g.routes.length r.named) g.named _
    rw [hinter, size_shiftNames, size_shiftNames] at hunion
    exact hunion.symm

theorem metrics_named_place {p : Placement} (hp : p ≠ .replace) :
    (r.place p g).metrics.named = r.metrics.named + g.metrics.named := by
  cases p with
  | replace => exact absurd rfl hp
  | append => rfl
  | prepend => rfl

/-- How many names are counted and not there after some passes. A pass that fails adds nothing, and
one that replaces all routes starts anew. Any other adds its renames, and the names that the router
has already. -/
inductive Overcounted (o : Options) : List (Placement × Declaration) → Nat → Prop where
  /-- At the start nothing is counted. -/
  | start : Overcounted o [] 0
  /-- A pass that fails. -/
  | failed {passes : List (Placement × Declaration)} {n : Nat} (h : Overcounted o passes n)
      (p : Placement) {d : Declaration} (hd : d.succeeds o = false) :
      Overcounted o (passes ++ [(p, d)]) n
  /-- A pass that replaces all routes. -/
  | replaced (passes : List (Placement × Declaration)) {d : Declaration}
      (hd : d.succeeds o = true) {k : Nat} (hk : d.RenamesIn o k) :
      Overcounted o (passes ++ [(.replace, d)]) k
  /-- A pass that puts its routes behind or before the others. -/
  | added {passes : List (Placement × Declaration)} {n : Nat} (h : Overcounted o passes n)
      {p : Placement} (hp : p ≠ .replace) {d : Declaration} (hd : d.succeeds o = true) {k : Nat}
      (hk : d.RenamesIn o k) : Overcounted o (passes ++ [(p, d)])
        (n + k + (after o passes).common (d.runPass o).2.registry)

variable {o : Options} {passes : List (Placement × Declaration)} {n : Nat}

theorem exists_overcounted (o : Options) (passes : List (Placement × Declaration)) :
    ∃ n, Overcounted o passes n := by
  induction passes using List.reverseRecOn with
  | nil => exact ⟨0, .start⟩
  | append_singleton passes pass ih =>
    obtain ⟨p, d⟩ := pass
    obtain ⟨n, hn⟩ := ih
    cases hd : d.succeeds o with
    | false => exact ⟨n, .failed hn p hd⟩
    | true =>
      by_cases hp : p = .replace
      · subst hp
        exact ⟨_, .replaced passes hd rfl⟩
      · exact ⟨_, .added hn hp hd rfl⟩

/-- The counter of a router runs ahead of its names by what is overcounted. -/
theorem Overcounted.counted (h : Overcounted o passes n) :
    (after o passes).metrics.named = (after o passes).named.size + n := by
  induction h with
  | start => rfl
  | failed h p hd ih =>
    rw [after_concat_of_not_succeeds hd]
    exact ih
  | replaced passes hd hk =>
    rw [after_concat_of_succeeds hd]
    exact hk.counted
  | @added passes n h p hp d hd k hk ih =>
    rw [after_concat_of_succeeds hd]
    have hsize := @size_named_place (after o passes) (d.runPass o).2.registry p hp
    have hmetric := @metrics_named_place (after o passes) (d.runPass o).2.registry p hp
    have hpass := hk.counted
    change ((after o passes).place p _).metrics.named = ((after o passes).place p _).named.size + _
    omega

/-- All names of a sound router resolve, so its table has as many. -/
theorem Sound.size_named_compile (hr : r.Sound) :
    (Table.compile r.options r.routes r.named r.metrics).named.size = r.named.size := by
  refine Std.ExtTreeMap.size_filterMap_eq_size_iff.mpr fun name hname => ?_
  obtain ⟨x, hx⟩ := hr.exists_route? (Std.ExtTreeMap.getElem?_eq_some_getElem hname)
  rw [hx]
  rfl

/-- The counter of a table runs ahead of the names that resolve by what is overcounted. So it is
their number exactly if, from the last pass on that has replaced all routes, no pass has renamed a
route or given a name that the router had already. -/
theorem named_metric_iff {t : Table} (ht : (after o passes).table = .ok t) :
    (∃ n, Overcounted o passes n) ∧
    (∀ n, Overcounted o passes n → t.metrics.named = t.named.size + n) ∧
    (t.metrics.named = t.named.size ↔ Overcounted o passes 0) := by
  have hcurrent := (arises_after o passes).current
  have hsnapshot := hcurrent.snapshot t (table_eq_ok.mp ht)
  have hcounted : ∀ n, Overcounted o passes n → t.metrics.named = t.named.size + n := by
    intro n hn
    rw [hsnapshot, hcurrent.sound.size_named_compile]
    exact hn.counted
  obtain ⟨n, hn⟩ := exists_overcounted o passes
  refine ⟨⟨n, hn⟩, hcounted, fun h => ?_, fun h => hcounted 0 h⟩
  obtain rfl : n = 0 := by
    have := hcounted n hn
    omega
  exact hn

/-- A pass that gives two names to a route, and one that gives the second name again. -/
def renamingPasses : List (Placement × Declaration) :=
  [(.replace, .matchPath (.literal "/a") (.route { names := ["x", "y"] })),
    (.append, .matchPath (.literal "/b") (.route { names := ["y"] }))]

/-- The counter of the table, and the number of its names. -/
def nameCounts (r : Router) : Option (Nat × Nat) :=
  r.table.toOption.map fun t => (t.metrics.named, t.named.size)

/-- Three names are counted and one is there: the first has been taken away, and the other one has
been given twice. -/
theorem named_metric_renamingPasses :
    ∃ t, (after {} renamingPasses).table = .ok t ∧ Overcounted {} renamingPasses 2 ∧
      t.metrics.named = t.named.size + 2 ∧ ¬Overcounted {} renamingPasses 0 := by
  have hcounts : nameCounts (after {} renamingPasses) = some (3, 1) := by decide +kernel
  obtain ⟨t, ht, hpair⟩ := Option.map_eq_some_iff.mp hcounts
  rw [toOption_eq_some_iff] at ht
  obtain ⟨hmetric, hsize⟩ := Prod.mk.inj hpair
  obtain ⟨⟨n, hn⟩, hcounted, hright⟩ := named_metric_iff ht
  have hahead := hcounted n hn
  obtain rfl : n = 2 := by omega
  refine ⟨t, ht, hn, hahead, fun hzero => ?_⟩
  have := hright.mpr hzero
  omega

/-- A single pass that renames a route is enough for the counter to be wrong. -/
theorem named_metric_ne_renamed :
    ∃ t, (after {} (renamingPasses.take 1)).table = .ok t ∧ t.metrics.named = 2 ∧
      t.named.size = 1 := by
  have hcounts : nameCounts (after {} (renamingPasses.take 1)) = some (2, 1) := by decide +kernel
  obtain ⟨t, ht, hpair⟩ := Option.map_eq_some_iff.mp hcounts
  exact ⟨t, toOption_eq_some_iff.mp ht, Prod.mk.inj hpair⟩

end Router

end HttpRouting
