import HttpRouting.Proofs.Changes
import HttpRouting.Proofs.RouteBuild
import HttpRouting.Router

/-!
# The route table over whole runs

A router goes through any number of passes, each of which replaces its routes or puts routes behind
or before them, and some of which fail. Routes, names, counters and the compiled table change
together. This file shows that they never disagree.

The invariant of a pass (`Registry.Sound`) says that the routes are counted and that a name leads to
a route of that name. It is kept by each of the five changes of a registry. The invariant of a
router (`Router.Sound`) adds that every route knows its place, and is kept by each placement.

## Main definitions

* `Target.Names` — a target stands for a route of the given name
* `Registry.Sound`, `Router.Sound` — the invariants
* `Router.declareAll` — a sequence of passes
* `Router.Arises` — the routers that come about when passes are installed
* `Table.Serves` — a table tells the truth about the router that made it

## Main results

* `Registry.Sound.change`, `Router.Sound.place` — the steps keep the invariants
* `Router.Arises.serves` — the table of a router that arises serves it
* `Router.declareAll_filter_succeeds` — passes that fail might as well not have been made
* `Router.table_serves` — after the first success, the table serves the router
-/

namespace HttpRouting

/-- A registered target stands for a route of the given name, and a detached one is a route of that
name without a place. -/
def Target.Names (routes : List Route) (name : String) : Target → Prop
  | .registered i => ∃ r, routes[i]? = some r ∧ r.name = some name
  | .detached r => r.name = some name ∧ r.index = none

/-- A route that has just been built has no place. -/
theorem Route.index_of_build {c : Chain} {decision : Option Decision} {isDefault : Bool}
    {r : Route} (h : Route.build c decision isDefault = .ok r) : r.index = none := by
  obtain ⟨tests, params, -, -, rfl⟩ := Route.build_eq_ok_iff.mp h
  rfl

/-- A shifted target stands for a route of the same name, where the routes have been shifted and
have kept their names. -/
theorem Target.Names.shift {routes routes' : List Route} {name : String} {t : Target} {n : Nat}
    (h : t.Names routes name) (keep : ∀ (i : Nat) (r : Route), routes[i]? = some r →
      ∃ r' : Route, routes'[i + n]? = some r' ∧ r'.name = r.name) :
    (t.shift n).Names routes' name := by
  cases t with
  | registered i =>
    obtain ⟨r, hr, hname⟩ := h
    obtain ⟨r', hr', hname'⟩ := keep i r hr
    exact ⟨r', hr', hname'.trans hname⟩
  | detached r => exact h

theorem Target.Names.mono {routes routes' : List Route} {name : String} {t : Target}
    (h : t.Names routes name) (keep : ∀ (i : Nat) (r : Route), routes[i]? = some r →
      ∃ r' : Route, routes'[i]? = some r' ∧ r'.name = r.name) : t.Names routes' name := by
  have hzero : t.shift 0 = t := by cases t <;> rfl
  exact hzero ▸ h.shift keep

namespace Registry

/-- Routes are counted, and names lead to routes of that name. -/
structure Sound (g : Registry) : Prop where
  /-- The counter of routes is right. -/
  counted : g.metrics.routes = g.routes.length
  /-- A name stands for a route of that name. -/
  named : ∀ (name : String) (t : Target), g.named[name]? = some t → t.Names g.routes name

theorem sound_fresh (o : Options) : Sound { options := o } :=
  ⟨rfl, fun name t h => by simp at h⟩

variable {g g' : Registry}

theorem Sound.register (h : g.Sound) (r : Route) : (g.register r).Sound where
  counted := by simp [Registry.register, h.counted]
  named name t ht := by
    refine (h.named name t ht).mono fun i r' hr' => ⟨r', ?_, rfl⟩
    have hi := (List.getElem?_eq_some_iff.mp hr').1
    rwa [Registry.register, List.getElem?_append_left hi]

theorem Sound.setFixation (h : g.Sound) (i : Nat) (enabled : Bool) :
    (g.setFixation i enabled).Sound where
  counted := by simp [Registry.setFixation, h.counted]
  named name t ht := by
    refine (h.named name t ht).mono fun j r hr => ?_
    simp only [Registry.setFixation, List.getElem?_modify, hr]
    split_ifs
    · exact ⟨_, rfl, rfl⟩
    · exact ⟨_, rfl, rfl⟩

/-- A route that gets a new name is no longer found by its old one, and every other name still
leads to a route of that name. -/
theorem Sound.nameRoute (h : g.Sound) {i : Nat} {name : String} (hi : i < g.routes.length)
    (hnamed : g.nameRoute? i name = .ok g') : g'.Sound := by
  obtain ⟨-, -, rfl⟩ := nameRoute?_eq_ok_iff.mp hnamed
  -- Any other name leads where it has led before, and it is not the one that the route has lost.
  have hfreed : ∀ n t, n ≠ name → ((g.freed i).insert name (.registered i))[n]? = some t →
      g.named[n]? = some t ∧ (g.routes[i]?).bind (·.name) ≠ some n := by
    intro n t hn ht
    rw [Std.ExtTreeMap.getElem?_insert, if_neg (by simpa using Ne.symm hn), getElem?_freed] at ht
    split_ifs at ht with hprevious
    exact ⟨ht, hprevious⟩
  constructor
  · simp [h.counted]
  · intro n t ht
    by_cases hn : n = name
    · subst hn
      obtain rfl : Target.registered i = t := by simpa using ht
      exact ⟨{ g.routes[i] with name := some n }, by simp [hi], rfl⟩
    · obtain ⟨ht, hprevious⟩ := hfreed n t hn ht
      have hnames := h.named n t ht
      cases t with
      | detached r => exact hnames
      | registered j =>
        obtain ⟨r, hr, hname⟩ := hnames
        -- The renamed route is not the one that `n` leads to, because `n` was not its name.
        have hij : i ≠ j := by
          rintro rfl
          exact hprevious (by simp [hr, hname])
        exact ⟨r, by simp [hij, hr], hname⟩

theorem Sound.nameDetached (h : g.Sound) {r : Route} {name : String} (hr : r.index = none)
    (hnamed : g.nameDetached? r name = .ok g') : g'.Sound := by
  obtain ⟨-, -, rfl⟩ := nameDetached?_eq_ok_iff.mp hnamed
  refine ⟨h.counted, fun n t ht => ?_⟩
  by_cases hn : n = name
  · subst hn
    obtain rfl : Target.detached _ = t := by simpa using ht
    exact ⟨rfl, hr⟩
  · rw [Std.ExtTreeMap.getElem?_insert, if_neg (by simpa using Ne.symm hn)] at ht
    exact h.named n t ht

theorem Sound.change (h : g.Sound) (hchange : Change g g') : g'.Sound := by
  cases hchange with
  | growth hgrowth =>
    cases hgrowth with
    | behavior => exact ⟨h.counted, h.named⟩
    | register _ built => exact h.register _
    | nameDetached _ built hnamed => exact h.nameDetached (Route.index_of_build built) hnamed
  | nameRoute hi hnamed => exact h.nameRoute hi hnamed
  | fixation i enabled => exact h.setFixation i enabled

theorem Sound.changes (h : g.Sound) (hchanges : g.Changes g') : g'.Sound := by
  induction hchanges with
  | refl => exact h
  | tail _ hchange ih => exact ih.change hchange

end Registry

/-- Every registry of a pass is sound, whether the pass succeeds or fails. -/
theorem Registry.Arises.sound {o : Options} {g : Registry} (h : g.Arises o) : g.Sound :=
  (Registry.sound_fresh o).changes h

namespace Router

/-- Every route knows its place, routes are counted, and names lead to routes of that name. -/
structure Sound (r : Router) : Prop where
  /-- A route knows its place. -/
  placed : ∀ (i : Nat) (x : Route), r.routes[i]? = some x → x.index = some i
  /-- The counter of routes is right. -/
  counted : r.metrics.routes = r.routes.length
  /-- A name stands for a route of that name. -/
  named : ∀ (name : String) (t : Target), r.named[name]? = some t → t.Names r.routes name

theorem sound_empty (o : Options) : Sound { options := o } :=
  ⟨fun i x h => by simp at h, rfl, fun name t h => by simp at h⟩

theorem placed_reindex {n i : Nat} {rs : List Route} {x : Route}
    (h : (reindex n rs)[i]? = some x) : x.index = some (n + i) := by
  rw [getElem?_reindex] at h
  obtain ⟨y, -, rfl⟩ := Option.map_eq_some_iff.mp h
  rfl

theorem exists_name_reindex {n i : Nat} {rs : List Route} {x : Route} (h : rs[i]? = some x) :
    ∃ x' : Route, (reindex n rs)[i]? = some x' ∧ x'.name = x.name := by
  rw [getElem?_reindex, h]
  exact ⟨_, rfl, rfl⟩

/-- Routes that follow others are found behind them. -/
theorem exists_name_append {pre rs : List Route} {i : Nat} {y x : Route} (h : rs[i]? = some y)
    (hname : y.name = x.name) :
    ∃ x' : Route, (pre ++ rs)[i + pre.length]? = some x' ∧ x'.name = x.name := by
  refine ⟨y, ?_, hname⟩
  rwa [List.getElem?_append_right (Nat.le_add_left _ _), Nat.add_sub_cancel]

theorem placed_append {pre rs : List Route}
    (hpre : ∀ (i : Nat) (x : Route), pre[i]? = some x → x.index = some i)
    {i : Nat} {x : Route} (h : (pre ++ reindex pre.length rs)[i]? = some x) :
    x.index = some i := by
  rcases Nat.lt_or_ge i pre.length with hi | hi
  · rw [List.getElem?_append_left hi] at h
    exact hpre i x h
  · rw [List.getElem?_append_right hi] at h
    have := placed_reindex h
    rwa [Nat.add_sub_cancel' hi] at this

variable {r : Router} {g : Registry}

theorem getElem?_shiftNames {n : Nat} {named : Std.ExtTreeMap String Target} {name : String} :
    (shiftNames n named)[name]? = named[name]?.map (Target.shift n) := by
  simp [shiftNames]

/-- Each way to place what a pass has registered keeps the invariant. -/
theorem Sound.place (hr : r.Sound) (hg : g.Sound) (p : Placement) : (r.place p g).Sound := by
  cases p with
  | replace =>
    refine ⟨fun i x h => ?_, by simp [Router.place, hg.counted], fun name t ht => ?_⟩
    · simpa using placed_reindex h
    · exact (hg.named name t ht).mono fun i x hx => exists_name_reindex hx
  | append =>
    refine ⟨fun i x h => placed_append hr.placed h, ?_, fun name t ht => ?_⟩
    · simp [Router.place, Metrics.add, hr.counted, hg.counted]
    · simp only [Router.place, Std.ExtTreeMap.getElem?_union, getElem?_shiftNames,
        Option.or_eq_some_iff, Option.map_eq_some_iff] at ht
      -- A name of the pass leads further back, and a name of the router to the same place as
      -- before.
      rcases ht with ⟨u, hu, rfl⟩ | ⟨-, ht⟩
      · refine (hg.named name u hu).shift fun i x hx => ?_
        obtain ⟨y, hy, hname⟩ := exists_name_reindex hx
        exact exists_name_append hy hname
      · refine (hr.named name t ht).mono fun i x hx => ⟨x, ?_, rfl⟩
        exact (List.getElem?_append_left (List.getElem?_eq_some_iff.mp hx).1).trans hx
  | prepend =>
    have hlength : (reindex 0 g.routes).length = g.routes.length := length_reindex 0 g.routes
    refine ⟨fun i x h => ?_, ?_, fun name t ht => ?_⟩
    · have hfirst : ∀ (j : Nat) (y : Route), (reindex 0 g.routes)[j]? = some y →
          y.index = some j := fun j y hy => by simpa using placed_reindex hy
      have h' : (reindex 0 g.routes ++ reindex (reindex 0 g.routes).length r.routes)[i]? =
          some x := by rwa [hlength]
      exact placed_append hfirst h'
    · simp [Router.place, Metrics.add, hr.counted, hg.counted, Nat.add_comm]
    · simp only [Router.place, Std.ExtTreeMap.getElem?_union, getElem?_shiftNames,
        Option.or_eq_some_iff, Option.map_eq_some_iff] at ht
      -- Now the names of the pass lead to the same places, and those of the router further back.
      rcases ht with ht | ⟨-, u, hu, rfl⟩
      · refine (hg.named name t ht).mono fun i x hx => ?_
        obtain ⟨y, hy, hname⟩ := exists_name_reindex (n := 0) hx
        have hi := (List.getElem?_eq_some_iff.mp hy).1
        exact ⟨y, (List.getElem?_append_left hi).trans hy, hname⟩
      · refine (hr.named name u hu).shift fun i x hx => ?_
        obtain ⟨y, hy, hname⟩ := exists_name_reindex (n := g.routes.length) hx
        rw [← hlength]
        exact exists_name_append (hlength ▸ hy) hname

end Router

/-! ### Tables -/

namespace Table

variable {o : Options} {routes : List Route} {named : Std.ExtTreeMap String Target}
  {metrics : Metrics}

/-- The matchers are searched from the front, and their places are counted from `n`. -/
theorem firstMatch?_eq_some {q : Request} {n i : Nat} {ps : Params} {ms : List Matcher}
    (h : firstMatch? q n ms = some (i, ps)) :
    ∃ k m, i = n + k ∧ ms[k]? = some m ∧ m q = some ps ∧
      ∀ j < k, ∀ m', ms[j]? = some m' → m' q = none := by
  induction ms generalizing n with
  | nil => cases h
  | cons m ms ih =>
    rw [firstMatch?] at h
    split at h
    · next ps' hm =>
      obtain ⟨rfl, rfl⟩ : n = i ∧ ps' = ps := by simpa using h
      exact ⟨0, m, rfl, rfl, hm, fun j hj => absurd hj (Nat.not_lt_zero j)⟩
    · next hm =>
      obtain ⟨k, m', rfl, hk, hm', hbefore⟩ := ih h
      refine ⟨k + 1, m', by omega, hk, hm', fun j hj m₀ hm₀ => ?_⟩
      cases j with
      | zero =>
        obtain rfl : m = m₀ := by simpa using hm₀
        exact hm
      | succ j => exact hbefore j (by omega) m₀ hm₀

theorem firstMatch?_eq_none {q : Request} {n : Nat} {ms : List Matcher}
    (h : firstMatch? q n ms = none) : ∀ m ∈ ms, m q = none := by
  induction ms generalizing n with
  | nil => simp
  | cons m ms ih =>
    rw [firstMatch?] at h
    split at h
    · cases h
    · next hm => simpa [hm] using ih h

theorem getElem?_matchers_compile (i : Nat) :
    (compile o routes named metrics).matchers[i]? = routes[i]?.map (Route.match? o) := by
  simp [compile]

/-- The default route is the first one that is tagged as such. -/
theorem defaultRoute?_compile :
    (compile o routes named metrics).defaultRoute? = routes.find? (·.isDefault) := by
  change (routes.findIdx? (·.isDefault)).bind (routes[·]?) = _
  induction routes with
  | nil => rfl
  | cons r rs ih =>
    rw [List.findIdx?_cons, List.find?_cons]
    cases hr : r.isDefault with
    | true => simp
    | false => simpa [Option.bind_map, Function.comp_def] using ih

theorem getElem?_named_compile (name : String) :
    (compile o routes named metrics).named[name]? =
      named[name]?.bind (Target.route? routes) := by
  simp [compile]

/-- A table tells the truth about the router that made it. -/
structure Serves (t : Table) (r : Router) : Prop where
  /-- Every route knows its place. -/
  placed : ∀ (i : Nat) (x : Route), t.routes[i]? = some x → x.index = some i
  /-- There is a matcher for every route, and it is the one of that route. -/
  matchers : t.matchers.length = t.routes.length ∧
    ∀ i : Nat, t.matchers[i]? = t.routes[i]?.map (Route.match? r.options)
  /-- The router has as many routes as the table, and both have counted them. -/
  counted : r.routes.length = t.routes.length ∧ t.metrics.routes = t.routes.length ∧
    r.metrics.routes = t.routes.length
  /-- A name leads to a route of that name. It is the route of the table at its own place, or one
  that has no place. -/
  named : ∀ (name : String) (x : Route), t.named[name]? = some x →
    x.name = some name ∧ ((∃ i, x.index = some i ∧ t.routes[i]? = some x) ∨ x.index = none)
  /-- The default route is the first one that is tagged as such. -/
  default : t.defaultRoute? = t.routes.find? (·.isDefault)
  /-- A request is answered by the first route with an answer. -/
  matched : ∀ (q : Request) (i : Nat) (ps : Params), t.match? q = some (i, ps) →
    (∃ x, t.routes[i]? = some x ∧ x.match? r.options q = some ps) ∧
      ∀ j < i, ∀ m, t.matchers[j]? = some m → m q = none
  /-- A request without an answer is answered by no route. -/
  unmatched : ∀ q : Request, t.match? q = none → ∀ m ∈ t.matchers, m q = none

/-- The table that a sound router makes serves it. -/
theorem serves_compile {r : Router} (hr : r.Sound) :
    (compile r.options r.routes r.named r.metrics).Serves r where
  placed := hr.placed
  matchers := ⟨List.length_map _, getElem?_matchers_compile⟩
  counted := ⟨rfl, hr.counted, hr.counted⟩
  named name x hx := by
    rw [getElem?_named_compile] at hx
    obtain ⟨target, htarget, hroute⟩ := Option.bind_eq_some_iff.mp hx
    have hnames := hr.named name target htarget
    cases target with
    | detached y =>
      obtain rfl : y = x := Option.some.inj hroute
      exact ⟨hnames.1, .inr hnames.2⟩
    | registered i =>
      obtain ⟨y, hy, hname⟩ := hnames
      obtain rfl : y = x := Option.some.inj (hy.symm.trans hroute)
      exact ⟨hname, .inl ⟨i, hr.placed i y hy, hy⟩⟩
  default := defaultRoute?_compile
  matched q i ps h := by
    obtain ⟨k, m, hk, hm, hmq, hbefore⟩ := firstMatch?_eq_some h
    obtain rfl : i = k := by omega
    rw [getElem?_matchers_compile] at hm
    obtain ⟨x, hx, rfl⟩ := Option.map_eq_some_iff.mp hm
    exact ⟨⟨x, hx, hmq⟩, hbefore⟩
  unmatched q h := firstMatch?_eq_none h

end Table

/-! ### Runs -/

/-- Whether a pass over a declaration succeeds. -/
def Declaration.succeeds (d : Declaration) (o : Options) : Bool := (d.runPass o).1.isOk

namespace Router

/-- The router after some passes, each a declaration with the place of its routes. -/
def declareAll (r : Router) (passes : List (Placement × Declaration)) : Router :=
  passes.foldl (fun r p => (r.declare p.1 p.2).2.2) r

variable {r : Router} {p : Placement} {d : Declaration}

/-- A pass that succeeds is installed. -/
theorem declare_of_succeeds (h : d.succeeds r.options = true) :
    (r.declare p d).2.2 = r.install p (d.runPass r.options).2.registry := by
  unfold Declaration.succeeds at h
  unfold declare
  rcases hrun : d.runPass r.options with ⟨e | a, s⟩
  · rw [hrun] at h
    cases h
  · rfl

/-- A pass that fails changes nothing. -/
theorem declare_of_not_succeeds (h : d.succeeds r.options = false) :
    (r.declare p d).2.2 = r := by
  unfold Declaration.succeeds at h
  unfold declare
  rcases hrun : d.runPass r.options with ⟨e | a, s⟩
  · rfl
  · rw [hrun] at h
    cases h

@[simp] theorem options_install (r : Router) (p : Placement) (g : Registry) :
    (r.install p g).options = r.options := by
  cases p <;> rfl

@[simp] theorem options_declare (r : Router) (p : Placement) (d : Declaration) :
    (r.declare p d).2.2.options = r.options := by
  cases h : d.succeeds r.options with
  | true => rw [declare_of_succeeds h, options_install]
  | false => rw [declare_of_not_succeeds h]

/-- A router that is sound and whose table, if there is one, is the table of its routes. -/
structure Current (r : Router) : Prop where
  /-- Routes, names and counters agree. -/
  sound : r.Sound
  /-- The table is that of the routes. -/
  snapshot : ∀ t, r.snapshot = some t → t = .compile r.options r.routes r.named r.metrics

theorem current_install (hr : r.Sound) {g : Registry} (hg : g.Sound) :
    (r.install p g).Current := by
  obtain ⟨placed, counted, named⟩ := hr.place hg p
  refine ⟨⟨placed, counted, named⟩, fun t ht => ?_⟩
  exact (Option.some.inj ht).symm

/-- The routers that come about from an empty one when passes are installed, each with a registry
that arises in a pass. -/
inductive Arises (o : Options) : Router → Prop where
  /-- An empty router. -/
  | start : Arises o { options := o }
  /-- A router into which one more pass has been installed. -/
  | install {r : Router} (h : Arises o r) (p : Placement) {g : Registry} (hg : g.Arises o) :
      Arises o (r.install p g)

namespace Arises

variable {o : Options} (h : r.Arises o)
include h

theorem options_eq : r.options = o := by
  induction h with
  | start => rfl
  | install _ p _ ih => exact (options_install _ p _).trans ih

theorem current : r.Current := by
  induction h with
  | start => exact ⟨sound_empty o, fun t ht => nomatch ht⟩
  | install _ p hg ih => exact current_install ih.sound hg.sound

/-- Without a table the router is empty. -/
theorem eq_start (hsnapshot : r.snapshot = none) : r = { options := o } := by
  cases h with
  | start => rfl
  | install => cases hsnapshot

/-- The table of a router, once there is one, tells the truth about it. -/
theorem serves {t : Table} (ht : r.snapshot = some t) : t.Serves r :=
  h.current.snapshot t ht ▸ Table.serves_compile h.current.sound

/-- A pass over a declaration leads from one such router to another. -/
theorem declare (p : Placement) (d : Declaration) : (r.declare p d).2.2.Arises o := by
  cases hd : d.succeeds r.options with
  | true =>
    rw [declare_of_succeeds hd, h.options_eq]
    exact h.install p (d.arises_runPass o)
  | false =>
    rw [declare_of_not_succeeds hd]
    exact h

end Arises

theorem isSome_snapshot_declare (h : d.succeeds r.options = true ∨ r.snapshot.isSome = true) :
    (r.declare p d).2.2.snapshot.isSome = true := by
  cases hd : d.succeeds r.options with
  | true =>
    rw [declare_of_succeeds hd]
    rfl
  | false =>
    rw [declare_of_not_succeeds hd]
    exact h.resolve_left (by simp [hd])

theorem declareAll_cons (pass : Placement × Declaration) (passes : List (Placement × Declaration)) :
    r.declareAll (pass :: passes) = (r.declare pass.1 pass.2).2.2.declareAll passes := rfl

theorem Arises.declareAll {o : Options} (h : r.Arises o) (passes : List (Placement × Declaration)) :
    (r.declareAll passes).Arises o := by
  induction passes generalizing r with
  | nil => exact h
  | cons pass passes ih => exact ih (h.declare pass.1 pass.2)

/-- Once there is a table, there is one for good. -/
theorem isSome_snapshot_declareAll {passes : List (Placement × Declaration)}
    (h : (∃ pass ∈ passes, pass.2.succeeds r.options = true) ∨ r.snapshot.isSome = true) :
    (r.declareAll passes).snapshot.isSome = true := by
  induction passes generalizing r with
  | nil => exact h.resolve_left (by simp)
  | cons pass passes ih =>
    refine ih ?_
    rw [options_declare]
    rcases h with ⟨other, hmem, hother⟩ | h
    · rcases List.mem_cons.mp hmem with rfl | hmem
      · exact .inr (isSome_snapshot_declare (.inl hother))
      · exact .inl ⟨other, hmem, hother⟩
    · exact .inr (isSome_snapshot_declare (.inr h))

/-- Passes that fail might as well not have been made. -/
theorem declareAll_filter_succeeds (passes : List (Placement × Declaration)) :
    r.declareAll (passes.filter fun pass => pass.2.succeeds r.options) = r.declareAll passes := by
  induction passes generalizing r with
  | nil => rfl
  | cons pass passes ih =>
    -- Whether a pass succeeds depends on the options, and no pass changes them.
    have hnext := ih (r := (r.declare pass.1 pass.2).2.2)
    rw [options_declare] at hnext
    rw [List.filter_cons, declareAll_cons, ← hnext]
    cases h : pass.2.succeeds r.options with
    | true => rfl
    | false => rw [declare_of_not_succeeds h]; rfl

/-- After any passes of which at least one succeeds, there is a table that serves the router, and
the passes that fail have changed nothing. -/
theorem table_serves (o : Options) (passes : List (Placement × Declaration))
    (h : ∃ pass ∈ passes, pass.2.succeeds o = true) :
    (∃ t, (declareAll { options := o } passes).table = .ok t ∧
      t.Serves (declareAll { options := o } passes)) ∧
    declareAll { options := o } (passes.filter fun pass => pass.2.succeeds o) =
      declareAll { options := o } passes := by
  have arises := Arises.start.declareAll (o := o) passes
  have compiled := isSome_snapshot_declareAll (r := { options := o }) (.inl h)
  obtain ⟨t, ht⟩ := Option.isSome_iff_exists.mp compiled
  refine ⟨⟨t, ?_, ?_⟩, declareAll_filter_succeeds (r := { options := o }) passes⟩
  · rw [Router.table, ht]
  · exact arises.serves ht

/-- A pass that names its route, one that fails because it gives the same name twice, and one whose
route goes before the first. -/
def threePasses : List (Placement × Declaration) :=
  [(.replace, .matchPath (.literal "/a/:id") (.route { names := ["a"] })),
    (.append, .matchPath (.literal "/b") (.route { names := ["b", "b"] })),
    (.prepend, .route { kind := .default })]

theorem table_serves_threePasses :
    (∃ pass ∈ threePasses, pass.2.succeeds {} = true) ∧
    (∃ t, (declareAll { options := {} } threePasses).table = .ok t ∧
      t.Serves (declareAll { options := {} } threePasses)) ∧
    declareAll { options := {} } (threePasses.filter fun pass => pass.2.succeeds {}) =
      declareAll { options := {} } threePasses := by
  have success : ∃ pass ∈ threePasses, pass.2.succeeds {} = true :=
    ⟨_, List.mem_cons_self, by decide +kernel⟩
  exact ⟨success, table_serves {} threePasses success⟩

end Router

end HttpRouting
