import HttpRouting.Proofs.RouteTable
import Mathlib.Data.List.Induction

/-!
# Names over several passes

A pass gives a name only once, and takes the old name of a route away when it gives it a new one.
So in one pass every route that has a name is the route that its name stands for. A router does not
ask whether a name of a pass is taken by an earlier pass: when it puts the routes of a pass behind
or before its own, the names of the pass win. Then a route may keep a name that stands for another
route. This happens exactly if a pass gives a name that the router has already.

## Main definitions

* `NamesUnique` — every route that has a name is the one that its name stands for
* `Router.Beside` — a router that has the routes of another one next to those of a pass
* `Router.Harmless` — a pass gives no name that the router has already
* `Router.installAll`, `Router.after` — a sequence of passes, as registries and as declarations
* `Table.Distinct` — no two routes of a table have the same name

## Main results

* `NamesUnique.changes`, `NamesUnique.beside` — the steps keep names unique
* `Router.Beside.stable_iff_harmless` — when names go on standing for the same routes
* `Router.distinct_and_stable_iff_harmless` — the same of a whole run over any registries of passes
* `Router.names_unique_iff_harmless` — the same of a whole run over declarations
-/

namespace HttpRouting

/-- Every route that has a name is the one that its name stands for. -/
def NamesUnique (routes : List Route) (named : Std.ExtTreeMap String Target) : Prop :=
  ∀ (i : Nat) (x : Route) (name : String), routes[i]? = some x → x.name = some name →
    named[name]? = some (.registered i)

/-! ### One pass -/

/-- A route that has just been built has no name. -/
theorem Route.name_of_build {c : Chain} {decision : Option Decision} {isDefault : Bool}
    {r : Route} (h : Route.build c decision isDefault = .ok r) : r.name = none := by
  obtain ⟨tests, params, -, -, rfl⟩ := Route.build_eq_ok_iff.mp h
  rfl

namespace NamesUnique

variable {g g' : Registry}

theorem register (h : NamesUnique g.routes g.named) {r : Route} (hr : r.name = none) :
    NamesUnique (g.register r).routes (g.register r).named := by
  intro i x name hx hname
  rcases Nat.lt_or_ge i g.routes.length with hi | hi
  · rw [Registry.register, List.getElem?_append_left hi] at hx
    exact h i x name hx hname
  · rw [Registry.register, List.getElem?_append_right hi] at hx
    obtain rfl := List.mem_singleton.mp (List.mem_of_getElem? hx)
    cases hr.symm.trans hname

theorem setFixation (h : NamesUnique g.routes g.named) (i : Nat) (enabled : Bool) :
    NamesUnique (g.setFixation i enabled).routes (g.setFixation i enabled).named := by
  intro j x name hx hname
  rw [Registry.setFixation, List.getElem?_modify] at hx
  obtain ⟨y, hy, rfl⟩ := Option.map_eq_some_iff.mp hx
  refine h j y name hy ?_
  split at hname <;> exact hname

/-- A name that is free is not the name of any route. -/
theorem ne_of_free (h : NamesUnique g.routes g.named) {free : String}
    (hfree : g.named.contains free = false) {i : Nat} {x : Route} (hx : g.routes[i]? = some x)
    {name : String} (hname : x.name = some name) : free ≠ name := by
  rintro rfl
  have hnamed := h i x free hx hname
  rw [Std.ExtTreeMap.contains_eq_isSome_getElem?, hnamed] at hfree
  cases hfree

/-- The old name of a route is taken away with the name. -/
theorem nameRoute (h : NamesUnique g.routes g.named) {i : Nat} {name : String}
    (hnamed : g.nameRoute? i name = .ok g') : NamesUnique g'.routes g'.named := by
  obtain ⟨-, hfree, rfl⟩ := Registry.nameRoute?_eq_ok_iff.mp hnamed
  intro j x n hx hname
  dsimp only at hx ⊢
  rw [List.getElem?_modify] at hx
  obtain ⟨y, hy, rfl⟩ := Option.map_eq_some_iff.mp hx
  by_cases hij : i = j
  · subst hij
    rw [if_pos rfl] at hname
    obtain rfl := Option.some.inj hname
    exact Std.ExtTreeMap.getElem?_insert_self
  · rw [if_neg hij] at hname
    have hne := h.ne_of_free hfree hy hname
    -- The name that is taken away belongs to the renamed route only.
    have hkept : (g.routes[i]?).bind (·.name) ≠ some n := by
      intro hprevious
      obtain ⟨z, hz, hzname⟩ := Option.bind_eq_some_iff.mp hprevious
      have heq := (h i z n hz hzname).symm.trans (h j y n hy hname)
      exact hij (Target.registered.inj (Option.some.inj heq))
    rw [Std.ExtTreeMap.getElem?_insert, if_neg (by simpa using hne), Registry.getElem?_freed,
      if_neg hkept]
    exact h j y n hy hname

theorem nameDetached (h : NamesUnique g.routes g.named) {r : Route} {name : String}
    (hnamed : g.nameDetached? r name = .ok g') : NamesUnique g'.routes g'.named := by
  obtain ⟨-, hfree, rfl⟩ := Registry.nameDetached?_eq_ok_iff.mp hnamed
  intro i x n hx hname
  have hne := h.ne_of_free hfree hx hname
  rw [Std.ExtTreeMap.getElem?_insert, if_neg (by simpa using hne)]
  exact h i x n hx hname

theorem change (h : NamesUnique g.routes g.named) (hchange : Registry.Change g g') :
    NamesUnique g'.routes g'.named := by
  cases hchange with
  | growth hgrowth =>
    cases hgrowth with
    | behavior => exact h
    | register _ built => exact h.register (Route.name_of_build built)
    | nameDetached _ _ hnamed => exact h.nameDetached hnamed
  | nameRoute _ hnamed => exact h.nameRoute hnamed
  | fixation i enabled => exact h.setFixation i enabled

theorem changes (h : NamesUnique g.routes g.named) (hchanges : g.Changes g') :
    NamesUnique g'.routes g'.named := by
  induction hchanges with
  | refl => exact h
  | tail _ hchange ih => exact ih.change hchange

theorem fresh (o : Options) :
    NamesUnique ({ options := o } : Registry).routes ({ options := o } : Registry).named := by
  intro i x name hx
  cases hx

/-- No change makes a second route of a name, so a registry of a pass has none. -/
theorem of_arises {o : Options} (h : g.Arises o) : NamesUnique g.routes g.named :=
  (fresh o).changes h

end NamesUnique

/-! ### Routes next to routes -/

/-- The route at another place. -/
def Route.moved (k : Nat) (x : Route) : Route := { x with index := x.index.map (· + k) }

theorem Route.moved_of_none {x : Route} (h : x.index = none) (k : Nat) : x.moved k = x := by
  rw [moved, h, Option.map_none, ← h]

/-- How far the routes of a router are moved by those of a pass. -/
def Placement.offset (p : Placement) (g : Registry) : Nat :=
  match p with
  | .replace => 0
  | .append => 0
  | .prepend => g.routes.length

namespace Router

section Lists

variable {xs ys : List Route}

theorem getElem?_reindex_left {i : Nat} {x : Route} (h : xs[i]? = some x) :
    (reindex 0 xs ++ reindex xs.length ys)[i]? = some { x with index := some i } := by
  have hi : i < (reindex 0 xs).length := by
    rw [length_reindex]
    exact (List.getElem?_eq_some_iff.mp h).1
  rw [List.getElem?_append_left hi, getElem?_reindex, h, Option.map_some, Nat.zero_add]

theorem getElem?_reindex_right {j : Nat} {y : Route} (h : ys[j]? = some y) :
    (reindex 0 xs ++ reindex xs.length ys)[j + xs.length]? =
      some { y with index := some (j + xs.length) } := by
  have hj : (reindex 0 xs).length ≤ j + xs.length := by
    rw [length_reindex]
    exact Nat.le_add_left _ _
  rw [List.getElem?_append_right hj, length_reindex, Nat.add_sub_cancel, getElem?_reindex, h,
    Option.map_some, Nat.add_comm]

theorem exists_of_getElem?_reindex {m : Nat} {z : Route}
    (h : (reindex 0 xs ++ reindex xs.length ys)[m]? = some z) :
    (∃ x, xs[m]? = some x ∧ z = { x with index := some m }) ∨
      ∃ j y, m = j + xs.length ∧ ys[j]? = some y ∧ z = { y with index := some m } := by
  have hlt := (List.getElem?_eq_some_iff.mp h).1
  rw [List.length_append, length_reindex, length_reindex] at hlt
  rcases Nat.lt_or_ge m xs.length with hm | hm
  · have hx := List.getElem?_eq_getElem hm
    exact .inl ⟨_, hx, Option.some.inj (h.symm.trans (getElem?_reindex_left hx))⟩
  · obtain ⟨j, rfl⟩ := Nat.exists_eq_add_of_le' hm
    have hy := List.getElem?_eq_getElem (show j < ys.length by omega)
    exact .inr ⟨j, _, rfl, hy, Option.some.inj (h.symm.trans (getElem?_reindex_right hy))⟩

end Lists

/-- A router that has the routes of `r`, moved by `k`, next to those of a pass, moved by `k'`. Where
both give a name, it stands for what it stands for in the pass. -/
structure Beside (r : Router) (g : Registry) (k k' : Nat) (r' : Router) : Prop where
  /-- A name of the pass comes before one of the router. -/
  named : ∀ name : String, r'.named[name]? =
    (g.named[name]?.map (Target.shift k')).or (r.named[name]?.map (Target.shift k))
  /-- The routes of the router are there. -/
  old : ∀ (i : Nat) (x : Route), r.routes[i]? = some x →
    r'.routes[i + k]? = some { x with index := some (i + k) }
  /-- The routes of the pass are there. -/
  new : ∀ (j : Nat) (y : Route), g.routes[j]? = some y →
    r'.routes[j + k']? = some { y with index := some (j + k') }
  /-- There are no others. -/
  exhausted : ∀ (m : Nat) (z : Route), r'.routes[m]? = some z →
    (∃ i x, m = i + k ∧ r.routes[i]? = some x ∧ z = { x with index := some m }) ∨
      ∃ j y, m = j + k' ∧ g.routes[j]? = some y ∧ z = { y with index := some m }
  /-- Their places differ. -/
  apart : ∀ i j : Nat, i < r.routes.length → j < g.routes.length → i + k ≠ j + k'

variable {r r' : Router} {g : Registry} {k k' : Nat}

theorem shift_zero (t : Target) : t.shift 0 = t := by cases t <;> rfl

/-- Routes that know their places are not changed when they are told. -/
theorem Sound.reindex_eq (hr : r.Sound) : reindex 0 r.routes = r.routes := by
  refine List.ext_getElem? fun i => ?_
  rw [getElem?_reindex]
  cases hx : r.routes[i]? with
  | none => rfl
  | some x =>
    have hindex := hr.placed i x hx
    rw [Option.map_some, Nat.zero_add, ← hindex]

/-- A pass that does not replace the routes is put next to them. -/
theorem Sound.exists_beside (hr : r.Sound) {p : Placement} (hp : p ≠ .replace) (g : Registry) :
    ∃ k', Beside r g (p.offset g) k' (r.place p g) := by
  have hzero : ∀ o : Option Target, o.map (Target.shift 0) = o := fun o => by
    rw [funext shift_zero]
    exact Option.map_id'
  -- Behind the routes it is the pass that is moved, and before them it is the router.
  cases p with
  | replace => exact absurd rfl hp
  | append =>
    have hroutes : (r.place .append g).routes =
        reindex 0 r.routes ++ reindex r.routes.length g.routes := by
      rw [hr.reindex_eq]
      rfl
    refine ⟨r.routes.length, fun name => ?_, fun i x hx => ?_, fun j y hy => ?_, fun m z hz => ?_,
      fun i j hi _ => ?_⟩
    · rw [Placement.offset, hzero, ← getElem?_shiftNames]
      exact Std.ExtTreeMap.getElem?_union
    · rw [hroutes]
      exact getElem?_reindex_left hx
    · rw [hroutes]
      exact getElem?_reindex_right hy
    · rw [hroutes] at hz
      rcases exists_of_getElem?_reindex hz with ⟨x, hx, rfl⟩ | h
      · exact .inl ⟨m, x, rfl, hx, rfl⟩
      · exact .inr h
    · rw [Placement.offset]
      omega
  | prepend =>
    have hroutes : (r.place .prepend g).routes =
        reindex 0 g.routes ++ reindex g.routes.length r.routes := rfl
    refine ⟨0, fun name => ?_, fun i x hx => ?_, fun j y hy => ?_, fun m z hz => ?_,
      fun i j _ hj => ?_⟩
    · rw [Placement.offset, hzero, ← getElem?_shiftNames]
      exact Std.ExtTreeMap.getElem?_union
    · rw [hroutes]
      exact getElem?_reindex_right hx
    · rw [hroutes]
      exact getElem?_reindex_left hy
    · rw [hroutes] at hz
      rcases exists_of_getElem?_reindex hz with ⟨y, hy, rfl⟩ | h
      · exact .inr ⟨m, y, rfl, hy, rfl⟩
      · exact .inl h
    · rw [Placement.offset]
      omega

/-- The route that a name stands for. -/
def resolve? (r : Router) (name : String) : Option Route :=
  r.named[name]?.bind (Target.route? r.routes)

/-- A pass gives no name that the router has already, unless both give it to one and the same route
that only generates. -/
def Harmless (r : Router) (g : Registry) : Prop :=
  ∀ (name : String) (t : Target), r.named[name]? = some t →
    g.named[name]? = none ∨ ∃ x, t = .detached x ∧ g.named[name]? = some (.detached x)

/-- Routes of a harmless pass keep names unique. -/
theorem Beside.namesUnique (h : Beside r g k k' r') (hharmless : r.Harmless g)
    (hr : NamesUnique r.routes r.named) (hg : NamesUnique g.routes g.named) :
    NamesUnique r'.routes r'.named := by
  intro m z name hz hname
  rw [h.named]
  rcases h.exhausted m z hz with ⟨i, x, rfl, hx, rfl⟩ | ⟨j, y, rfl, hy, rfl⟩
  · have hold := hr i x name hx hname
    -- A registered route of this name is in the router, so the pass has not given the name.
    rcases hharmless name _ hold with hnone | ⟨d, hd, -⟩
    · rw [hnone, hold]
      rfl
    · cases hd
  · rw [hg j y name hy hname]
    rfl

theorem Sound.exists_route? (hr : r.Sound) {name : String} {t : Target}
    (ht : r.named[name]? = some t) : ∃ x, t.route? r.routes = some x := by
  have hnames := hr.named name t ht
  cases t with
  | registered i =>
    obtain ⟨x, hx, -⟩ := hnames
    exact ⟨x, hx⟩
  | detached x => exact ⟨x, rfl⟩

/-- The route that a target of a sound router stands for, moved with the others. -/
theorem Beside.route?_shift (h : Beside r g k k' r') (hr : r.Sound) {name : String} {t : Target}
    (ht : r.named[name]? = some t) {x : Route} (hx : t.route? r.routes = some x) :
    (t.shift k).route? r'.routes = some (x.moved k) := by
  have hnames := hr.named name t ht
  cases t with
  | registered i =>
    have hindex := hr.placed i x hx
    refine (h.old i x hx).trans ?_
    rw [Route.moved, hindex]
    rfl
  | detached d =>
    obtain rfl := Option.some.inj hx
    rw [Route.moved_of_none hnames.2]
    rfl

/-- Where a name of the pass leads to the route that the router gives it to, both give it to one
route that only generates: two registered routes are at different places. -/
theorem Beside.eq_detached (h : Beside r g k k' r') (hr : r.Sound) (hg : g.Sound) {name : String}
    {t u : Target} (ht : r.named[name]? = some t) (hu : g.named[name]? = some u) {x : Route}
    (hx : t.route? r.routes = some x) (hsame : (u.shift k').route? r'.routes = some (x.moved k)) :
    t = .detached x ∧ u = .detached x := by
  have hnames := hr.named name t ht
  have hnames' := hg.named name u hu
  -- A route knows its place, so the two targets are of the same kind.
  cases u with
  | registered j =>
    obtain ⟨y, hy, -⟩ := hnames'
    have hplace := congrArg Route.index (Option.some.inj (hsame.symm.trans (h.new j y hy)))
    cases t with
    | registered i =>
      rw [Route.moved, hr.placed i x hx] at hplace
      have hi := (List.getElem?_eq_some_iff.mp hx).1
      have hj := (List.getElem?_eq_some_iff.mp hy).1
      exact absurd (Option.some.inj hplace) (h.apart i j hi hj)
    | detached d =>
      obtain rfl := Option.some.inj hx
      rw [Route.moved_of_none hnames.2, hnames.2] at hplace
      cases hplace
  | detached d =>
    have hd : d = x.moved k := Option.some.inj hsame
    cases t with
    | registered i =>
      have hplace := congrArg Route.index hd
      rw [Route.moved, hr.placed i x hx, hnames'.2] at hplace
      cases hplace
    | detached d' =>
      obtain rfl := Option.some.inj hx
      rw [Route.moved_of_none hnames.2] at hd
      exact ⟨rfl, by rw [hd]⟩

/-- Names go on standing for the same routes exactly if the pass is harmless. -/
theorem Beside.stable_iff_harmless (h : Beside r g k k' r') (hr : r.Sound) (hg : g.Sound) :
    (∀ name x, r.resolve? name = some x → r'.resolve? name = some (x.moved k)) ↔
      r.Harmless g := by
  constructor
  · intro hstable name t ht
    obtain ⟨x, hx⟩ := hr.exists_route? ht
    have hmoved := hstable name x (Option.bind_eq_some_iff.mpr ⟨t, ht, hx⟩)
    rw [resolve?, h.named] at hmoved
    cases hu : g.named[name]? with
    | none => exact .inl rfl
    | some u =>
      rw [hu, Option.map_some, Option.some_or, Option.bind_some] at hmoved
      obtain ⟨rfl, rfl⟩ := h.eq_detached hr hg ht hu hx hmoved
      exact .inr ⟨x, rfl, rfl⟩
  · intro hharmless name x hx
    obtain ⟨t, ht, hx⟩ := Option.bind_eq_some_iff.mp hx
    have hmoved := h.route?_shift hr ht hx
    rw [resolve?, h.named, ht]
    rcases hharmless name t ht with hnone | ⟨d, rfl, hd⟩
    · rw [hnone]
      exact hmoved
    · rw [hd]
      exact hmoved

end Router

/-! ### Whole runs -/

/-- No two routes of the table, or that it only generates from, have the same name: a route that has
a name is the one that the name leads to. -/
def Table.Distinct (t : Table) : Prop :=
  ∀ (x : Route) (name : String), (x ∈ t.routes ∨ ∃ m : String, t.named[m]? = some x) →
    x.name = some name → t.named[name]? = some x

namespace Router

variable {r : Router}

theorem Current.getElem?_named (hr : r.Current) {t : Table} (ht : r.snapshot = some t)
    (name : String) : t.named[name]? = r.resolve? name := by
  rw [hr.snapshot t ht, Table.getElem?_named_compile]
  rfl

/-- A router with unique names makes a table with unique names. -/
theorem Current.distinct (hr : r.Current) (h : NamesUnique r.routes r.named) {t : Table}
    (ht : r.snapshot = some t) : t.Distinct := by
  have hserves : t.Serves r := hr.snapshot t ht ▸ Table.serves_compile hr.sound
  have hroutes : t.routes = r.routes := by
    rw [hr.snapshot t ht]
    rfl
  intro x name hx hname
  rcases hx with hx | ⟨m, hm⟩
  · obtain ⟨i, hi⟩ := List.mem_iff_getElem?.mp (hroutes ▸ hx)
    rw [hr.getElem?_named ht, resolve?, h i x name hi hname]
    exact hi
  -- A name leads to a route of that name, so no other name leads there.
  · obtain ⟨hmname, -⟩ := hserves.named m x hm
    obtain rfl := Option.some.inj (hmname.symm.trans hname)
    exact hm

theorem table_eq_ok {t : Table} : r.table = .ok t ↔ r.snapshot = some t := by
  unfold table
  cases r.snapshot <;> simp

/-! ### Registries of passes -/

/-- The router into which the registries of some passes have been installed one after the other. -/
def installAll (o : Options) (passes : List (Placement × Registry)) : Router :=
  passes.foldl (fun r x => r.install x.1 x.2) { options := o }

/-- Something holds of every registry that is installed next to the routes of the router, and of the
router before it. -/
def EachInstalled (o : Options) (passes : List (Placement × Registry))
    (P : Router → Placement → Registry → Prop) : Prop :=
  ∀ before p g rest, passes = before ++ (p, g) :: rest → p ≠ .replace → P (installAll o before) p g

/-- A name that resolves before a registry is installed resolves to the same route after it, up to
its place. -/
def Stable (r : Router) (p : Placement) (g : Registry) : Prop :=
  ∀ t, r.table = .ok t → ∃ t', (r.install p g).table = .ok t' ∧
    ∀ (name : String) (x : Route), t.named[name]? = some x →
      t'.named[name]? = some (x.moved (p.offset g))

section Installed

variable {o : Options} {p : Placement} {g : Registry} {registries : List (Placement × Registry)}

theorem installAll_concat (x : Placement × Registry) :
    installAll o (registries ++ [x]) = (installAll o registries).install x.1 x.2 :=
  List.foldl_append

theorem arises_installAll (h : ∀ x ∈ registries, x.2.Arises o) :
    (installAll o registries).Arises o := by
  induction registries using List.reverseRecOn with
  | nil => exact .start
  | append_singleton registries x ih =>
    obtain ⟨hbefore, hx⟩ := List.forall_mem_append.mp h
    rw [installAll_concat]
    exact (ih hbefore).install x.1 (hx x List.mem_cons_self)

/-- Harmless registries keep names unique. -/
theorem namesUnique_installAll (h : ∀ x ∈ registries, x.2.Arises o)
    (hharmless : EachInstalled o registries fun r _ g => r.Harmless g) :
    NamesUnique (installAll o registries).routes (installAll o registries).named := by
  induction registries using List.reverseRecOn with
  | nil =>
    intro i x name hx
    cases hx
  | append_singleton registries x ih =>
    obtain ⟨p, g⟩ := x
    obtain ⟨hbefore, hlast⟩ := List.forall_mem_append.mp h
    have hunique := ih hbefore fun before p' g' rest hsplit =>
      hharmless before p' g' (rest ++ [(p, g)]) (by simp [hsplit])
    have hpass : NamesUnique g.routes g.named := .of_arises (hlast (p, g) List.mem_cons_self)
    rw [installAll_concat]
    by_cases hp : p = .replace
    · subst hp
      intro i x name hx hname
      obtain ⟨y, hy, rfl⟩ := Option.map_eq_some_iff.mp ((getElem?_reindex 0 i _).symm.trans hx)
      exact hpass i y name hy hname
    · obtain ⟨k', hbeside⟩ := (arises_installAll hbefore).current.sound.exists_beside hp g
      exact hbeside.namesUnique (hharmless registries p g [] rfl hp) hunique hpass

/-- Names go on resolving to the same routes exactly if the registry is harmless. -/
theorem Arises.stable_iff_harmless (hr : r.Arises o) (hg : g.Arises o) (hp : p ≠ .replace) :
    r.Stable p g ↔ r.Harmless g := by
  have hnext : (r.install p g).Current := (hr.install p hg).current
  have hresolve : ∀ name, (r.install p g).resolve? name = (r.place p g).resolve? name :=
    fun _ => rfl
  obtain ⟨k', hbeside⟩ := hr.current.sound.exists_beside hp g
  rw [← hbeside.stable_iff_harmless hr.current.sound hg.sound]
  constructor
  · intro hstable name x hx
    cases hsnapshot : r.snapshot with
    | none =>
      rw [resolve?, hr.eq_start hsnapshot, Std.ExtTreeMap.getElem?_empty] at hx
      cases hx
    | some t =>
      obtain ⟨t', ht', hnames⟩ := hstable t (table_eq_ok.mpr hsnapshot)
      rw [← hresolve, ← hnext.getElem?_named (table_eq_ok.mp ht')]
      exact hnames name x ((hr.current.getElem?_named hsnapshot name).trans hx)
  · intro hstable t ht
    refine ⟨_, table_eq_ok.mpr rfl, fun name x hx => ?_⟩
    rw [hnext.getElem?_named rfl, hresolve]
    exact hstable name x ((hr.current.getElem?_named (table_eq_ok.mp ht) name).symm.trans hx)

/-- Names over any registries of passes. No two routes of the final table have the same name, and no
registry that is put behind or before the routes has changed what a name stands for, exactly if none
of these registries has given a name that the router had already. -/
theorem distinct_and_stable_iff_harmless (h : ∀ x ∈ registries, x.2.Arises o) :
    (∀ t, (installAll o registries).table = .ok t → t.Distinct) ∧
        EachInstalled o registries Stable ↔
      EachInstalled o registries fun r _ g => r.Harmless g := by
  have heach : EachInstalled o registries Stable ↔
      EachInstalled o registries fun r _ g => r.Harmless g := by
    refine forall₄_congr fun before p g rest => forall₂_congr fun hsplit hp => ?_
    rw [hsplit] at h
    obtain ⟨hbefore, hrest⟩ := List.forall_mem_append.mp h
    exact (arises_installAll hbefore).stable_iff_harmless (hrest (p, g) List.mem_cons_self) hp
  rw [heach]
  refine and_iff_right_of_imp fun hharmless t ht => ?_
  exact (arises_installAll h).current.distinct (namesUnique_installAll h hharmless)
    (table_eq_ok.mp ht)

end Installed

/-! ### Declarations -/

/-- The router after some passes from the start. -/
def after (o : Options) (passes : List (Placement × Declaration)) : Router :=
  declareAll { options := o } passes

/-- Something holds of every pass that succeeds and puts its routes next to those of the router, and
of the router before it. -/
def EachAddition (o : Options) (passes : List (Placement × Declaration))
    (P : Router → Placement → Declaration → Prop) : Prop :=
  ∀ before p d rest, passes = before ++ (p, d) :: rest → d.succeeds o = true → p ≠ .replace →
    P (after o before) p d

variable {o : Options} {passes : List (Placement × Declaration)} {p : Placement} {d : Declaration}

theorem arises_after (o : Options) (passes : List (Placement × Declaration)) :
    (after o passes).Arises o := Arises.start.declareAll passes

theorem after_concat (pass : Placement × Declaration) :
    after o (passes ++ [pass]) = ((after o passes).declare pass.1 pass.2).2.2 :=
  List.foldl_append

theorem options_after (o : Options) (passes : List (Placement × Declaration)) :
    (after o passes).options = o := (arises_after o passes).options_eq

/-- One more pass that succeeds is installed. -/
theorem after_concat_of_succeeds (hd : d.succeeds o = true) :
    after o (passes ++ [(p, d)]) = (after o passes).install p (d.runPass o).2.registry := by
  rw [← options_after o passes] at hd
  rw [after_concat, declare_of_succeeds hd, options_after]

/-- One more pass that fails changes nothing. -/
theorem after_concat_of_not_succeeds (hd : d.succeeds o = false) :
    after o (passes ++ [(p, d)]) = after o passes := by
  rw [← options_after o passes] at hd
  rw [after_concat, declare_of_not_succeeds hd]

/-- The registries of the passes that succeed. -/
def installed (o : Options) (passes : List (Placement × Declaration)) :
    List (Placement × Registry) :=
  passes.filterMap fun x =>
    if x.2.succeeds o then some (x.1, (x.2.runPass o).2.registry) else none

theorem arises_of_mem_installed {x : Placement × Registry} (h : x ∈ installed o passes) :
    x.2.Arises o := by
  obtain ⟨⟨p, d⟩, -, hx⟩ := List.mem_filterMap.mp h
  obtain ⟨-, hx⟩ := Option.ite_none_right_eq_some.mp hx
  exact Option.some.inj hx ▸ d.arises_runPass o

/-- Passes over declarations install the registries of those that succeed. -/
theorem after_eq_installAll (o : Options) (passes : List (Placement × Declaration)) :
    after o passes = installAll o (installed o passes) := by
  induction passes using List.reverseRecOn with
  | nil => rfl
  | append_singleton passes pass ih =>
    obtain ⟨p, d⟩ := pass
    rw [installed, List.filterMap_append, ← installed, List.filterMap_cons, List.filterMap_nil]
    cases hd : d.succeeds o with
    | true =>
      rw [after_concat_of_succeeds hd, ih, if_pos rfl]
      exact (installAll_concat (p, (d.runPass o).2.registry)).symm
    | false =>
      rw [after_concat_of_not_succeeds hd, ih, if_neg Bool.false_ne_true, List.append_nil]

/-- What holds of every declaration that is added holds of every registry that is installed. -/
theorem eachAddition_iff {P : Router → Placement → Registry → Prop} :
    (EachAddition o passes fun r p d => P r p (d.runPass o).2.registry) ↔
      EachInstalled o (installed o passes) P := by
  constructor
  · intro h before p g rest hsplit hp
    obtain ⟨ds, ds', rfl, hbefore, hrest⟩ := List.filterMap_eq_append_iff.mp hsplit
    obtain ⟨skipped, ⟨p', d⟩, rest', rfl, hskipped, hd, -⟩ := List.filterMap_eq_cons_iff.mp hrest
    obtain ⟨hsucceeds, heq⟩ := Option.ite_none_right_eq_some.mp hd
    obtain ⟨rfl, rfl⟩ := Prod.mk.inj (Option.some.inj heq)
    have hP := h (ds ++ skipped) p' d rest' (List.append_assoc _ _ _).symm hsucceeds hp
    have hinstalled : installed o (ds ++ skipped) = before := by
      rw [installed, List.filterMap_append, hbefore, List.filterMap_eq_nil_iff.mpr hskipped,
        List.append_nil]
    rwa [after_eq_installAll, hinstalled] at hP
  · rintro h before p d rest rfl hd hp
    rw [after_eq_installAll]
    refine h (installed o before) p _ (installed o rest) ?_ hp
    rw [installed, List.filterMap_append, List.filterMap_cons, if_pos hd]
    rfl

/-- A name that resolves before a pass resolves to the same route after it, up to its place. -/
def StableNames (r : Router) (p : Placement) (d : Declaration) : Prop :=
  ∀ t, r.table = .ok t → ∃ t', (r.declare p d).2.2.table = .ok t' ∧
    ∀ (name : String) (x : Route), t.named[name]? = some x →
      t'.named[name]? = some (x.moved (p.offset (d.runPass r.options).2.registry))

/-- A declaration that is added keeps names stable exactly if its registry does. -/
theorem stableNames_iff (hd : d.succeeds o = true) :
    (after o passes).StableNames p d ↔ (after o passes).Stable p (d.runPass o).2.registry := by
  rw [← options_after o passes] at hd
  rw [StableNames, declare_of_succeeds hd, options_after, Stable]

/-- Names over any passes. No two routes of the final table have the same name, and no pass that is
put behind or before the routes has changed what a name stands for, exactly if none of these passes
has given a name that the router had already. Within one pass, nothing need be asked for. -/
theorem names_unique_iff_harmless (o : Options) (passes : List (Placement × Declaration)) :
    (∀ t, (after o passes).table = .ok t → t.Distinct) ∧ EachAddition o passes StableNames ↔
      EachAddition o passes fun r _ d => r.Harmless (d.runPass o).2.registry := by
  have hstable : EachAddition o passes StableNames ↔
      EachAddition o passes fun r p d => r.Stable p (d.runPass o).2.registry :=
    forall₄_congr fun _ _ _ _ => forall₃_congr fun _ hd _ => stableNames_iff hd
  rw [hstable, eachAddition_iff, eachAddition_iff, after_eq_installAll]
  exact distinct_and_stable_iff_harmless fun _ => arises_of_mem_installed

/-- A pass that gives a name. -/
def firstPass : Placement × Declaration :=
  (.replace, .matchPath (.literal "/a") (.route { names := ["x"] }))

/-- A pass that gives the same name to a route behind the others. -/
def secondPass : Placement × Declaration :=
  (.append, .matchPath (.literal "/b") (.route { names := ["x"] }))

/-- The places and names of all routes of a router, and the place of the route with a name. -/
def places (r : Router) (name : String) :
    Option (List (Option Nat × Option String) × Option Nat) :=
  r.table.toOption.map fun t =>
    (t.routes.map fun x => (x.index, x.name), t.named[name]?.bind (·.index))

/-- Both passes succeed. Then two routes have the name, which stands for the second route now. -/
theorem names_not_unique_secondPass :
    (firstPass.2.succeeds {} = true ∧ secondPass.2.succeeds {} = true) ∧
      (∃ t, (after {} [firstPass, secondPass]).table = .ok t ∧ ¬t.Distinct) ∧
      ¬EachAddition {} [firstPass, secondPass] StableNames := by
  have hfirst : places (after {} [firstPass]) "x" = some ([(some 0, some "x")], some 0) := by
    decide +kernel
  have hsecond : places (after {} [firstPass, secondPass]) "x" =
      some ([(some 0, some "x"), (some 1, some "x")], some 1) := by
    decide +kernel
  have hsucceeds : firstPass.2.succeeds {} = true ∧ secondPass.2.succeeds {} = true := by
    decide +kernel
  obtain ⟨t, ht, hplaces⟩ := Option.map_eq_some_iff.mp hfirst
  obtain ⟨t', ht', hplaces'⟩ := Option.map_eq_some_iff.mp hsecond
  rw [toOption_eq_some_iff] at ht ht'
  obtain ⟨-, hnamed⟩ := Prod.mk.inj hplaces
  obtain ⟨hroutes', hnamed'⟩ := Prod.mk.inj hplaces'
  refine ⟨hsucceeds, ⟨t', ht', fun hdistinct => ?_⟩, fun hstable => ?_⟩
  · have hmem : (some 0, some "x") ∈ t'.routes.map fun x => (x.index, x.name) := by
      rw [hroutes']
      exact List.mem_cons_self
    obtain ⟨x, hx, hpair⟩ := List.mem_map.mp hmem
    obtain ⟨hindex, hname⟩ := Prod.mk.inj hpair
    rw [hdistinct x "x" (.inl hx) hname, Option.bind_some, hindex] at hnamed'
    cases hnamed'
  · obtain ⟨t₂, ht₂, hnames⟩ :=
      hstable [firstPass] .append secondPass.2 [] rfl hsucceeds.2 (by decide) t ht
    obtain rfl := Except.ok.inj (ht₂.symm.trans ht')
    obtain ⟨x, hx, hindex⟩ := Option.bind_eq_some_iff.mp hnamed
    rw [hnames "x" x hx, Option.bind_some, Route.moved, hindex] at hnamed'
    cases hnamed'

end Router

end HttpRouting
