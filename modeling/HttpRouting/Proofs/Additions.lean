import HttpRouting.Proofs.PassEffects
import HttpRouting.Proofs.RouteNames

/-!
# Tables with added routes

Routes that a pass puts behind those of a router are asked only where those have no answer, and
routes that it puts before them are asked first. What a route answers does not depend on its place,
and neither does the URL of a route with a name, because errors call the route by its name. So the
table after such a pass is made of the table before it and of the one that the pass makes alone.

## Main definitions

* `raised` — an answer, counted behind some more routes
* `Router.answer?` — the answer of a router, which has none without a table
* `Table.Keeps` — a table has the routes and the URLs of another one

## Main results

* `Table.match?_compile_append` — the answer of routes in front of others
* `Router.Beside.resolve?_of_undeclared` — a name that the pass does not give
* `Router.Arises.conservative` — the table after a registry has been added to any router
* `Router.additions_conservative` — the table after a pass over a declaration that adds routes
-/

namespace HttpRouting

/-! ### Answers -/

/-- An answer whose index is counted behind `n` more routes. -/
def raised (n : Nat) (a : Nat × Params) : Nat × Params := (a.1 + n, a.2)

namespace Table

variable {q : Request}

/-- The places are counted from the first one. -/
theorem firstMatch?_eq_map_raised (n : Nat) (ms : List Matcher) :
    firstMatch? q n ms = (firstMatch? q 0 ms).map (raised n) := by
  -- Further in, the search does not start at the first place, so both starts are raised.
  suffices hadd : ∀ k, firstMatch? q (k + n) ms = (firstMatch? q k ms).map (raised n) by
    simpa using hadd 0
  induction ms with
  | nil => exact fun _ => rfl
  | cons m ms ih =>
    intro k
    rw [firstMatch?, firstMatch?]
    cases m q with
    | some ps => rfl
    | none =>
      have hnext : k + n + 1 = k + 1 + n := by omega
      dsimp only
      rw [hnext, ih]

/-- Matchers behind others are asked if those have no answer. -/
theorem firstMatch?_append (n : Nat) (ms ms' : List Matcher) :
    firstMatch? q n (ms ++ ms') =
      (firstMatch? q n ms).or (firstMatch? q (n + ms.length) ms') := by
  induction ms generalizing n with
  | nil => rfl
  | cons m ms ih =>
    rw [List.cons_append, firstMatch?, firstMatch?]
    cases m q with
    | some ps => rfl
    | none =>
      have hnext : n + 1 + ms.length = n + (m :: ms).length := by
        rw [List.length_cons]
        omega
      dsimp only
      rw [ih, hnext]

variable {o : Options}

/-- The answer of some routes under given options. -/
theorem match?_compile (rs : List Route) (named : Std.ExtTreeMap String Target) (m : Metrics) :
    (compile o rs named m).match? q = firstMatch? q 0 (rs.map (Route.match? o)) := rfl

/-- Routes in front of others answer first. -/
theorem match?_compile_append (rs rs' : List Route) (named : Std.ExtTreeMap String Target)
    (m : Metrics) :
    (compile o (rs ++ rs') named m).match? q =
      (firstMatch? q 0 (rs.map (Route.match? o))).or
        ((firstMatch? q 0 (rs'.map (Route.match? o))).map (raised rs.length)) := by
  rw [match?_compile, List.map_append, firstMatch?_append, firstMatch?_eq_map_raised (0 + _),
    List.length_map, Nat.zero_add]

end Table

/-! ### URLs -/

namespace Route

variable {x : Route} {name : String}

/-- A route with a name is called by it, wherever it stands. -/
theorem label_moved (h : x.name = some name) (k : Nat) : (x.moved k).label = x.label := by
  rw [label, label, h]
  simp only [moved, h]

/-- A route with a name makes the same URLs and fails with the same errors at all places. -/
theorem generate_moved (h : x.name = some name) (k : Nat) (s : Supply) (fallback : Params) :
    (x.moved k).generate s fallback = x.generate s fallback := by
  rw [generate, generate, label_moved h]
  rfl

end Route

/-- What a table has kept of another one after a pass: its routes, moved by some places, and the
routes and URLs of those names that the table of the pass alone does not know. -/
structure Table.Keeps (t old alone : Table) (offset : Nat) : Prop where
  /-- A route has changed in nothing but its place. -/
  routes : ∀ (i : Nat) (x : Route), old.routes[i]? = some x →
    t.routes[i + offset]? = some { x with index := some (i + offset) }
  /-- A name leads to the same route. -/
  named : ∀ (name : String) (x : Route), old.named[name]? = some x → alone.named[name]? = none →
    t.named[name]? = some (x.moved offset)
  /-- A name leads to the same URLs and errors. -/
  generate : ∀ (name : String) (x : Route), old.named[name]? = some x → alone.named[name]? = none →
    ∀ s fallback, t.generate name s fallback = old.generate name s fallback

namespace Router

/-- The answer of a router to a request. There is none before the router has a table. -/
def answer? (r : Router) (q : Request) : Option (Nat × Params) :=
  r.snapshot.bind fun t => t.match? q

variable {r r' : Router} {g : Registry} {k k' : Nat} {name : String} {x : Route}

/-- A name that the pass does not give stands for the same route as before. -/
theorem Beside.resolve?_of_undeclared (h : Beside r g k k' r') (hr : r.Sound)
    (hg : g.named[name]? = none) (hx : r.resolve? name = some x) :
    r'.resolve? name = some (x.moved k) := by
  obtain ⟨t, ht, hroute⟩ := Option.bind_eq_some_iff.mp hx
  rw [resolve?, h.named, hg, ht]
  exact h.route?_shift hr ht hroute

/-- The route that a name of a sound router stands for has that name. -/
theorem Sound.name_of_resolve? (hr : r.Sound) (hx : r.resolve? name = some x) :
    x.name = some name := by
  obtain ⟨t, ht, hroute⟩ := Option.bind_eq_some_iff.mp hx
  have hnames := hr.named name t ht
  cases t with
  | registered i =>
    obtain ⟨y, hy, hname⟩ := hnames
    obtain rfl := Option.some.inj (hy.symm.trans hroute)
    exact hname
  | detached d =>
    obtain rfl := Option.some.inj hroute
    exact hnames.1

/-- A router with the routes of another one next to those of a pass keeps what that one had. -/
theorem Beside.keeps (h : Beside r g k k' r') (hr : r.Current) {old alone : Table}
    (hold : r.snapshot = some old)
    (halone : ∀ name : String, alone.named[name]? = none → g.named[name]? = none)
    (o : Options) (m : Metrics) :
    (Table.compile o r'.routes r'.named m).Keeps old alone k := by
  have hnamed : ∀ (name : String) (x : Route), old.named[name]? = some x →
      alone.named[name]? = none → x.name = some name ∧
        (Table.compile o r'.routes r'.named m).named[name]? = some (x.moved k) := by
    intro name x hx hname
    have hresolve := (hr.getElem?_named hold name).symm.trans hx
    refine ⟨hr.sound.name_of_resolve? hresolve, (Table.getElem?_named_compile name).trans ?_⟩
    exact h.resolve?_of_undeclared hr.sound (halone name hname) hresolve
  refine ⟨fun i x hx => ?_, fun name x hx hname => (hnamed name x hx hname).2,
    fun name x hx hname s fallback => ?_⟩
  · rw [hr.snapshot old hold] at hx
    exact h.old i x hx
  · obtain ⟨hxname, hnew⟩ := hnamed name x hx hname
    rw [Table.generate, Table.generate, hx, hnew]
    dsimp only
    rw [Route.generate_moved hxname]

section Place

variable {o : Options} {q : Request} {named : Std.ExtTreeMap String Target} {m : Metrics}

/-- Routes that replace others answer alone. -/
theorem match?_place_replace (r : Router) (g : Registry) :
    (Table.compile o (r.place .replace g).routes named m).match? q =
      Table.firstMatch? q 0 (g.routes.map (Route.match? o)) := by
  rw [Table.match?_compile, place, map_match?_reindex]

/-- Routes that are put behind others answer last. -/
theorem match?_place_append (r : Router) (g : Registry) :
    (Table.compile o (r.place .append g).routes named m).match? q =
      (Table.firstMatch? q 0 (r.routes.map (Route.match? o))).or
        ((Table.firstMatch? q 0 (g.routes.map (Route.match? o))).map (raised r.routes.length)) := by
  rw [place, Table.match?_compile_append, map_match?_reindex]

/-- Routes that are put before others answer first. -/
theorem match?_place_prepend (r : Router) (g : Registry) :
    (Table.compile o (r.place .prepend g).routes named m).match? q =
      (Table.firstMatch? q 0 (g.routes.map (Route.match? o))).or
        ((Table.firstMatch? q 0 (r.routes.map (Route.match? o))).map (raised g.routes.length)) := by
  rw [place, Table.match?_compile_append, map_match?_reindex, map_match?_reindex, length_reindex]

end Place

/-- The table of a sound pass knows all the names that the pass gives. -/
theorem named_eq_none_of_compile (hg : g.Sound) {o : Options} {n : Nat} {m : Metrics}
    (h : (Table.compile o (reindex n g.routes) g.named m).named[name]? = none) :
    g.named[name]? = none := by
  rw [Table.getElem?_named_compile] at h
  cases ht : g.named[name]? with
  | none => rfl
  | some t =>
    rw [ht, Option.bind_some] at h
    have hnames := hg.named name t ht
    cases t with
    -- A name of a sound pass leads to a route, and no route is lost when it is given its place.
    | registered i =>
      obtain ⟨x, hx, -⟩ := hnames
      rw [Target.route?, getElem?_reindex, hx] at h
      cases h
    | detached d => cases h

variable {o : Options} {passes : List (Placement × Declaration)} {d : Declaration}

/-- A router answers from its routes, also without a table, because then it has no routes. -/
theorem Arises.answer?_eq (hr : r.Arises o) (q : Request) :
    r.answer? q = Table.firstMatch? q 0 (r.routes.map (Route.match? o)) := by
  cases hsnapshot : r.snapshot with
  | none =>
    rw [answer?, hsnapshot, hr.eq_start hsnapshot]
    rfl
  | some t =>
    have ht := hr.current.snapshot t hsnapshot
    rw [hr.options_eq] at ht
    rw [answer?, hsnapshot, Option.bind_some, ht, Table.match?_compile]

/-- Registries that are installed next to the routes of a router are conservative, whatever passes
have led to the router and whatever the pass of the registry has done. -/
theorem Arises.conservative (hr : r.Arises o) (hg : g.Arises o) :
    ∃ alone behind before, (({ options := o } : Router).install .replace g).table = .ok alone ∧
      (r.install .append g).table = .ok behind ∧ (r.install .prepend g).table = .ok before ∧
      (∀ q, behind.match? q = (r.answer? q).or
        ((alone.match? q).map (raised r.routes.length))) ∧
      (∀ q, before.match? q = (alone.match? q).or
        ((r.answer? q).map (raised alone.routes.length))) ∧
      ∀ old, r.table = .ok old → behind.Keeps old alone 0 ∧
        before.Keeps old alone alone.routes.length := by
  have hbehind := table_install r .append g
  have hbefore := table_install r .prepend g
  rw [hr.options_eq] at hbehind hbefore
  -- The table alone has the routes of the pass with places of its own, so it has as many.
  have hlength : (reindex 0 g.routes).length = g.routes.length := length_reindex 0 g.routes
  refine ⟨_, _, _, table_install _ .replace g, hbehind, hbefore, fun q => ?_, fun q => ?_,
    fun old hold => ⟨?_, ?_⟩⟩
  · rw [hr.answer?_eq, match?_place_append, match?_place_replace]
  · rw [hr.answer?_eq, match?_place_prepend, match?_place_replace, ← hlength]
    rfl
  · obtain ⟨k', hbeside⟩ := hr.current.sound.exists_beside (p := .append) nofun g
    exact hbeside.keeps hr.current (table_eq_ok.mp hold)
      (fun name => named_eq_none_of_compile hg.sound) o _
  · obtain ⟨k', hbeside⟩ := hr.current.sound.exists_beside (p := .prepend) nofun g
    rw [Placement.offset, ← hlength] at hbeside
    exact hbeside.keeps hr.current (table_eq_ok.mp hold)
      (fun name => named_eq_none_of_compile hg.sound) o _

/-- Passes that add routes are conservative. A pass that succeeds makes a table alone. Behind other
passes, its routes answer where the router had no answer, with indexes raised by the number of the
routes of the router. Before them, its routes answer first, and the answers of the router are raised
by the number of the routes of the pass. Either way, every route of the router is kept but for its
place, and every name of the router that the pass does not give leads to the same route, and so to
the same URLs and errors. -/
theorem additions_conservative (o : Options) (passes : List (Placement × Declaration))
    (d : Declaration) (hd : d.succeeds o = true) :
    ∃ alone behind before, (after o [(.replace, d)]).table = .ok alone ∧
      (after o (passes ++ [(.append, d)])).table = .ok behind ∧
      (after o (passes ++ [(.prepend, d)])).table = .ok before ∧
      (∀ q, behind.match? q = ((after o passes).answer? q).or
        ((alone.match? q).map (raised (after o passes).routes.length))) ∧
      (∀ q, before.match? q = (alone.match? q).or
        (((after o passes).answer? q).map (raised alone.routes.length))) ∧
      ∀ old, (after o passes).table = .ok old →
        behind.Keeps old alone 0 ∧ before.Keeps old alone alone.routes.length := by
  have halone : after o [(.replace, d)] =
      ({ options := o } : Router).install .replace (d.runPass o).2.registry :=
    @after_concat_of_succeeds o [] .replace d hd
  rw [halone, after_concat_of_succeeds hd, after_concat_of_succeeds hd]
  exact (arises_after o passes).conservative (d.arises_runPass o)

/-- A pass with one route. -/
def earlierPasses : List (Placement × Declaration) :=
  [(.replace, .matchPath (.literal "/a") (.route { names := ["a"] }))]

/-- A declaration with another route. -/
def laterDeclaration : Declaration := .matchPath (.literal "/b") (.route { names := ["b"] })

/-- Each of the two routes is found behind the other one. -/
theorem additions_conservative_laterDeclaration :
    laterDeclaration.succeeds {} = true ∧
    ∃ behind before,
      (after {} (earlierPasses ++ [(.append, laterDeclaration)])).table = .ok behind ∧
      (after {} (earlierPasses ++ [(.prepend, laterDeclaration)])).table = .ok before ∧
      (behind.match? { method := "GET", path := "/b" }).map (·.1) = some 1 ∧
      (before.match? { method := "GET", path := "/a" }).map (·.1) = some 1 := by
  have hd : laterDeclaration.succeeds {} = true := by decide +kernel
  obtain ⟨alone, behind, before, halone, hbehind, hbefore, hlast, hfirst, -⟩ :=
    additions_conservative {} earlierPasses laterDeclaration hd
  have hpass : ((after {} [(.replace, laterDeclaration)]).table.toOption.map fun t =>
      (t.routes.length, (t.match? { method := "GET", path := "/a" }).map (·.1),
        (t.match? { method := "GET", path := "/b" }).map (·.1))) = some (1, none, some 0) := by
    decide +kernel
  have hrouter : (after {} earlierPasses).routes.length = 1 ∧
      ((after {} earlierPasses).answer? { method := "GET", path := "/a" }).map (·.1) = some 0 ∧
      (after {} earlierPasses).answer? { method := "GET", path := "/b" } = none := by
    decide +kernel
  rw [halone] at hpass
  obtain ⟨hk, hpass⟩ := Prod.mk.inj (Option.some.inj hpass)
  obtain ⟨hpassA, hpassB⟩ := Prod.mk.inj hpass
  obtain ⟨hn, hrouterA, hrouterB⟩ := hrouter
  refine ⟨hd, behind, before, hbehind, hbefore, ?_, ?_⟩
  · obtain ⟨a, ha, hindex⟩ := Option.map_eq_some_iff.mp hpassB
    rw [hlast, hrouterB, ha, hn, Option.none_or, Option.map_some, Option.map_some, raised, hindex]
  · obtain ⟨a, ha, hindex⟩ := Option.map_eq_some_iff.mp hrouterA
    rw [hfirst, Option.map_eq_none_iff.mp hpassA, ha, hk, Option.none_or, Option.map_some,
      Option.map_some, raised, hindex]

end Router

end HttpRouting
