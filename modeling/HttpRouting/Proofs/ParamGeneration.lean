import HttpRouting.Proofs.DefaultRoute
import HttpRouting.Proofs.RouteNames

/-!
# Generating from parameters

A URL is generated from the first route that could have given the parameters, and else in the form
of the default route. Whether a route could have given them is asked of all parameters, but its path
is filled from those that are left when its own texts have been taken away. The two agree about
every placeholder except one that has the name of such a text: it counts as given, and then its
value is withheld. Unless the fallback has a value for it, the URL fails for that placeholder, and
there is no other failure but that of a missing route.

## Main definitions

* `Segment.failure?` — why a segment cannot be filled
* `Route.withholds` — a route takes away the value of one of its placeholders
* `Table.LacksRoute` — the failures for lack of a route

## Main results

* `Route.fill_eq_error_iff` — a path fails for the first segment that cannot be filled
* `Route.generate_eq_error_iff` — when a route that fits cannot be generated
* `Table.generateDefault_eq_error_iff` — when there is no URL in the form of the default route
* `Table.generateForParams_eq_error_iff` — all failures of generating from parameters
-/

namespace HttpRouting

variable {ps fallback : Params}

/-! ### Filling -/

/-- Why a segment cannot be filled, if it cannot. -/
def Segment.failure? (label : String) (value? : String → Option String) :
    Segment → Option GenerateError
  | literal _ => none
  | anonymous => some (.anonymousSegment label)
  | placeholder n => if (value? n).isSome then none else some (.missingParam label n)

namespace Route

variable {r : Route} {name : String} {e : GenerateError}

/-- A path fails for the first segment that cannot be filled. -/
theorem fill_eq_error_iff {label : String} {value? : String → Option String} {ss : List Segment} :
    fill label value? ss = .error e ↔ ss.findSome? (Segment.failure? label value?) = some e := by
  -- What stands in front of the rest of the path does not make it fail.
  have hfront : ∀ (t : String) (path : Except GenerateError String),
      (do return t ++ (← path)) = .error e ↔ path = .error e := by
    intro t path
    cases path with
    | ok s => exact ⟨nofun, nofun⟩
    | error e' => exact Iff.rfl
  induction ss with
  | nil => exact ⟨nofun, nofun⟩
  | cons s ss ih =>
    rw [List.findSome?_cons]
    cases s with
    | literal t => exact (hfront t _).trans ih
    | anonymous =>
      rw [fill, Segment.failure?, Except.error.injEq, Option.some.injEq]
    | placeholder n =>
      rw [fill, Segment.failure?]
      cases value? n with
      | some v => exact (hfront _ _).trans ih
      | none =>
        dsimp only
        rw [Except.error.injEq, Option.isSome_none, if_neg Bool.false_ne_true, Option.some.injEq]

/-- Whether the route takes away the value of a placeholder before it fills its path: the value is
the text that it has for the parameter of that name, and the fallback has none. -/
def withholds (r : Route) (ps fallback : Params) (name : String) : Bool :=
  (ps[name]?.any fun v => r.params.any fun p => p.1 == name && p.2.literal? == some v) &&
    !fallback.contains name

/-- A value that counts when a route is chosen is there when its path is filled, unless it is
withheld. -/
theorem isSome_withoutLiterals (h : (ps.contains name || fallback.contains name) = true) :
    ((r.withoutLiterals ps)[name]?.or fallback[name]?).isSome = !r.withholds ps fallback name := by
  rw [Std.ExtTreeMap.contains_eq_isSome_getElem?, Std.ExtTreeMap.contains_eq_isSome_getElem?] at h
  rw [Option.isSome_or, withholds, withoutLiterals, Std.ExtTreeMap.getElem?_filter',
    Std.ExtTreeMap.contains_eq_isSome_getElem?]
  cases hfallback : fallback[name]? with
  | some v => simp
  | none =>
    cases hvalue : ps[name]? with
    | none =>
      rw [hvalue, hfallback] at h
      cases h
    | some v => simp [Option.filter_some, apply_ite]

/-- A route that fits has segments, all of which could be filled from everything that is given. -/
theorem exists_segments_of_isConsistentWith (h : r.isConsistentWith ps fallback = true) :
    r.hasPattern = false ∧
      ∃ segments, r.segments = some segments ∧ ∀ s ∈ segments, canFill ps fallback s = true := by
  unfold isConsistentWith at h
  rw [Bool.and_eq_true, Bool.and_eq_true, Bool.not_eq_true'] at h
  obtain ⟨⟨hpattern, -⟩, h⟩ := h
  cases hsegments : r.segments with
  | none =>
    rw [hsegments] at h
    cases h
  | some segments =>
    rw [hsegments] at h
    exact ⟨hpattern, segments, rfl, List.all_eq_true.mp (Bool.and_eq_true_iff.mp h).2⟩

/-- A placeholder that could be filled from everything fails only for a value that is withheld. -/
theorem failure?_placeholder {n : String} (h : canFill ps fallback (.placeholder n) = true) :
    (Segment.placeholder n).failure? r.label
        (fun n => (r.withoutLiterals ps)[n]?.or fallback[n]?) =
      if r.withholds ps fallback n then some (.missingParam r.label n) else none := by
  rw [Segment.failure?, isSome_withoutLiterals h]
  cases r.withholds ps fallback n <;> rfl

theorem findSome?_failure? {segments : List Segment}
    (h : ∀ s ∈ segments, canFill ps fallback s = true) :
    segments.findSome?
        (Segment.failure? r.label fun n => (r.withoutLiterals ps)[n]?.or fallback[n]?) =
      ((Segment.names segments).find? (r.withholds ps fallback)).map (.missingParam r.label) := by
  induction segments with
  | nil => rfl
  | cons s ss ih =>
    obtain ⟨hs, hss⟩ := List.forall_mem_cons.mp h
    rw [List.findSome?_cons, ih hss]
    cases s with
    | literal t => rfl
    | anonymous => cases hs
    | placeholder n =>
      have hnames : Segment.names (.placeholder n :: ss) = n :: Segment.names ss := rfl
      rw [failure?_placeholder hs, hnames, List.find?_cons]
      cases r.withholds ps fallback n <;> rfl

/-- A route that fits is generated from what is left of the parameters, unless it withholds the
value of one of its placeholders. The first one of these is missing then. -/
theorem generate_eq_error_iff (h : r.isConsistentWith ps fallback = true) :
    r.generate (.params (r.withoutLiterals ps)) fallback = .error e ↔
      ∃ name, (Segment.names (r.segments.getD [])).find? (r.withholds ps fallback) = some name ∧
        e = .missingParam r.label name := by
  obtain ⟨hpattern, segments, hsegments, hfill⟩ := exists_segments_of_isConsistentWith h
  have hvalue? : (fun n => (Supply.params (r.withoutLiterals ps)).value? n <|> fallback[n]?) =
      fun n => (r.withoutLiterals ps)[n]?.or fallback[n]? := by
    funext n
    exact Option.orElse_eq_or
  have hgenerate : r.generate (.params (r.withoutLiterals ps)) fallback = .error e ↔
      fill r.label (fun n => (r.withoutLiterals ps)[n]?.or fallback[n]?) segments = .error e := by
    unfold generate
    rw [hpattern, hsegments, ← hvalue?]
    dsimp only
    cases fill r.label _ segments with
    | ok path => exact ⟨nofun, nofun⟩
    | error e' => exact Iff.rfl
  rw [hgenerate, fill_eq_error_iff, findSome?_failure? hfill, hsegments, Option.getD_some,
    Option.map_eq_some_iff]
  exact exists_congr fun name => and_congr_right fun _ => eq_comm

end Route

/-! ### The form of the default route -/

namespace Table

/-- A URL in the form of the default route lacks a controller, or an action that it needs. -/
theorem generateDefault_eq_error_iff {e : GenerateError} :
    generateDefault ps fallback = .error e ↔
      (usedController ps fallback = none ∧ e = .noController) ∨
        ∃ controller, usedController ps fallback = some controller ∧
          (∃ name ∈ ps, name ≠ "controller") ∧
          ps["action"]?.or fallback["action"]? = none ∧ e = .noAction controller := by
  have horelse : ∀ o o' : Option String, (o <|> o') = o.or o' := fun _ _ => Option.orElse_eq_or
  have hneeded : (∃ name ∈ ps, name ≠ "controller") ↔ (ps.erase "controller").isEmpty = false := by
    rw [← Bool.not_eq_true, isEmpty_erase_iff]
    simp
  unfold generateDefault
  dsimp only
  rw [needsAction_eq, horelse, horelse, hneeded, usedController]
  cases ps["controller"]?.or fallback["controller"]? with
  | none =>
    refine ⟨fun h => .inl ⟨rfl, (Except.error.inj h).symm⟩, ?_⟩
    rintro (⟨-, rfl⟩ | ⟨_, h, -⟩)
    · rfl
    · cases h
  | some controller =>
    cases (ps.erase "controller").isEmpty with
    | true =>
      refine ⟨nofun, ?_⟩
      rintro (⟨h, -⟩ | ⟨_, -, h, -⟩) <;> cases h
    | false =>
      cases ps["action"]?.or fallback["action"]? with
      | none =>
        refine ⟨fun h => .inr ⟨controller, rfl, rfl, rfl, (Except.error.inj h).symm⟩, ?_⟩
        rintro (⟨h, -⟩ | ⟨_, h, -, -, rfl⟩) <;> cases h
        rfl
      | some a =>
        refine ⟨nofun, ?_⟩
        rintro (⟨h, -⟩ | ⟨_, -, -, h, -⟩) <;> cases h

/-- Why there is no URL for parameters that fit no route. -/
inductive LacksRoute (t : Table) (ps fallback : Params) : GenerateError → Prop
  /-- There is no default route either. -/
  | noDefaultRoute (h : ∀ r ∈ t.routes, r.isDefault = false) :
      LacksRoute t ps fallback .noDefaultRoute
  /-- A URL in the form of the default route starts with a controller. -/
  | noController (hdefault : ∃ r ∈ t.routes, r.isDefault = true)
      (h : usedController ps fallback = none) : LacksRoute t ps fallback .noController
  /-- It has an action as soon as it has anything else. -/
  | noAction (hdefault : ∃ r ∈ t.routes, r.isDefault = true) (controller : String)
      (hcontroller : usedController ps fallback = some controller)
      (hneeded : ∃ name ∈ ps, name ≠ "controller")
      (h : ps["action"]?.or fallback["action"]? = none) :
      LacksRoute t ps fallback (.noAction controller)

/-- The errors of the generator are those of a table that come from one. -/
theorem mapError_generate_eq_error_iff {g : Except GenerateError String} {e : Error} :
    g.mapError Error.generate = .error e ↔ ∃ e', g = .error e' ∧ e = .generate e' := by
  cases g with
  | ok url => exact ⟨nofun, nofun⟩
  | error e' => simp [Except.mapError, eq_comm]

/-- Without a route that fits, a URL fails only for lack of a route. -/
theorem lacksRoute_iff {t : Table} (ht : t.defaultIndex? = t.routes.findIdx? (·.isDefault))
    {e : GenerateError} :
    (if t.defaultIndex?.isSome then (generateDefault ps fallback).mapError Error.generate
      else .error (.generate .noDefaultRoute)) = .error (.generate e) ↔
      t.LacksRoute ps fallback e := by
  have hdefault : t.defaultIndex?.isSome = true ↔ ∃ r ∈ t.routes, r.isDefault = true := by
    rw [ht, List.findIdx?_isSome, List.any_eq_true]
  have herror : (generateDefault ps fallback).mapError Error.generate = .error (.generate e) ↔
      generateDefault ps fallback = .error e :=
    mapError_generate_eq_error_iff.trans
      ⟨fun ⟨_, h, heq⟩ => Error.generate.inj heq ▸ h, fun h => ⟨e, h, rfl⟩⟩
  by_cases h : t.defaultIndex?.isSome = true
  · have hroute := hdefault.mp h
    rw [if_pos h, herror, generateDefault_eq_error_iff]
    constructor
    · rintro (⟨hcontroller, rfl⟩ | ⟨controller, hcontroller, hneeded, haction, rfl⟩)
      · exact .noController hroute hcontroller
      · exact .noAction hroute controller hcontroller hneeded haction
    · rintro (hnone | ⟨-, hcontroller⟩ | ⟨-, controller, hcontroller, hneeded, haction⟩)
      · obtain ⟨r, hr, hd⟩ := hroute
        exact absurd hd (by simp [hnone r hr])
      · exact .inl ⟨hcontroller, rfl⟩
      · exact .inr ⟨controller, hcontroller, hneeded, haction, rfl⟩
  · have hnone : ∀ r ∈ t.routes, r.isDefault = false := by
      intro r hr
      rw [← Bool.not_eq_true]
      exact fun hd => h (hdefault.mpr ⟨r, hr, hd⟩)
    rw [if_neg h]
    constructor
    · intro he
      cases he
      exact .noDefaultRoute hnone
    · rintro (_ | ⟨hroute, -⟩ | ⟨hroute, -⟩)
      · rfl
      all_goals exact absurd (hdefault.mpr hroute) h

end Table

/-! ### All failures -/

namespace Router

/-- Whatever passes have led to a router, a URL is generated from parameters unless there is no
route for them, or the first route that fits withholds the value of one of its placeholders. -/
theorem Arises.generateForParams_fails_iff {o : Options} {router : Router}
    (harises : router.Arises o) {t : Table} (ht : router.table = .ok t) (ps fallback : Params)
    (e : Error) :
    t.generateForParams ps fallback = .error e ↔
      (∃ r name, t.routes.find? (·.isConsistentWith ps fallback) = some r ∧
        (Segment.names (r.segments.getD [])).find? (r.withholds ps fallback) = some name ∧
        e = .generate (.missingParam r.label name)) ∨
      (t.routes.find? (·.isConsistentWith ps fallback) = none ∧
        ∃ e', t.LacksRoute ps fallback e' ∧ e = .generate e') := by
  have hdefault : t.defaultIndex? = t.routes.findIdx? (·.isDefault) := by
    rw [harises.current.snapshot t (table_eq_ok.mp ht)]
    rfl
  unfold Table.generateForParams
  -- The first route that fits is the only one that is tried; without one it is the default route.
  cases hfits : t.routes.find? (·.isConsistentWith ps fallback) with
  | some r =>
    have hconsistent : r.isConsistentWith ps fallback = true :=
      List.find?_some (p := fun r : Route => r.isConsistentWith ps fallback) hfits
    dsimp only
    rw [Table.mapError_generate_eq_error_iff]
    constructor
    · rintro ⟨e', he', rfl⟩
      obtain ⟨name, hname, rfl⟩ := (Route.generate_eq_error_iff hconsistent).mp he'
      exact .inl ⟨r, name, rfl, hname, rfl⟩
    · rintro (⟨_, name, hr, hname, rfl⟩ | ⟨hnone, -⟩)
      · obtain rfl := Option.some.inj hr
        exact ⟨_, (Route.generate_eq_error_iff hconsistent).mpr ⟨name, hname, rfl⟩, rfl⟩
      · cases hnone
  | none =>
    dsimp only
    constructor
    · intro h
      -- All of these are errors of the generator.
      obtain ⟨e', rfl⟩ : ∃ e', e = .generate e' := by
        split at h
        · obtain ⟨e', -, he'⟩ := Table.mapError_generate_eq_error_iff.mp h
          exact ⟨e', he'⟩
        · exact ⟨_, (Except.error.inj h).symm⟩
      exact .inr ⟨rfl, e', (Table.lacksRoute_iff hdefault).mp h, rfl⟩
    · rintro (⟨_, _, hr, -⟩ | ⟨-, e', h, rfl⟩)
      · cases hr
      · exact (Table.lacksRoute_iff hdefault).mpr h

/-- After any passes, a URL is generated from parameters unless there is no route for them, or the
first route that fits withholds the value of one of its placeholders. -/
theorem generateForParams_eq_error_iff (o : Options) (passes : List (Placement × Declaration))
    {t : Table} (ht : (after o passes).table = .ok t) (ps fallback : Params) (e : Error) :
    t.generateForParams ps fallback = .error e ↔
      (∃ r name, t.routes.find? (·.isConsistentWith ps fallback) = some r ∧
        (Segment.names (r.segments.getD [])).find? (r.withholds ps fallback) = some name ∧
        e = .generate (.missingParam r.label name)) ∨
      (t.routes.find? (·.isConsistentWith ps fallback) = none ∧
        ∃ e', t.LacksRoute ps fallback e' ∧ e = .generate e') :=
  (arises_after o passes).generateForParams_fails_iff ht ps fallback e

/-- A pass with one route, whose placeholder has been given a value by the route itself. -/
def itemFive : List (Placement × Declaration) :=
  [(.replace, .matchPath (.literal "/:id") (.route { params := (∅ : Params).insert "id" "5" }))]

/-- The labels of the routes that fit some parameters, and the default routes. -/
def fitting (ps : Params) (t : Table) : List String × List Bool :=
  ((t.routes.filter (·.isConsistentWith ps ∅)).map Route.label, t.routes.map (·.isDefault))

/-- Nothing is given for the placeholder, and there is no other route. -/
theorem generateForParams_eq_error_iff_itemFive :
    ∃ t, (after {} itemFive).table = .ok t ∧ t.LacksRoute ∅ ∅ .noDefaultRoute ∧
      t.generateForParams ∅ ∅ = .error (.generate .noDefaultRoute) := by
  have hrun : (after {} itemFive).table.toOption.map (fitting ∅) = some ([], [false]) := by
    decide +kernel
  obtain ⟨t, ht, hfitting⟩ := Option.map_eq_some_iff.mp hrun
  rw [toOption_eq_some_iff] at ht
  obtain ⟨hfits, hdefault⟩ := Prod.mk.inj hfitting
  have hnone : t.routes.find? (·.isConsistentWith ∅ ∅) = none := by
    rw [← List.head?_filter, List.map_eq_nil_iff.mp hfits]
    rfl
  have hlacks : t.LacksRoute ∅ ∅ .noDefaultRoute := by
    refine .noDefaultRoute fun r hr => ?_
    have hmem := List.mem_map_of_mem (f := fun r => r.isDefault) hr
    rw [hdefault] at hmem
    exact List.mem_singleton.mp hmem
  exact ⟨t, ht, hlacks, (generateForParams_eq_error_iff {} itemFive ht ∅ ∅ _).mpr
    (.inr ⟨hnone, _, hlacks, rfl⟩)⟩

/-- The parameter for that placeholder. -/
def idFive : Params := (∅ : Params).insert "id" "5"

/-- The route fits what its placeholder needs, but then the value counts as a text of the route and
is not there when the path is filled. -/
theorem generateForParams_missing_itemFive :
    ∃ t, Yields { options := {} } itemFive t ∧
      (t.routes.find? (·.isConsistentWith idFive ∅)).map Route.label = some "#0" ∧
      t.generateForParams idFive ∅ = .error (.generate (.missingParam "#0" "id")) := by
  have hsucceeds : ∀ pass ∈ itemFive, pass.2.succeeds {} = true := by decide +kernel
  have hrun : ((after {} itemFive).table.toOption.map fun t =>
      ((fitting idFive t).1.head?, t.generateForParams idFive ∅)) =
      some (some "#0", .error (.generate (.missingParam "#0" "id"))) := by
    decide +kernel
  obtain ⟨t, ht, hpair⟩ := Option.map_eq_some_iff.mp hrun
  obtain ⟨hfits, hmissing⟩ := Prod.mk.inj hpair
  refine ⟨t, ⟨hsucceeds, toOption_eq_some_iff.mp ht⟩, ?_, hmissing⟩
  rw [← hfits, fitting, List.head?_map, List.head?_filter]

end Router

end HttpRouting
