import HttpRouting.Proofs.RouteNames

/-!
# Names and routes of a pass

In one pass names and routes belong to each other. A name stands for the route at an index exactly
if that route is registered and has the name, and a name that stands for a route that only generates
is the name of that route and of no registered one. This holds at any point of a pass: a route may
be named long after it has been registered, it may be named again, and a resource may fail after it
has given some of its names. An attempt to give a name fails only if the name is empty or taken, and
then nothing has changed.

## Main definitions

* `Registry.NamesMatch` — names and routes belong to each other
* `Naming` — an attempt to give a name
* `Registry.OnlyBehaviors` — only behaviors have been made

## Main results

* `Registry.Arises.namesMatch` — names and routes belong to each other in each registry of a pass
* `Naming.attempt_eq_error_iff` — when an attempt fails, and what it leaves
* `Pass.onlyBehaviors_of_generation` — what the link of a resource leaves when it fails
* `Registry.names_correspond` — all of it for the registries of a pass
-/

namespace HttpRouting

namespace Registry

/-- A name stands for a registered route exactly if the route has the name. A name that stands for a
route that only generates is the name of that route and of no registered one. -/
structure NamesMatch (g : Registry) : Prop where
  /-- The names of registered routes. -/
  registered : ∀ (name : String) (i : Nat), g.named[name]? = some (.registered i) ↔
    ∃ x, g.routes[i]? = some x ∧ x.name = some name
  /-- The names of routes that only generate. -/
  detached : ∀ (name : String) (r : Route), g.named[name]? = some (.detached r) →
    r.name = some name ∧ ∀ x ∈ g.routes, x.name ≠ some name

variable {o : Options} {g g' : Registry}

theorem Sound.namesMatch (hsound : g.Sound) (hunique : NamesUnique g.routes g.named) :
    g.NamesMatch where
  registered name i := by
    constructor
    · exact hsound.named name (.registered i)
    · rintro ⟨x, hx, hname⟩
      exact hunique i x name hx hname
  detached name r hr := by
    refine ⟨(hsound.named name _ hr).1, fun x hx hname => ?_⟩
    -- A registered route of this name would be what the name stands for.
    obtain ⟨i, hi⟩ := List.mem_iff_getElem?.mp hx
    have hregistered := hunique i x name hi hname
    rw [hr] at hregistered
    cases hregistered

/-- No change breaks what belongs together. -/
theorem Arises.namesMatch (h : g.Arises o) : g.NamesMatch :=
  h.sound.namesMatch (.of_arises h)

/-! ### Attempts -/

/-- A name cannot be given. -/
def Refuses (g : Registry) (name : String) (e : DeclarationError) : Prop :=
  (name = "" ∧ e = .emptyRouteName) ∨ (name ≠ "" ∧ name ∈ g.named ∧ e = .duplicateRouteName name)

variable {name : String} {e : DeclarationError}

theorem claim?_eq_error_iff : g.claim? name = .error e ↔ g.Refuses name e := by
  unfold claim? Refuses
  rw [← String.isEmpty_iff, ← Std.ExtTreeMap.contains_iff_mem]
  split_ifs with hempty htaken
  · constructor
    · exact fun h => .inl ⟨hempty, (Except.error.inj h).symm⟩
    · rintro (⟨-, rfl⟩ | ⟨hne, -⟩)
      · rfl
      · exact absurd (String.isEmpty_iff.mp hempty) hne
  · have hne : name ≠ "" := mt String.isEmpty_iff.mpr hempty
    constructor
    · exact fun h => .inr ⟨hne, htaken, (Except.error.inj h).symm⟩
    · rintro (⟨h, -⟩ | ⟨-, -, rfl⟩)
      · exact absurd h hempty
      · rfl
  · refine iff_of_false nofun ?_
    rintro (⟨h, -⟩ | ⟨-, h, -⟩)
    · exact hempty h
    · exact htaken h

theorem nameRoute?_eq_error_iff {i : Nat} : g.nameRoute? i name = .error e ↔ g.Refuses name e := by
  rw [← claim?_eq_error_iff, nameRoute?]
  cases g.claim? name with
  | error e => exact Iff.rfl
  | ok g' => exact iff_of_false nofun nofun

theorem nameDetached?_eq_error_iff {r : Route} :
    g.nameDetached? r name = .error e ↔ g.Refuses name e := by
  rw [← claim?_eq_error_iff, nameDetached?]
  cases g.claim? name with
  | error e => exact Iff.rfl
  | ok g' => exact iff_of_false nofun nofun

end Registry

namespace Pass

theorem update_eq_error_iff {f : Registry → Except DeclarationError Registry} {g g' : Registry}
    {e : Error} :
    update f g = (.error e, g') ↔ g' = g ∧ ∃ d, e = .declaration d ∧ f g = .error d := by
  rw [update_apply]
  cases f g with
  | ok g₁ => exact iff_of_false nofun fun ⟨_, _, _, h⟩ => nomatch h
  | error d =>
    rw [Prod.mk.injEq, Except.error.injEq]
    constructor
    · rintro ⟨rfl, rfl⟩
      exact ⟨rfl, d, rfl, rfl⟩
    · rintro ⟨rfl, d', rfl, h⟩
      exact ⟨by rw [Except.error.inj h], rfl⟩

end Pass

/-- What a name is given to. -/
inductive Naming where
  /-- The registered route at an index. -/
  | registered (index : Nat)
  /-- A route that only generates. -/
  | detached (r : Route)

namespace Naming

/-- The attempt to give a name. -/
def attempt (n : Naming) (name : String) : Pass Unit :=
  match n with
  | registered i => Pass.update (·.nameRoute? i name)
  | detached r => Pass.update (·.nameDetached? r name)

/-- An attempt fails exactly if the name is empty or taken, and then it leaves everything as it
was. -/
theorem attempt_eq_error_iff {n : Naming} {name : String} {g g' : Registry} {e : Error} :
    n.attempt name g = (.error e, g') ↔ g' = g ∧ ∃ d, e = .declaration d ∧ g.Refuses name d := by
  cases n with
  | registered i =>
    refine Pass.update_eq_error_iff.trans ?_
    simp only [Registry.nameRoute?_eq_error_iff]
  | detached r =>
    refine Pass.update_eq_error_iff.trans ?_
    simp only [Registry.nameDetached?_eq_error_iff]

end Naming

/-! ### Links of resources

The link of a resource is named after behaviors have been made for it, so these are counted also
when the name is refused. -/

namespace Registry

/-- Nothing has changed but the number of behaviors. -/
def OnlyBehaviors (g g' : Registry) : Prop :=
  ∃ k, g' = { g with metrics := { g.metrics with behaviors := g.metrics.behaviors + k } }

instance : Std.Refl OnlyBehaviors := ⟨fun _ => ⟨0, rfl⟩⟩

instance : IsTrans Registry OnlyBehaviors := by
  refine ⟨fun g g' g'' h h' => ?_⟩
  obtain ⟨k, rfl⟩ := h
  obtain ⟨k', rfl⟩ := h'
  exact ⟨k + k', by rw [← Nat.add_assoc]⟩

end Registry

namespace Pass

open Registry

/-- A step that only makes behaviors. -/
abbrev OnlyBehaves {α : Type} (p : Pass α) : Prop :=
  Leads OnlyBehaviors (fun _ => True) p fun _ => True

theorem onlyBehaves_child (b : Behavior) (cs : Conditions) (ps : Params) :
    (b.child cs ps).OnlyBehaves :=
  fun _ _ => ⟨⟨1, rfl⟩, fun _ _ => trivial⟩

theorem onlyBehaves_route (b : Behavior) (ps : Params) (decision : Option Decision)
    (isDefault : Bool) : (b.route ps decision isDefault).OnlyBehaves := by
  have hbuild : ∀ built, (ofBuild built).OnlyBehaves := by
    intro built
    cases built with
    | ok r => exact .pure trivial
    | error e => exact .throw _
  rw [route_eq]
  split
  · exact hbuild _
  · exact (onlyBehaves_child b ∅ ps).bind (fun _ _ _ h => h) fun c _ => hbuild _

theorem OnlyBehaves.of_run {α : Type} {p : Pass α} (hp : p.OnlyBehaves) {g g' : Registry}
    {a : Except Error α} (h : p g = (a, g')) : g.OnlyBehaviors g' := by
  have hled := (hp g trivial).1
  rwa [h] at hled

/-- A link that fails is not named. -/
theorem onlyBehaviors_of_generation {s : ResourceScope} {path action name : String}
    {g g' : Registry} {e : Error} (h : s.generation path action name g = (.error e, g')) :
    g.OnlyBehaviors g' := by
  rcases bind_eq_error h with hpath | ⟨b, g₁, hpath, h⟩
  · exact (onlyBehaves_child s.base _ _).of_run hpath
  have hfirst := (onlyBehaves_child s.base _ _).of_run hpath
  rcases bind_eq_error h with hroute | ⟨r, g₂, hroute, h⟩
  · exact IsTrans.trans _ _ _ hfirst ((onlyBehaves_route b _ none false).of_run hroute)
  obtain ⟨rfl, -⟩ := update_eq_error_iff.mp h
  exact IsTrans.trans _ _ _ hfirst ((onlyBehaves_route b _ none false).of_run hroute)

end Pass

namespace Registry

/-- Names over one pass. At any point of it, also behind failures, a name stands for a registered
route exactly if the route has the name, and a name that stands for a route that only generates is
the name of that route and of no registered one. An attempt to give a name that fails leaves
everything as it was, and fails only because the name is empty or taken; a link of a resource that
fails leaves all but the number of behaviors. -/
theorem names_correspond (o : Options) :
    (∀ d : Declaration, (d.runPass o).2.registry.Arises o) ∧
      ∀ g : Registry, g.Arises o → g.NamesMatch ∧
        (∀ (n : Naming) (name : String) (e : Error) (g' : Registry),
          n.attempt name g = (.error e, g') ↔
            g' = g ∧ ∃ d, e = .declaration d ∧ g.Refuses name d) ∧
        ∀ (s : ResourceScope) (path action name : String) (e : Error) (g' : Registry),
          s.generation path action name g = (.error e, g') → g.OnlyBehaviors g' := by
  refine ⟨fun d => d.arises_runPass o, fun g h => ⟨h.namesMatch, fun n name e g' => ?_, ?_⟩⟩
  · exact Naming.attempt_eq_error_iff
  · exact fun s path action name e g' hfails => Pass.onlyBehaviors_of_generation hfails

/-- A resource that fails after its first name, a route that is named twice, and a route that is
refused the name of the other one; all failures are caught. -/
def namingDeclaration : Declaration :=
  .all [.attempt (.resources "news" {} .skip),
    .matchPath (.literal "/a") (.route { names := ["x", "y"] }),
    .attempt (.matchPath (.literal "/b") (.route { names := ["y"] }))]

/-- The ninth route has lost its first name, and the tenth cannot be given its second one. The name
of the resource stands for a route that only generates. -/
theorem names_correspond_renamed : ∃ g : Registry, (namingDeclaration.runPass {}).2.registry = g ∧
    g.Arises {} ∧ g.routes.map (·.name) = List.replicate 8 none ++ [some "y", none] ∧
    g.named["x"]? = none ∧ g.named["y"]? = some (.registered 8) ∧
    (Naming.registered 9).attempt "y" g =
      (.error (.declaration (.duplicateRouteName "y")), g) ∧
    ∃ r, g.named["news"]? = some (.detached r) ∧ r.name = some "news" := by
  obtain ⟨hruns, hpoints⟩ := names_correspond {}
  have harises := hruns namingDeclaration
  obtain ⟨hmatch, hattempts, -⟩ := hpoints _ harises
  have hstate : (fun g : Registry => (g.routes.map (·.name), g.named.keys))
      (namingDeclaration.runPass {}).2.registry =
        (List.replicate 8 none ++ [some "y", none], ["news", "y"]) := by decide +kernel
  obtain ⟨hnames, hkeys⟩ := Prod.mk.inj hstate
  generalize (namingDeclaration.runPass {}).2.registry = g at *
  have hmem : ∀ name : String, name ∈ g.named ↔ name = "news" ∨ name = "y" := by
    intro name
    rw [← Std.ExtTreeMap.mem_keys, hkeys]
    simp
  have hregistered : ∀ (name : String) (i : Nat), g.named[name]? = some (.registered i) ↔
      (List.replicate 8 none ++ [some "y", none])[i]? = some (some name) := by
    intro name i
    rw [hmatch.registered, ← hnames, List.getElem?_map, Option.map_eq_some_iff]
  refine ⟨g, rfl, harises, hnames, ?_, (hregistered "y" 8).mpr rfl, ?_, ?_⟩
  · refine Std.ExtTreeMap.getElem?_eq_none ?_
    rw [hmem]
    decide
  · exact (hattempts (.registered 9) "y" _ g).mpr
      ⟨rfl, _, rfl, .inr ⟨by decide, (hmem "y").mpr (.inr rfl), rfl⟩⟩
  · have hnews := Std.ExtTreeMap.mem_iff_isSome_getElem?.mp ((hmem "news").mpr (.inl rfl))
    obtain ⟨t, ht⟩ := Option.isSome_iff_exists.mp hnews
    cases t with
    | detached r => exact ⟨r, ht, (hmatch.detached "news" r ht).1⟩
    | registered i =>
      have hi := (hregistered "news" i).mp ht
      have hnone : some "news" ∉ List.replicate 8 none ++ [some "y", none] := by decide
      exact absurd (List.mem_of_getElem? hi) hnone

end Registry

end HttpRouting
