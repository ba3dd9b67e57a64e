import HttpRouting.Proofs.PluralResource

/-!
# Names that resources can have

A plural resource gives five names: its own, its singular, and three that are made of the singular.
They are distinct exactly if the resource has a singular of its own. A word that is its own singular
cannot be declared, because its second name is taken by its first one. Any other word can, and the
answer is then the indexes of eight routes in a row.

## Main definitions

* `Pass.Counts` — the number of routes that a step adds
* `Pass.Refuses` — a step fails where some names have been given
* `resourceNames` — the names of a plural resource

## Main results

* `Pass.counts_resources` — the answer of a resource is the indexes of its routes
* `Behavior.refuses_resources` — why a word that is its own singular is refused
* `Router.plural_declared_iff` — which words can be declared, and what becomes of them
-/

namespace HttpRouting

/-! ### Indexes -/

namespace Pass

variable {α β : Type} {n m : Nat} {Q : Nat → α → Prop} {S : Nat → β → Prop}

/-- A step that succeeds adds `n` routes, and its value and the number of the routes before it meet
`Q`. -/
def Counts (p : Pass α) (n : Nat) (Q : Nat → α → Prop) : Prop :=
  ∀ g a g', p g = (.ok a, g') → g'.routes.length = g.routes.length + n ∧ Q g.routes.length a

theorem Counts.andThen {p : Pass α} {f : α → Pass β} (hp : p.Counts n Q)
    (hf : ∀ k a, Q k a → (f a).Counts m fun k' b => k' = k + n → S k b) :
    (p >>= f).Counts (n + m) S := by
  intro g b g' h
  obtain ⟨a, g₁, hrun, hrun'⟩ := bind_eq_ok h
  obtain ⟨hlength, ha⟩ := hp g a g₁ hrun
  obtain ⟨hlength', hb⟩ := hf _ a ha g₁ b g' hrun'
  exact ⟨by omega, hb hlength⟩

/-- One step after another that adds no routes. -/
theorem Counts.after {p : Pass α} {f : α → Pass β} (hp : p.Counts 0 fun _ _ => True)
    (hf : ∀ a, (f a).Counts n S) : (p >>= f).Counts n S := by
  rw [← Nat.zero_add n]
  refine hp.andThen fun k a _ g b g' h => ?_
  obtain ⟨hlength, hb⟩ := hf a g b g' h
  refine ⟨hlength, fun heq => ?_⟩
  rwa [← Nat.add_zero k, ← heq]

theorem counts_pure {a : α} (h : ∀ k, Q k a) : (Pure.pure a : Pass α).Counts 0 Q := by
  intro g a' g' hrun
  obtain ⟨hvalue, rfl⟩ := Prod.mk.inj hrun
  obtain rfl := Except.ok.inj hvalue
  exact ⟨rfl, h _⟩

/-- One step, and then a value that is made of its value. -/
theorem Counts.andPure {p : Pass α} (hp : p.Counts n Q) {f : α → β}
    (hf : ∀ k a, Q k a → S k (f a)) : (p >>= fun a => Pure.pure (f a)).Counts n S :=
  hp.andThen fun k a ha => counts_pure fun _ _ => hf k a ha

theorem counts_throw (e : Error) : (throw e : Pass α).Counts n Q := by
  intro g a g' h
  cases h

theorem counts_child (b : Behavior) (cs : Conditions) (ps : Params) :
    (b.child cs ps).Counts 0 fun _ _ => True := by
  intro g a g' h
  obtain ⟨-, rfl⟩ := Prod.mk.inj h
  exact ⟨rfl, trivial⟩

theorem counts_route (b : Behavior) (ps : Params) (decision : Option Decision) (isDefault : Bool) :
    (b.route ps decision isDefault).Counts 0 fun _ _ => True := by
  have hbuild : ∀ built, (ofBuild built).Counts 0 fun _ _ => True := by
    intro built
    cases built with
    | ok r => exact counts_pure fun _ => trivial
    | error e => exact counts_throw _
  rw [route_eq]
  split
  · exact hbuild _
  · exact (counts_child b ∅ ps).after fun c => hbuild _

/-- The answer of a registration is the index of the new route. -/
theorem counts_register (b : Behavior) (ps : Params) (decision : Option Decision)
    (isDefault : Bool) : (b.register ps decision isDefault).Counts 1 fun k i => i = k := by
  refine (counts_route b ps decision isDefault).after fun r g i g' h => ?_
  obtain ⟨hi, rfl⟩ := Prod.mk.inj h
  obtain rfl := Except.ok.inj hi
  exact ⟨by simp [Registry.register], rfl⟩

theorem counts_nameDetached (r : Route) (name : String) :
    (update (·.nameDetached? r name)).Counts 0 fun _ _ => True := by
  intro g a g' h
  rw [update_apply] at h
  cases hnamed : g.nameDetached? r name with
  | error e =>
    rw [hnamed] at h
    cases h
  | ok g₁ =>
    rw [hnamed] at h
    obtain ⟨-, rfl⟩ := Prod.mk.inj h
    obtain ⟨-, -, rfl⟩ := Registry.nameDetached?_eq_ok_iff.mp hnamed
    exact ⟨rfl, trivial⟩

section Lists

variable {as : List α}

/-- Registrations that follow each other answer with indexes in a row. -/
theorem counts_mapM {f : α → Pass Nat} (hf : ∀ a, (f a).Counts 1 fun k i => i = k) :
    Counts (as.mapM f) as.length fun k is => is = List.range' k as.length := by
  induction as with
  | nil =>
    rw [List.mapM_nil]
    exact counts_pure fun _ => rfl
  | cons a as ih =>
    rw [List.mapM_cons, List.length_cons, Nat.add_comm]
    refine (hf a).andThen fun k i hi => ih.andPure fun k' is his hk => ?_
    rw [hi, his, hk, Nat.add_comm 1, List.range'_succ]

theorem counts_forM {f : α → Pass Unit} (hf : ∀ a, (f a).Counts 0 fun _ _ => True) :
    Counts (as.forM f) 0 fun _ _ => True := by
  induction as with
  | nil => exact counts_pure fun _ => trivial
  | cons a as ih => exact (hf a).after fun _ => ih

end Lists

theorem counts_action (s : ResourceScope) (path : String) (method : Condition) (action : String) :
    (s.action path method action).Counts 1 fun k i => i = k :=
  (counts_child _ _ _).after fun b => counts_register b _ none false

theorem counts_generation (s : ResourceScope) (path action name : String) :
    (s.generation path action name).Counts 0 fun _ _ => True :=
  (counts_child _ _ _).after fun b => (counts_route b _ none false).after fun r =>
    counts_nameDetached r name

theorem counts_actions (s : ResourceScope) (path name : String) (as : List (String × MethodSet)) :
    (s.actions path name as).Counts as.length fun k is => is = List.range' k as.length := by
  refine counts_mapM fun ⟨action, methods⟩ => ?_
  refine Counts.andThen (m := 0) (counts_action s _ _ _) fun k i hi => ?_
  exact (counts_generation s _ _ _).andPure fun _ _ _ _ => hi

theorem counts_require (e : Except DeclarationError Unit) :
    (Behavior.require e).Counts 0 fun _ _ => True := by
  rcases e with e | ⟨⟩
  · exact counts_throw _
  · exact counts_pure fun _ => trivial

theorem counts_resourceScope (b : Behavior) (w : String) (o : ResourceOptions) :
    (b.resourceScope w o).Counts 0 fun _ _ => True := by
  unfold Behavior.resourceScope
  dsimp only
  split
  · exact Counts.andThen (n := 0) (m := 0) (Q := fun _ _ => False) (counts_throw _)
      fun _ _ hfalse => hfalse.elim
  · split
    · exact counts_throw _
    · exact (counts_child _ _ _).andPure fun _ _ _ => trivial

/-- The answer of a resource is the indexes of its routes, which stand in a row. -/
theorem counts_resources (b : Behavior) (w : String) (o : ResourceOptions) :
    (b.resources w o).Counts (o.member.length + o.collection.length + 8) fun k a =>
      a.1 = List.range' k (o.member.length + o.collection.length + 8) := by
  refine (counts_require _).after fun _ => (counts_require _).after fun _ =>
    (counts_require _).after fun _ => (counts_resourceScope b w o).after fun s => ?_
  rw [Nat.add_assoc]
  -- Three groups of routes follow each other, and each starts where the one before it has ended.
  refine (counts_actions s _ _ _).andThen fun k members hmembers => ?_
  refine (counts_actions s _ _ _).andThen fun k₁ collections hcollections => ?_
  refine Counts.andThen (m := 0) (counts_mapM fun a => counts_action s _ _ _)
    fun k₂ standard hstandard => ?_
  refine (counts_forM fun a => counts_generation s _ _ _).after fun _ => ?_
  refine (counts_child _ _ _).andPure fun k₃ inner _ hk₃ hk₂ hk₁ => ?_
  have hlength : (Behavior.pluralActions (o.keyPath?.getD ":id")).length = 8 := rfl
  rw [hlength] at hstandard
  rw [hmembers, hcollections, hstandard, hk₂, hk₁, ← Nat.add_assoc, ← List.range'_append_1,
    ← List.range'_append_1, Nat.add_assoc]

/-! ### Refusals -/

variable {named : Std.ExtTreeMap String Target} {e : Error} {rs : List Route} {ns : NamedRoutes}
  {T : α → Prop}

/-- On default options, a step fails with an error where some names have been given. -/
def Refuses (p : Pass α) (named : Std.ExtTreeMap String Target) (e : Error) : Prop :=
  ∀ g : Registry, g.options = {} → g.named = named → (p g).1 = .error e

/-- What follows a failure is not done. -/
theorem Refuses.andThen {p : Pass α} (hp : p.Refuses named e) (f : α → Pass β) :
    (p >>= f).Refuses named e := by
  intro g ho hg
  have hfails := hp g ho hg
  rw [bind_apply]
  rcases hrun : p g with ⟨e' | a, g'⟩
  · rw [hrun] at hfails
    exact congrArg Except.error (Except.error.inj hfails)
  · rw [hrun] at hfails
    cases hfails

/-- A step that fails once some more names have been given. -/
theorem Refuses.afterNames {p : Pass α} {f : α → Pass β} (hp : p.Declares rs ns T)
    (hfree : ∀ g : Registry, g.named = named → g.Free (ns.map (·.1)))
    (hf : ∀ a, T a → (f a).Refuses (addNames named ns) e) : (p >>= f).Refuses named e := by
  intro g ho hg
  obtain ⟨a, g', hrun, ha, hadds⟩ := hp.adds g ho (hfree g hg)
  rw [bind_apply, hrun]
  refine hf a ha g' (hadds.options.trans ho) ?_
  rw [hadds.named, hg]

/-- A step that fails behind one that gives no names. -/
theorem Refuses.after {p : Pass α} {f : α → Pass β} (hp : p.Declares rs [] T)
    (hf : ∀ a, T a → (f a).Refuses named e) : (p >>= f).Refuses named e :=
  .afterNames hp (fun _ _ => ⟨List.nodup_nil, nofun, nofun⟩) hf

/-- A name that is taken is not given again. -/
theorem refuses_nameDetached (r : Route) {name : String} (hne : name ≠ "")
    (htaken : named.contains name = true) :
    (update (·.nameDetached? r name)).Refuses named (.declaration (.duplicateRouteName name)) := by
  rintro g - rfl
  have hempty : name.isEmpty = false := by simpa using hne
  rw [update_apply, Registry.nameDetached?, Registry.claim?, hempty, htaken]
  rfl

end Pass

namespace ResourceScope

open Pass

variable {s : ResourceScope} {fs : List Frame}

theorem refuses_generation (hs : s.base.chain = Chain.ofFrames fs) {l : ResourceLink}
    (hr : Route.build (Chain.ofFrames (l.frames fs s.controller)) none false =
      .ok (l.route fs s.controller)) {named : Std.ExtTreeMap String Target} (hne : l.name ≠ "")
    (htaken : named.contains l.name = true) :
    (s.generation l.path l.action l.name).Refuses named
      (.declaration (.duplicateRouteName l.name)) := by
  refine .after declares_child fun b hb => .after (declares_route (r := l.route fs s.controller) ?_)
    fun r _ => refuses_nameDetached r hne htaken
  rw [params_eq, isEmpty_actionParams, hb, hs, ← Frame.node_of_conditions,
    ← Frame.node_of_conditions]
  exact hr

end ResourceScope

/-! ### Words -/

/-- The names of a plural resource. -/
def resourceNames (w : String) : List String :=
  [w, singularize w, "new_" ++ singularize w, "edit_" ++ singularize w, "delete_" ++ singularize w]

namespace Behavior

open Pass

variable {w : String}

/-- A word that is its own singular is refused, because its second name is the first one. -/
theorem refuses_resources (hw : isWord w = true) (hs : singularize w = w) :
    ((root {}).resources w {}).Refuses ∅ (.declaration (.duplicateRouteName w)) := by
  have hne := ne_empty_of_isWord hw
  refine .after declares_require fun _ _ => .after declares_require fun _ _ =>
    .after declares_require fun _ _ => .after (declares_resourceScope hw) fun s hscope => ?_
  obtain ⟨hbase, hcontroller, hnames, -⟩ := hscope
  have hroutes : ∀ e ∈ standardActions.map standardRoute,
      Route.build (Chain.ofFrames (e.frames (resourceFrames w) s.controller)) none false =
        .ok (e.route (resourceFrames w) s.controller) := by
    rw [hcontroller]
    exact fun e he => ResourceRoute.build_resourceRoute hw (accepted_standardRoutes e he)
  have hlink : ∀ l : ResourceLink, isWord l.action = true →
      Route.build (Chain.ofFrames (l.frames (resourceFrames w) s.controller)) none false =
        .ok (l.route (resourceFrames w) s.controller) := by
    rw [hcontroller]
    exact fun l hl => ResourceLink.build_route (isLiteral_resourceFrames w)
      (plainParams_resourceFrames w) (isPlain_of_isWord hw) hl
  simp only [hnames, hs, String.empty_append]
  refine .after (ResourceScope.declares_actions hbase
    (fun action => show (ResourcePath.below action).pattern = _ from rfl) nofun nofun)
    fun _ _ => ?_
  refine .after (ResourceScope.declares_actions hbase
    (fun action => show (ResourcePath.word action).pattern = _ from rfl) nofun nofun)
    fun _ _ => ?_
  refine .after (ResourceScope.declares_standard hbase hroutes) fun _ _ => Refuses.andThen ?_ _
  -- The first name is free, and the second one is the same.
  have hindex := hlink ⟨"", "index", w⟩ (show isWord "index" = true by decide)
  have hshow := hlink ⟨"/:id", "show", w⟩ (show isWord "show" = true by decide)
  have hgives := ResourceScope.declares_generation hbase hindex
  have hfree : ∀ g : Registry, g.named = ∅ → g.Free [w] := by
    intro g hg
    refine ⟨List.pairwise_singleton _ w, List.forall_mem_singleton.mpr hne,
      List.forall_mem_singleton.mpr ?_⟩
    rw [hg]
    exact Std.ExtTreeMap.contains_empty
  have htaken : ∀ r, (addNames ∅ [(w, r)]).contains w = true :=
    fun r => (contains_addNames _ _ _).mpr (.inl List.mem_cons_self)
  refine .afterNames hgives hfree fun _ _ => Refuses.andThen ?_ _
  exact ResourceScope.refuses_generation hbase hshow hne (htaken _)

end Behavior

namespace Declaration

/-- The outcome of a pass that declares a resource and nothing else. -/
theorem runPass_resources_skip (w : String) (o : ResourceOptions) :
    (resources w o skip).runPass {} =
      match (Behavior.root {}).resources w o { options := {} } with
      | (.ok a, g) => (.ok (), { registry := g, log := [.resource a.1] })
      | (.error e, g) => (.error e, { registry := g }) := by
  have hrun : (resources w o skip).runPass {} =
      (Step.ofPass ((Behavior.root {}).resources w o) >>= fun a => do
        skip.run a.2
        Step.report (.resource a.1)) { registry := { options := {} } } := rfl
  rw [hrun, bind_apply, Step.ofPass]
  rcases (Behavior.root {}).resources w o { options := {} } with ⟨e | a, g⟩
  · rfl
  · rfl

end Declaration

namespace Router

variable {w : String}

/-- The names that a table knows are those that have been given. -/
theorem isSome_named_compile {o : Options} {routes : List Route} {m : Metrics} {ns : NamedRoutes}
    (hns : (ns.map (·.1)).Nodup) (name : String) :
    (Table.compile o routes (addNames ∅ ns) m).named[name]?.isSome = true ↔
      name ∈ ns.map (·.1) := by
  rw [Table.getElem?_named_compile]
  by_cases hname : name ∈ ns.map (·.1)
  · obtain ⟨p, hp, rfl⟩ := List.mem_map.mp hname
    rw [getElem?_addNames_of_mem hns hp]
    exact iff_of_true rfl hname
  · rw [getElem?_addNames_of_not_mem hname, Std.ExtTreeMap.getElem?_empty]
    exact iff_of_false nofun hname

/-- Routes in a row know their places. -/
theorem map_index_reindex (n : Nat) (rs : List Route) :
    (reindex n rs).map (·.index) = (List.range' n rs.length).map some := by
  induction rs generalizing n with
  | nil => rfl
  | cons r rs ih =>
    rw [reindex, List.map_cons, ih, List.length_cons, List.range'_succ, List.map_cons]

/-- The outcome of the pass that only declares a plural resource, on a default router. -/
def declarePlural (w : String) : Except Error Unit × List Entry × Router :=
  declare { options := {} } .replace (.resources w {} .skip)

/-- A word with a singular of its own is declared. -/
theorem declarePlural_of_ne (hw : isWord w = true) (hs : singularize w ≠ w) :
    (declarePlural w).1 = .ok () ∧ (declarePlural w).2.1 = [.resource (List.range 8)] ∧
      ∃ t, (declarePlural w).2.2.table = .ok t ∧
        t.routes.map (·.index) = (List.range 8).map some ∧
        ∀ name : String, t.named[name]?.isSome = true ↔ name ∈ resourceNames w := by
  have hchecks : ResourceChecks w [] [] := ⟨hw, rfl, rfl⟩
  have hfree := free_resourceLinks hw hs
  obtain ⟨a, g, hrun, -, hadds⟩ := (Behavior.declares_resources hchecks).adds _ rfl hfree
  obtain ⟨hlength, hindexes⟩ := Pass.counts_resources _ _ _ _ _ _ hrun
  have houtcome : declarePlural w =
      (.ok (), [.resource a.1], install { options := {} } .replace g) := by
    rw [declarePlural, declare, Declaration.runPass_resources_skip, hrun]
  have hroutes : (reindex 0 g.routes).map (·.index) = (List.range 8).map some := by
    rw [map_index_reindex, hlength]
    rfl
  rw [houtcome, hindexes]
  refine ⟨rfl, rfl, _, table_install _ _ _, hroutes, fun name => ?_⟩
  have hnamed : g.named = addNames ∅ _ := hadds.named
  rw [place, hnamed, isSome_named_compile hfree.nodup, List.map_map]
  rfl

/-- A word that is its own singular is refused. -/
theorem declarePlural_of_eq (hw : isWord w = true) (hs : singularize w = w) :
    (declarePlural w).1 = .error (.declaration (.duplicateRouteName w)) := by
  have hrefused := Behavior.refuses_resources hw hs { options := {} } rfl rfl
  rw [declarePlural, declare, Declaration.runPass_resources_skip]
  rcases hrun : (Behavior.root {}).resources w {} { options := {} } with ⟨e | a, g⟩
  · rw [hrun] at hrefused
    exact congrArg Except.error (Except.error.inj hrefused)
  · rw [hrun] at hrefused
    cases hrefused

/-- The words that can be declared as plural resources are those with a singular of their own. The
pass of such a word reports the indexes from 0 to 7, its table has routes in these places, and five
different names lead somewhere in it and no others. A word that is its own singular is refused,
because it would have to be given as a name twice. -/
theorem plural_declared_iff {w : String} (hw : isWord w = true) :
    ((declarePlural w).1 = .ok () ↔ singularize w ≠ w) ∧
      ((declarePlural w).1 = .ok () →
        (declarePlural w).2.1 = [.resource (List.range 8)] ∧ (resourceNames w).Nodup ∧
        ∃ t, (declarePlural w).2.2.table = .ok t ∧
          t.routes.map (·.index) = (List.range 8).map some ∧
          ∀ name : String, t.named[name]?.isSome = true ↔ name ∈ resourceNames w) ∧
      (singularize w = w →
        (declarePlural w).1 = .error (.declaration (.duplicateRouteName w))) := by
  have hiff : (declarePlural w).1 = .ok () ↔ singularize w ≠ w := by
    refine ⟨fun hok hs => ?_, fun hs => (declarePlural_of_ne hw hs).1⟩
    rw [declarePlural_of_eq hw hs] at hok
    cases hok
  refine ⟨hiff, fun hok => ?_, declarePlural_of_eq hw⟩
  have hs := hiff.mp hok
  obtain ⟨-, hlog, htable⟩ := declarePlural_of_ne hw hs
  exact ⟨hlog, (nodup_standardLinks hw hs).1, htable⟩

/-- Posts can be declared, and a member of them is edited by name. -/
theorem plural_declared_posts : isWord "posts" = true ∧ (declarePlural "posts").1 = .ok () ∧
    ∃ t, (declarePlural "posts").2.2.table = .ok t ∧ t.named["edit_post"]?.isSome = true := by
  have hw : isWord "posts" = true := by decide
  have hs : singularize "posts" = "post" := by decide +kernel
  obtain ⟨hiff, hdeclared, -⟩ := plural_declared_iff hw
  have hok := hiff.mpr (by rw [hs]; decide)
  obtain ⟨-, -, t, ht, -, hnamed⟩ := hdeclared hok
  refine ⟨hw, hok, t, ht, (hnamed "edit_post").mpr ?_⟩
  rw [resourceNames, hs]
  decide

/-- No word that is listed as uncountable can be declared. -/
theorem refused_of_mem_uncountableWords {w : String} (h : w ∈ uncountableWords) :
    (declarePlural w).1 = .error (.declaration (.duplicateRouteName w)) := by
  have hall : ∀ w ∈ uncountableWords, isWord w = true ∧ singularize w = w := by decide +kernel
  obtain ⟨hw, hs⟩ := hall w h
  exact declarePlural_of_eq hw hs

/-- News cannot be declared, although the word is accepted. -/
theorem plural_refused_news : isWord "news" = true ∧
    (declarePlural "news").1 = .error (.declaration (.duplicateRouteName "news")) := by
  exact ⟨by decide, refused_of_mem_uncountableWords (by decide +kernel)⟩

end Router

end HttpRouting
