import HttpRouting.Proofs.AcceptedOptions
import HttpRouting.Proofs.NameTable

/-!
# Resources that are rejected

The name and the options of a resource are checked in several places, and the last of them makes the
behavior that the resource stands at. A resource that does not pass a check is rejected. All checks
come before the first change, so a rejected resource leaves the registry as it was; and a resource
that passes them is not rejected later, although it may still fail: a name that it gives may be
taken, and a pattern may be malformed.

## Main definitions

* `DeclarationError.rejects` — the errors with which a resource is rejected
* `ResourceOptions.Wrong` — something is wrong with a name or with options
* `ResourceOptions.checkPlural`, `ResourceOptions.checkSingular` — the checks, in their order
* `Pass.ChecksFirst` — a step makes a check first, and rejects nothing after it

## Main results

* `Pass.ChecksFirst.rejected_iff` — when such a step rejects, and what it leaves
* `Pass.checks_resources`, `Pass.checks_resource` — resources make their checks first
* `Behavior.resource_rejected_iff` — which resources are rejected
-/

namespace HttpRouting

/-- Whether an error rejects a resource. The other errors refuse a name. -/
def DeclarationError.rejects : DeclarationError → Bool
  | duplicateRouteName _ | emptyRouteName => false
  | emptyNamespace | invalidResourceName _ | emptyResourceKeys _ | invalidResourceAction _ _ _
  | emptyActionMethods _ _ _ | duplicateResourceAction _ _ _ | unsupportedResourceOption _ _ => true

/-- A step fails with an error that rejects a resource, and leaves some registry. -/
def Pass.Rejected {α : Type} (p : Pass α) (g g' : Registry) : Prop :=
  ∃ e : DeclarationError, e.rejects = true ∧ p g = (.error (.declaration e), g')

/-! ### Checks -/

namespace ResourceOptions

/-- The namespace that is given has nothing but slashes. -/
def BlankNamespace (o : ResourceOptions) : Prop :=
  ∃ given, o.scopeName = some given ∧ trimSlashes given = ""

/-- Something is wrong with the name of a resource or with its options. -/
def Wrong (name : String) (o : ResourceOptions) : Prop :=
  isWord name = false ∨ o.BlankNamespace ∨ WrongActions o.member ∨ WrongActions o.collection ∨
    o.WrongKeys

/-- The check of the place of a resource. -/
def checkPlace (name : String) (o : ResourceOptions) : Except DeclarationError Unit :=
  if isWord name then
    match o.scopeName with
    | some given => if (trimSlashes given).isEmpty then .error .emptyNamespace else .ok ()
    | none => .ok ()
  else .error (.invalidResourceName name)

/-- The checks of a plural resource. -/
def checkPlural (name : String) (o : ResourceOptions) : Except DeclarationError Unit := do
  checkActions name .member [] o.member
  checkActions name .collection [] o.collection
  checkKeys name o.keys
  checkPlace name o

/-- The checks of a singular resource. -/
def checkSingular (name : String) (o : ResourceOptions) : Except DeclarationError Unit :=
  if o.keys.isSome then .error (.unsupportedResourceOption name "keys")
  else if !o.collection.isEmpty then .error (.unsupportedResourceOption name "collection")
  else do
    checkActions name .member [] o.member
    checkPlace name o

/-- Checks that follow each other fail if one of them does. -/
theorem exists_error_bind_iff {x : Except DeclarationError Unit}
    {y : Unit → Except DeclarationError Unit} :
    (∃ e, (x >>= y) = .error e) ↔ (∃ e, x = .error e) ∨ ∃ e, y () = .error e := by
  rcases x with e | ⟨⟩
  · exact iff_of_true ⟨e, rfl⟩ (.inl ⟨e, rfl⟩)
  · exact (or_iff_right (fun ⟨_, h⟩ => nomatch h)).symm

variable {name : String} {o : ResourceOptions} {kind : ActionKind} {as : List (String × MethodSet)}
  {seen : List String}

theorem exists_error_checkPlace_iff :
    (∃ e, checkPlace name o = .error e) ↔ isWord name = false ∨ o.BlankNamespace := by
  unfold checkPlace BlankNamespace
  split_ifs with hword
  · rw [hword, or_iff_right Bool.true_eq_false.mp]
    cases o.scopeName with
    | none => exact iff_of_false nofun nofun
    | some given =>
      simp only [Option.some.injEq, exists_eq_left']
      split_ifs with hblank
      · exact iff_of_true ⟨_, rfl⟩ (String.isEmpty_iff.mp hblank)
      · exact iff_of_false nofun (mt String.isEmpty_iff.mpr hblank)
  · exact iff_of_true ⟨_, rfl⟩ (.inl (Bool.not_eq_true _ ▸ hword))

theorem exists_error_checkPlural_iff : (∃ e, checkPlural name o = .error e) ↔ o.Wrong name := by
  unfold checkPlural Wrong
  rw [exists_error_bind_iff, exists_error_bind_iff, exists_error_bind_iff,
    exists_error_checkActions_iff, exists_error_checkActions_iff, exists_error_checkKeys_iff,
    exists_error_checkPlace_iff, ← wrongActions_iff, ← wrongActions_iff]
  tauto

theorem exists_error_checkSingular_iff : (∃ e, checkSingular name o = .error e) ↔
    o.Wrong name ∨ o.keys.isSome = true ∨ o.collection ≠ [] := by
  unfold checkSingular
  split_ifs with hkeys hcollection
  · exact iff_of_true ⟨_, rfl⟩ (.inr (.inl hkeys))
  · exact iff_of_true ⟨_, rfl⟩ (.inr (.inr (by simpa using hcollection)))
  -- Without keys and further actions on the collection, nothing can be wrong with them.
  · have hempty : o.collection = [] := by simpa using hcollection
    have hnone : o.keys = none := by simpa using hkeys
    have hactions : ¬WrongActions [] := by
      rintro ⟨before, a, after, heq, -⟩
      exact List.append_ne_nil_of_right_ne_nil _ (List.cons_ne_nil a after) heq.symm
    have hwrongKeys : ¬o.WrongKeys := by
      rintro ⟨keys, hsome, -⟩
      exact nomatch hnone.symm.trans hsome
    have hneither : ¬(o.keys.isSome = true ∨ o.collection ≠ []) :=
      not_or.mpr ⟨hkeys, not_not_intro hempty⟩
    rw [or_iff_left hneither, exists_error_bind_iff, exists_error_checkActions_iff,
      exists_error_checkPlace_iff, ← wrongActions_iff, Wrong, or_iff_left hwrongKeys, hempty,
      or_iff_left hactions, or_comm, or_assoc]

/-- All errors of a check reject a resource. -/
def Rejecting (c : Except DeclarationError Unit) : Prop := ∀ e, c = .error e → e.rejects = true

theorem Rejecting.bind {x : Except DeclarationError Unit} {y : Unit → Except DeclarationError Unit}
    (hx : Rejecting x) (hy : Rejecting (y ())) : Rejecting (x >>= y) := by
  rcases x with e | ⟨⟩
  · exact hx
  · exact hy

theorem rejecting_error {e : DeclarationError} (h : e.rejects = true) : Rejecting (.error e) := by
  intro e' he
  rwa [← Except.error.inj he]

theorem rejecting_checkActions : Rejecting (checkActions name kind seen as) := by
  induction as generalizing seen with
  | nil => nofun
  | cons a as ih =>
    rw [checkActions]
    split_ifs
    · exact rejecting_error rfl
    · exact rejecting_error rfl
    · exact rejecting_error rfl
    · exact ih

theorem rejecting_checkKeys : Rejecting (checkKeys name o.keys) := by
  unfold checkKeys
  split
  · nofun
  · split_ifs
    · exact rejecting_error rfl
    · split
      · exact rejecting_error rfl
      · nofun

theorem rejecting_checkPlace : Rejecting (checkPlace name o) := by
  unfold checkPlace
  split_ifs
  · split
    · split_ifs
      · exact rejecting_error rfl
      · nofun
    · nofun
  · exact rejecting_error rfl

theorem rejecting_checkPlural : Rejecting (checkPlural name o) :=
  rejecting_checkActions.bind (rejecting_checkActions.bind
    (rejecting_checkKeys.bind rejecting_checkPlace))

theorem rejecting_checkSingular : Rejecting (checkSingular name o) := by
  unfold checkSingular
  split_ifs
  · exact rejecting_error rfl
  · exact rejecting_error rfl
  · exact rejecting_checkActions.bind rejecting_checkPlace

end ResourceOptions

/-! ### Steps -/

namespace Pass

variable {α β : Type} {c c' : Except DeclarationError Unit}

/-- A step rejects nothing. -/
def Admits (p : Pass α) : Prop := ∀ g g', ¬p.Rejected g g'

/-- A step makes a check before anything else, and rejects nothing after it. -/
structure ChecksFirst (p : Pass α) (c : Except DeclarationError Unit) : Prop where
  /-- If the check fails, so does the step, and the registry is left as it was. -/
  rejected : ∀ e, c = .error e → ∀ g, p g = (.error (.declaration e), g)
  /-- If it does not fail, nothing is rejected. -/
  admits : c = .ok () → p.Admits

theorem Admits.checksFirst {p : Pass α} (hp : p.Admits) : p.ChecksFirst (.ok ()) :=
  ⟨nofun, fun _ => hp⟩

/-- A step rejects exactly what its check rejects, and leaves the registry as it was. -/
theorem ChecksFirst.rejected_iff {p : Pass α} (hp : p.ChecksFirst c)
    (hc : ResourceOptions.Rejecting c) {g g' : Registry} :
    p.Rejected g g' ↔ g' = g ∧ ∃ e, c = .error e := by
  rcases hcheck : c with e | ⟨⟩
  · constructor
    · rintro ⟨e', -, hrun⟩
      rw [hp.rejected e hcheck] at hrun
      exact ⟨(Prod.mk.inj hrun).2.symm, e, rfl⟩
    · rintro ⟨rfl, -⟩
      exact ⟨e, hc e hcheck, hp.rejected e hcheck g'⟩
  · exact iff_of_false (hp.admits hcheck g g') fun ⟨_, _, h⟩ => nomatch h

theorem admits_pure (a : α) : (Pure.pure a : Pass α).Admits := by
  rintro g g' ⟨e, -, h⟩
  exact nomatch (Prod.mk.inj h).1

theorem Admits.bind {p : Pass α} {f : α → Pass β} (hp : p.Admits) (hf : ∀ a, (f a).Admits) :
    (p >>= f).Admits := by
  rintro g g' ⟨e, he, h⟩
  rcases bind_eq_error h with h | ⟨a, g₁, -, h⟩
  · exact hp g g' ⟨e, he, h⟩
  · exact hf a g₁ g' ⟨e, he, h⟩

theorem admits_mapM {f : α → Pass β} (hf : ∀ a, (f a).Admits) (as : List α) :
    Admits (as.mapM f) := by
  induction as with
  | nil =>
    rw [List.mapM_nil]
    exact admits_pure _
  | cons a as ih =>
    rw [List.mapM_cons]
    exact (hf a).bind fun _ => ih.bind fun _ => admits_pure _

theorem admits_forM {f : α → Pass Unit} (hf : ∀ a, (f a).Admits) (as : List α) :
    Admits (as.forM f) := by
  induction as with
  | nil => exact admits_pure _
  | cons a as ih => exact (hf a).bind fun _ => ih

theorem admits_child (b : Behavior) (cs : Conditions) (ps : Params) : (b.child cs ps).Admits := by
  rintro g g' ⟨e, -, h⟩
  exact nomatch (Prod.mk.inj h).1

theorem admits_route (b : Behavior) (ps : Params) (decision : Option Decision) (isDefault : Bool) :
    (b.route ps decision isDefault).Admits := by
  have hbuild : ∀ built, (ofBuild built).Admits := by
    rintro (e | r)
    -- A route that cannot be built fails with an error of a pattern.
    · rintro g g' ⟨e', -, h⟩
      exact nomatch (Prod.mk.inj h).1
    · exact admits_pure r
  rw [route_eq]
  split
  · exact hbuild _
  · exact (admits_child b ∅ ps).bind fun c => hbuild _

theorem admits_register (b : Behavior) (ps : Params) (decision : Option Decision)
    (isDefault : Bool) : (b.register ps decision isDefault).Admits := by
  refine (admits_route b ps decision isDefault).bind fun r => ?_
  rintro g g' ⟨e, -, h⟩
  exact nomatch (Prod.mk.inj h).1

/-- A name may be refused, which rejects no resource. -/
theorem admits_nameDetached (r : Route) (name : String) :
    (update (·.nameDetached? r name)).Admits := by
  rintro g g' ⟨e, he, h⟩
  obtain ⟨-, d, hd, hrefused⟩ := update_eq_error_iff.mp h
  obtain rfl := Error.declaration.inj hd
  rcases Registry.nameDetached?_eq_error_iff.mp hrefused with ⟨-, rfl⟩ | ⟨-, -, rfl⟩
  · cases he
  · cases he

variable {s : ResourceScope}

theorem admits_action (path : String) (method : Condition) (action : String) :
    (s.action path method action).Admits :=
  (admits_child _ _ _).bind fun b => admits_register b _ none false

theorem admits_generation (path action name : String) : (s.generation path action name).Admits :=
  (admits_child _ _ _).bind fun b => (admits_route b _ none false).bind fun r =>
    admits_nameDetached r name

theorem admits_actions (path name : String) (as : List (String × MethodSet)) :
    (s.actions path name as).Admits :=
  admits_mapM (fun _ => (admits_action _ _ _).bind fun _ =>
    (admits_generation _ _ _).bind fun _ => admits_pure _) as

/-! ### Resources -/

/-- A check that is made before others. -/
theorem ChecksFirst.require {f : Unit → Pass α} (hf : (f ()).ChecksFirst c') :
    (Behavior.require c >>= f).ChecksFirst (c >>= fun _ => c') := by
  rcases c with e | ⟨⟩
  · refine ⟨fun e' he g => ?_, nofun⟩
    rw [← Except.error.inj he]
    rfl
  · exact hf

theorem ChecksFirst.andThen {p : Pass α} {f : α → Pass β} (hp : p.ChecksFirst c)
    (hf : ∀ a, (f a).Admits) : (p >>= f).ChecksFirst c where
  rejected e he g := by rw [bind_apply, hp.rejected e he g]
  admits hc := (hp.admits hc).bind hf

theorem checksFirst_refuse {p : Pass α} {e : DeclarationError}
    (hp : ∀ g, p g = (.error (.declaration e), g)) : p.ChecksFirst (.error e) := by
  refine ⟨fun e' he g => ?_, nofun⟩
  rw [← Except.error.inj he]
  exact hp g

theorem checks_resourceScope (b : Behavior) (name : String) (o : ResourceOptions) :
    (b.resourceScope name o).ChecksFirst (ResourceOptions.checkPlace name o) := by
  unfold Behavior.resourceScope ResourceOptions.checkPlace Behavior.resourceNamespace
  dsimp only
  have hbase : ∀ (path : Condition) (f : Behavior → ResourceScope),
      (do return f (← b.matchPath path) : Pass ResourceScope).Admits :=
    fun path f => (admits_child b _ _).bind fun _ => admits_pure _
  cases isWord name with
  | false => exact checksFirst_refuse fun g => rfl
  | true =>
    rw [if_neg (show ¬(!true) = true by decide), if_pos rfl]
    cases o.scopeName with
    | none =>
      cases b.chain.scope? with
      | none => exact (hbase _ _).checksFirst
      | some scope => exact (hbase _ _).checksFirst
    | some given =>
      dsimp only
      by_cases hblank : (trimSlashes given).isEmpty = true
      · rw [if_pos hblank, if_pos hblank]
        exact checksFirst_refuse fun g => rfl
      · rw [if_neg hblank, if_neg hblank]
        exact (hbase _ _).checksFirst

theorem checks_resources (b : Behavior) (name : String) (o : ResourceOptions) :
    (b.resources name o).ChecksFirst (ResourceOptions.checkPlural name o) := by
  refine .require (.require (.require ?_))
  refine (checks_resourceScope b name o).andThen fun s => ?_
  refine (admits_actions _ _ _).bind fun _ => (admits_actions _ _ _).bind fun _ => ?_
  refine (admits_mapM (fun _ => admits_action _ _ _) _).bind fun _ => ?_
  refine (admits_forM (fun _ => admits_generation _ _ _) _).bind fun _ => ?_
  exact (admits_child _ _ _).bind fun _ => admits_pure _

theorem checks_resource (b : Behavior) (name : String) (o : ResourceOptions) :
    (b.resource name o).ChecksFirst (ResourceOptions.checkSingular name o) := by
  unfold Behavior.resource ResourceOptions.checkSingular
  dsimp only
  by_cases hkeys : o.keys.isSome = true
  · rw [if_pos hkeys, if_pos hkeys]
    exact checksFirst_refuse fun g => rfl
  rw [if_neg hkeys, if_neg hkeys]
  by_cases hcollection : (!o.collection.isEmpty) = true
  · rw [if_pos hcollection, if_pos hcollection]
    exact checksFirst_refuse fun g => rfl
  · rw [if_neg hcollection, if_neg hcollection]
    refine .require ?_
    refine (checks_resourceScope b name o).andThen fun s => ?_
    refine (admits_actions _ _ _).bind fun _ => ?_
    refine (admits_mapM (fun _ => admits_action _ _ _) _).bind fun _ => ?_
    exact (admits_forM (fun _ => admits_generation _ _ _) _).bind fun _ => admits_pure _

end Pass

/-- Which resources are rejected, and what they leave. A plural resource is rejected exactly if
something is wrong with its name or its options, and a singular one also if it is given keys or
further actions on the collection. The registry is then as it was before. -/
theorem Behavior.resource_rejected_iff (b : Behavior) (name : String) (o : ResourceOptions)
    (g g' : Registry) :
    ((b.resources name o).Rejected g g' ↔ g' = g ∧ o.Wrong name) ∧
      ((b.resource name o).Rejected g g' ↔
        g' = g ∧ (o.Wrong name ∨ o.keys.isSome = true ∨ o.collection ≠ [])) := by
  constructor
  · rw [(Pass.checks_resources b name o).rejected_iff ResourceOptions.rejecting_checkPlural,
      ResourceOptions.exists_error_checkPlural_iff]
  · rw [(Pass.checks_resource b name o).rejected_iff ResourceOptions.rejecting_checkSingular,
      ResourceOptions.exists_error_checkSingular_iff]

end HttpRouting
