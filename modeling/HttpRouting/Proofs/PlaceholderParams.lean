import HttpRouting.Proofs.Cuts
import HttpRouting.Proofs.DefaultAction

/-!
# The parameters of placeholders

Each named placeholder of a step becomes a parameter that reads it. A chain takes placeholders away
when their condition is replaced, while it collects the parameters of all steps. A parameter that is
left without its placeholder is stale, and is not one of the chain. So the parameters that have been
made for placeholders always find them, and a route can fail only for a condition that is no
expression or for a value that a step gives. Where the steps give only plain values, nothing but a
condition makes a route fail.

## Main definitions

* `Node.ReadsOwn` — a parameter of a node is given, or it reads the placeholder of its name
* `Chain.FindsGiven` — what the given values of a chain refer to is there
* `Route.invalidCondition?` — the first condition of a chain that is no expression

## Main results

* `Node.contains_placeholders_iff` — the placeholders of a node are those of its conditions
* `Chain.given_or_reads` — a parameter of a chain is given, or it reads a placeholder of the chain
* `Route.exists_build_ofFramesWith_iff` — when some steps describe a route
* `Route.build_eq_error_iff` — why a chain with plain parameters describes no route
-/

namespace HttpRouting

open Placeholder

/-! ### Names -/

/-- The names of placeholders are identifiers, whatever they have been cut out of. -/
theorem Placeholder.Cut.isIdentifier {m : Mode} {cs name : List Char} {xs : Tokens}
    (h : Cut m cs xs) (hname : .inr (some name) ∈ xs) : Identifier.isIdentifier name = true := by
  induction h with
  | nil m => cases hname
  | @placeholder m cs rest name' xs hm hbegins hrest ih =>
    rcases List.mem_cons.mp hname with heq | hmem
    · exact (hbegins.2 name (Sum.inr.inj heq).symm).1
    · exact ih hmem
  | char hc hcs ih =>
    rcases List.mem_cons.mp hname with heq | hmem
    · cases heq
    · exact ih hmem

namespace Node

variable {o : Options} {x : String}

theorem isIdentifier_of_mem_named {k : Key} {c : Condition} {i : Nat}
    (h : (x, i) ∈ named (expanded o k c)) : Identifier.isIdentifier x.toList = true := by
  obtain ⟨⟨name, j⟩, hmem, hname⟩ := List.mem_filterMap.mp h
  obtain ⟨y, rfl, hy⟩ := Option.map_eq_some_iff.mp hname
  obtain ⟨rfl, rfl⟩ := Prod.mk.inj hy
  have hfirst := List.mem_map_of_mem (f := (·.1)) hmem
  rw [expanded, expand, map_fst_captures] at hfirst
  obtain ⟨token, htoken, hx⟩ := List.mem_filterMap.mp hfirst
  cases token with
  | inl c => cases hx
  | inr name =>
    obtain ⟨cs, rfl, rfl⟩ := Option.map_eq_some_iff.mp (Option.some.inj hx)
    rw [String.toList_ofList]
    exact (cut_iff.mpr rfl).isIdentifier htoken

/-- The placeholders of a condition are put to those of the conditions before it. -/
theorem contains_foldl_named_iff {k : Key} {l : List (String × Nat)}
    {m : Std.ExtTreeMap String (Key × Nat)} :
    (l.foldl (fun m p => m.insert p.1 (k, p.2)) m).contains x = true ↔
      (∃ i, (x, i) ∈ l) ∨ m.contains x = true := by
  induction l generalizing m with
  | nil => simp
  | cons p l ih =>
    rw [List.foldl_cons, ih, Std.ExtTreeMap.contains_insert, Bool.or_eq_true, beq_iff_eq,
      Std.compare_eq_iff_eq]
    simp only [List.mem_cons, exists_or, Prod.ext_iff, exists_and_left, exists_eq, and_true]
    tauto

/-- The placeholders of a node are those of its conditions. -/
theorem contains_placeholders_iff (cs : Conditions) (ps : Params) :
    (ofConditions o cs ps).placeholders.contains x = true ↔
      ∃ k c i, cs.kept[k]? = some c ∧ (x, i) ∈ named (expanded o k c) := by
  have hfold : ∀ (l : List (Key × Condition)) (n : Node),
      (l.foldl (fun n p => n.addCondition o p.1 p.2) n).placeholders.contains x = true ↔
        (∃ p ∈ l, ∃ i, (x, i) ∈ named (expanded o p.1 p.2)) ∨
          n.placeholders.contains x = true := by
    intro l
    induction l with
    | nil => simp
    | cons p l ih =>
      intro n
      refine (ih _).trans ((or_congr_right contains_foldl_named_iff).trans ?_)
      rw [List.exists_mem_cons_iff]
      exact or_left_comm.trans or_assoc.symm
  refine (hfold cs.kept.toList { params := ps }).trans ?_
  simp only [Std.ExtTreeMap.contains_empty, Bool.false_eq_true, or_false, Prod.exists,
    Std.ExtTreeMap.mem_toList_iff_getElem?_eq_some, exists_and_left]

theorem isIdentifier_of_contains (cs : Conditions) (ps : Params)
    (h : (ofConditions o cs ps).placeholders.contains x = true) :
    Identifier.isIdentifier x.toList = true := by
  obtain ⟨k, c, i, -, hmem⟩ := (contains_placeholders_iff cs ps).mp h
  exact isIdentifier_of_mem_named hmem

/-- The parameters of a node have been given, or each reads the placeholder of its own name. -/
structure ReadsOwn (n : Node) (given : String → String → Prop) : Prop where
  /-- A parameter is given, or it reads a placeholder of the node. -/
  value : ∀ x v : String, n.params[x]? = some v →
    given x v ∨ v = reading x ∧ n.placeholders.contains x = true
  /-- A placeholder can be read. -/
  identifier : ∀ x, n.placeholders.contains x = true → Identifier.isIdentifier x.toList = true

variable {given : String → String → Prop}

theorem readsOwn_ofConditions (o : Options) (cs : Conditions) {ps : Params}
    (hps : ∀ x v : String, ps[x]? = some v → given x v) :
    (ofConditions o cs ps).ReadsOwn given where
  value x v h := by
    rw [getElem?_params_ofConditions, Option.or_eq_some_iff] at h
    rcases h with h | ⟨-, h⟩
    · exact .inl (hps x v h)
    · split at h
      · next hcontains => exact .inr ⟨(Option.some.inj h).symm, hcontains⟩
      · cases h
  identifier _ := isIdentifier_of_contains cs ps

end Node

/-! ### Chains -/

namespace Chain

variable {c : Chain} {x v : String} {given : String → String → Prop}

theorem given_or_reading_of_allParams (hc : ∀ n ∈ c, n.ReadsOwn given)
    (h : c.allParams[x]? = some v) : given x v ∨
      v = Node.reading x ∧ ∃ n ∈ c, n.placeholders.contains x = true := by
  induction c with
  | nil =>
    rw [allParams, Std.ExtTreeMap.getElem?_empty] at h
    cases h
  | cons n outer ih =>
    obtain ⟨hn, houter⟩ := List.forall_mem_cons.mp hc
    rw [getElem?_allParams_cons_node, Option.or_eq_some_iff] at h
    rcases h with h | ⟨-, h⟩
    · refine (hn.value x v h).imp_right fun ⟨hvalue, hcontains⟩ => ?_
      exact ⟨hvalue, n, List.mem_cons_self, hcontains⟩
    · refine (ih houter h).imp_right fun ⟨hvalue, m, hm, hcontains⟩ => ?_
      exact ⟨hvalue, m, List.mem_cons_of_mem n hm, hcontains⟩

/-- A parameter of a chain is given, or it reads a placeholder that the chain still has. -/
theorem given_or_reads (hc : ∀ n ∈ c, n.ReadsOwn given) (h : c.params[x]? = some v) :
    given x v ∨ v = Node.reading x ∧ c.placeholders[x]?.isSome = true ∧
      Identifier.isIdentifier x.toList = true := by
  rw [getElem?_params, Option.filter_eq_some_iff] at h
  obtain ⟨hall, hstale⟩ := h
  rcases given_or_reading_of_allParams hc hall with hgiven | ⟨rfl, n, hn, hcontains⟩
  · exact .inl hgiven
  · -- Some node has had the placeholder, so the parameter would be stale if the chain had not.
    have hany : c.any (·.placeholders.contains x) = true := List.any_eq_true.mpr ⟨n, hn, hcontains⟩
    rw [isStale, hany, beq_self_eq_true, Bool.true_and, Bool.true_and, Bool.not_not,
      Std.ExtTreeMap.contains_eq_isSome_getElem?] at hstale
    exact .inr ⟨rfl, hstale, (hc n hn).identifier x hcontains⟩

/-- If the given values find what they refer to, every reference in a parameter does. -/
theorem resolves_of_readsOwn (hc : ∀ n ∈ c, n.ReadsOwn given)
    (hgiven : given x v → ∀ reference, .inr reference ∈ Template.references v.toList →
      Route.Resolves c reference)
    (h : c.params[x]? = some v) {reference : Template.Reference}
    (hmem : .inr reference ∈ Template.references v.toList) : Route.Resolves c reference := by
  rcases given_or_reads hc h with hgave | ⟨rfl, hplaceholder, hidentifier⟩
  · exact hgiven hgave reference hmem
  · rw [Template.references_reading hidentifier] at hmem
    obtain rfl := Sum.inr.inj (List.mem_singleton.mp hmem)
    exact hplaceholder

theorem readsOwn_ofFramesWith {o : Options} {fs : List Frame}
    (hfs : ∀ f ∈ fs, ∀ x v : String, f.params[x]? = some v → given x v) :
    ∀ n ∈ ofFramesWith o fs, n.ReadsOwn given := by
  refine List.forall_mem_map.mpr fun f hf => ?_
  obtain ⟨hvalue, hidentifier⟩ := Node.readsOwn_ofConditions o f.conditions (hfs f hf)
  exact ⟨hvalue, hidentifier⟩

theorem readsOwn_root {o : Options} (haction : given "action" o.defaultAction) :
    ∀ n ∈ (Behavior.root o).chain, n.ReadsOwn given := by
  refine List.forall_mem_singleton.mpr (Node.readsOwn_ofConditions o ∅ fun x v h => ?_)
  rw [Std.ExtTreeMap.getElem?_insert, Std.ExtTreeMap.getElem?_empty] at h
  split at h
  · next hname =>
    obtain rfl := Std.compare_eq_iff_eq.mp hname
    exact Option.some.inj h ▸ haction
  · cases h

/-- What the given values among the parameters of some steps refer to is there. -/
def FindsGiven (o : Options) (fs : List Frame) : Prop :=
  ∀ x v : String, (ofFramesWith o fs).params[x]? = some v →
    (∃ f ∈ fs, f.params[x]? = some v) → ∀ reference,
      .inr reference ∈ Template.references v.toList → Route.Resolves (ofFramesWith o fs) reference

end Chain

/-! ### Routes -/

namespace Route

/-- Some steps describe a route if their conditions compile and their given values find what they
refer to. -/
theorem exists_build_ofFramesWith_iff {o : Options} {fs : List Frame} {decision : Option Decision}
    {isDefault : Bool} :
    (∃ r, build (Chain.ofFramesWith o fs) decision isDefault = .ok r) ↔
      (∀ (k : Key) source, (Chain.ofFramesWith o fs).conditions[k]? = some source →
        (Regex.parse? source).isSome = true) ∧ Chain.FindsGiven o fs := by
  rw [exists_build_iff]
  refine and_congr_right fun _ => ⟨fun h x v hv _ => h x v hv, fun h x v hv reference => ?_⟩
  have hreads : ∀ n ∈ Chain.ofFramesWith o fs,
      n.ReadsOwn fun x v => ∃ f ∈ fs, f.params[x]? = some v :=
    Chain.readsOwn_ofFramesWith fun f hf _ _ hv => ⟨f, hf, hv⟩
  exact Chain.resolves_of_readsOwn hreads (h x v hv) hv

/-- The first condition that is no expression. -/
def invalidCondition? (c : Chain) : Option (Key × String) :=
  c.conditions.toList.find? fun p => (Regex.parse? p.2).isNone

/-- Conditions fail with the first of them that is no expression. -/
theorem mapM_compileTest_eq_error_iff {conditions : List (Key × String)} {e : PatternError} :
    (conditions.mapM fun p => compileTest p.1 p.2) = .error e ↔
      ∃ k source, conditions.find? (fun p => (Regex.parse? p.2).isNone) = some (k, source) ∧
        e = .invalidRegex k.name source := by
  induction conditions with
  | nil => exact ⟨nofun, nofun⟩
  | cons p conditions ih =>
    rw [List.mapM_cons, List.find?_cons, compileTest]
    cases Regex.parse? p.2 with
    | none =>
      constructor
      · rintro ⟨⟩
        exact ⟨p.1, p.2, rfl, rfl⟩
      · rintro ⟨k, source, hfirst, rfl⟩
        obtain rfl := Option.some.inj hfirst
        rfl
    | some regex =>
      refine Iff.trans ?_ ih
      cases conditions.mapM fun p => compileTest p.1 p.2 with
      | error e' => exact Iff.rfl
      | ok tests => exact ⟨nofun, nofun⟩

/-- Where the steps and the root have only plain parameters, a chain describes a route unless one of
its conditions is no expression. The error is then the first of these. -/
theorem build_eq_error_iff {o : Options} {fs : List Frame} (hfs : PlainParams fs)
    (haction : Template.IsPlain o.defaultAction) (decision : Option Decision) (isDefault : Bool)
    (e : PatternError) :
    build (Chain.ofFramesWith o fs ++ (Behavior.root o).chain) decision isDefault = .error e ↔
      ∃ k source, invalidCondition? (Chain.ofFramesWith o fs ++ (Behavior.root o).chain) =
        some (k, source) ∧ e = .invalidRegex k.name source := by
  have hreads : ∀ n ∈ Chain.ofFramesWith o fs ++ (Behavior.root o).chain,
      n.ReadsOwn fun _ v => Template.IsPlain v :=
    List.forall_mem_append.mpr ⟨Chain.readsOwn_ofFramesWith hfs, Chain.readsOwn_root haction⟩
  generalize Chain.ofFramesWith o fs ++ (Behavior.root o).chain = c at hreads ⊢
  rw [invalidCondition?, ← mapM_compileTest_eq_error_iff]
  cases htests : c.conditions.toList.mapM fun p => compileTest p.1 p.2 with
  | error e' =>
    rw [build, htests]
    constructor <;> exact fun h => congrArg _ (Except.error.inj h)
  | ok tests =>
    obtain ⟨params, hparams⟩ := (exists_params_iff htests).mpr fun _ _ hvalue _ hreference =>
      Chain.resolves_of_readsOwn hreads (fun hplain reference hmem =>
        absurd hmem (Template.inr_not_mem_references hplain reference)) hvalue hreference
    rw [build_eq_ok_iff.mpr ⟨tests, params, htests, hparams, rfl⟩]
    exact ⟨nofun, nofun⟩

/-- Steps of which the innermost replaces the conditions of the next one, and takes the placeholders
away for which there are parameters. Its condition on the method is no expression. -/
def brokenMethod : List Frame :=
  [{ conditions := ((∅ : Conditions).insert (.attr "host") (.literal "static.example.com")).insert
      .method (.pattern "(") },
    { conditions := ((∅ : Conditions).insert (.attr "host") (.literal ":sub.example.com")).insert
        .method (.literal ":verb"), params := (∅ : Params).insert "id" "5" },
    { conditions := .ofPath (.literal "/:sub/:id") }]

/-- The condition on the method is the cause, and not the placeholders that are gone. -/
theorem build_eq_error_brokenMethod :
    (PlainParams brokenMethod ∧ Template.IsPlain ({} : Options).defaultAction) ∧
      build (Chain.ofFramesWith {} brokenMethod ++ (Behavior.root {}).chain) none false =
        .error (.invalidRegex "method" "(?i)(") := by
  have hplain : PlainParams brokenMethod := by
    refine List.forall_mem_cons.mpr ⟨fun x v h => ?_, List.forall_mem_cons.mpr
      ⟨fun x v h => ?_, List.forall_mem_singleton.mpr fun x v h => ?_⟩⟩
    · rw [Std.ExtTreeMap.getElem?_empty] at h
      cases h
    · rw [Std.ExtTreeMap.getElem?_insert, Std.ExtTreeMap.getElem?_empty] at h
      split at h
      · exact Option.some.inj h ▸ (by decide)
      · cases h
    · rw [Std.ExtTreeMap.getElem?_empty] at h
      cases h
  refine ⟨⟨hplain, by decide⟩, ?_⟩
  exact (build_eq_error_iff hplain (by decide) none false _).mpr
    ⟨.method, "(?i)(", by decide +kernel, rfl⟩

end Route

end HttpRouting
