import HttpRouting.Proofs.ChainPath

/-!
# Replaced conditions

A condition on a key other than the path is replaced by one on the same key further in, and its
placeholders are taken away. Its texts leave no trace, but its placeholders may: while the chain is
gone through from the outside, a placeholder of the condition takes the place of another one of the
same name, and when it is taken away, that one does not come back. These are the names that are
lost. All other names are as if the condition had never been there.

## Main definitions

* `Frame.without` — a step without one of its conditions
* `Chain.Lost` — a name that a replaced condition has taken away

## Main results

* `Node.getElem?_params_ofConditions` — what a node reads
* `Node.placeholders_erase` — the placeholders of a node without one of its conditions
* `Chain.replaced_traces` — what a replaced condition leaves
-/

namespace HttpRouting

open Placeholder

/-! ### Nodes -/

/-- Without one of the conditions, the others are kept. -/
theorem Conditions.kept_erase {k : Key} (hk : k ≠ .path) (cs : Conditions) :
    Conditions.kept (cs.erase k) = cs.kept.filter fun k' _ => decide (k' ≠ k) := by
  have herase : ∀ k', (cs.erase k)[k']? = cs[k']?.filter fun _ => decide (k' ≠ k) := by
    intro k'
    rw [Std.ExtTreeMap.getElem?_erase]
    by_cases hkey : k' = k
    · subst hkey
      simp
    · cases cs[k']? <;> simp [hkey, Ne.symm hkey, Option.filter_some]
  refine Std.ExtTreeMap.ext_getElem? fun k' => ?_
  rw [Std.ExtTreeMap.getElem?_filter']
  by_cases hpath : k' = .path
  · subst hpath
    rw [Conditions.getElem?_kept_path, Conditions.getElem?_kept_path, herase]
    simp [Ne.symm hk]
  · rw [Conditions.getElem?_kept hpath, Conditions.getElem?_kept hpath, herase]

namespace Node

variable {o : Options}

/-- A condition as a node expands it. -/
def expanded (o : Options) (k : Key) (c : Condition) : Expansion :=
  expand (if k = .method && o.caseInsensitiveMethod then c.foldCase else c).source
    o.placeholderPattern

/-- The placeholders with names. -/
def named (e : Expansion) : List (String × Nat) :=
  e.placeholders.filterMap fun (name, i) => name.map (·, i)

/-- A node reads its placeholders, unless it has parameters of the same names. -/
theorem getElem?_params_ofConditions (cs : Conditions) (ps : Params) (x : String) :
    (ofConditions o cs ps).params[x]? = ps[x]?.or
      (if (ofConditions o cs ps).placeholders.contains x then some (reading x) else none) := by
  -- Along the conditions, and along the placeholders of each: both maps change together.
  have hnamed : ∀ (k : Key) (l : List (String × Nat)) (qs : Params)
      (m : Std.ExtTreeMap String (Key × Nat)),
      qs[x]? = ps[x]?.or (if m.contains x then some (reading x) else none) →
      (l.foldl (fun ps p => ps.insertIfNew p.1 (reading p.1)) qs)[x]? =
        ps[x]?.or (if (l.foldl (fun m p => m.insert p.1 (k, p.2)) m).contains x then
          some (reading x) else none) := by
    intro k l
    induction l with
    | nil => exact fun qs m h => h
    | cons p l ih =>
      intro qs m h
      refine ih _ _ ?_
      rw [getElem?_insertIfNew_or, h, Option.or_assoc, Std.ExtTreeMap.contains_insert]
      congr 1
      by_cases hname : p.1 = x
      · subst hname
        cases m.contains p.1 <;> simp
      · simp [hname]
  have hfold : ∀ (l : List (Key × Condition)) (n : Node),
      n.params[x]? = ps[x]?.or (if n.placeholders.contains x then some (reading x) else none) →
      (l.foldl (fun n p => n.addCondition o p.1 p.2) n).params[x]? = ps[x]?.or
        (if (l.foldl (fun n p => n.addCondition o p.1 p.2) n).placeholders.contains x then
          some (reading x) else none) := by
    intro l
    induction l with
    | nil => exact fun n h => h
    | cons p l ih => exact fun n h => ih _ (hnamed p.1 _ _ _ h)
  refine hfold cs.kept.toList { params := ps } ?_
  simp

/-- A condition gives its placeholders places of its key, and leaves the others. -/
theorem exists_getElem?_placeholders (k : Key) (c : Condition) (x : String) :
    ∃ i? : Option Nat, ∀ n : Node, (n.addCondition o k c).placeholders[x]? =
      (i?.map (k, ·)).or n.placeholders[x]? := by
  have hfold : ∀ l : List (String × Nat), ∃ i? : Option Nat,
      ∀ m : Std.ExtTreeMap String (Key × Nat),
        (l.foldl (fun m p => m.insert p.1 (k, p.2)) m)[x]? = (i?.map (k, ·)).or m[x]? := by
    intro l
    induction l with
    | nil => exact ⟨none, fun m => rfl⟩
    | cons p l ih =>
      obtain ⟨i?, hi⟩ := ih
      refine ⟨i?.or (if p.1 = x then some p.2 else none), fun m => ?_⟩
      rw [List.foldl_cons, hi, Std.ExtTreeMap.getElem?_insert, Option.map_or, Option.or_assoc]
      by_cases hname : p.1 = x <;> simp [hname]
  obtain ⟨i?, hi⟩ := hfold (named (expanded o k c))
  exact ⟨i?, fun n => hi n.placeholders⟩

/-- Without one of its conditions, a node has the placeholders that are not of that condition. -/
theorem placeholders_erase {k : Key} (hk : k ≠ .path) (cs : Conditions) (ps : Params)
    (x : String) :
    (ofConditions o cs ps).placeholders[x]? = (ofConditions o (cs.erase k) ps).placeholders[x]? ∨
      ∃ i, (ofConditions o cs ps).placeholders[x]? = some (k, i) := by
  have hfold : ∀ (l : List (Key × Condition)) (n n' : Node),
      (n.placeholders[x]? = n'.placeholders[x]? ∨ ∃ i, n.placeholders[x]? = some (k, i)) →
      (l.foldl (fun n p => n.addCondition o p.1 p.2) n).placeholders[x]? =
          ((l.filter fun p => decide (p.1 ≠ k)).foldl (fun n p => n.addCondition o p.1 p.2)
            n').placeholders[x]? ∨
        ∃ i, (l.foldl (fun n p => n.addCondition o p.1 p.2) n).placeholders[x]? =
          some (k, i) := by
    intro l
    induction l with
    | nil => exact fun n n' h => h
    | cons p l ih =>
      intro n n' h
      obtain ⟨key, c⟩ := p
      obtain ⟨i?, hi⟩ := @exists_getElem?_placeholders o key c x
      by_cases hkey : key = k
      · subst hkey
        rw [List.filter_cons_of_neg (by simp)]
        refine ih _ _ ?_
        rw [hi]
        cases i? with
        | none => exact h
        | some i => exact .inr ⟨i, rfl⟩
      · rw [List.filter_cons_of_pos (by simpa using hkey)]
        refine ih _ _ ?_
        rw [hi, hi]
        cases i? with
        | none => exact h
        | some i => exact .inl rfl
  -- Erasing a condition erases it from the list that the node has been made of.
  have hlist : (Conditions.kept (cs.erase k)).toList =
      cs.kept.toList.filter fun p => decide (p.1 ≠ k) := by
    rw [Conditions.kept_erase hk]
    exact Std.ExtTreeMap.toList_filter
  have h := hfold cs.kept.toList { params := ps } { params := ps } (.inl rfl)
  rw [← hlist] at h
  exact h

end Node

/-! ### Chains of nodes -/

namespace Chain

section Texts

variable {part : Node → Std.ExtTreeMap Key String} {k : Key}

/-- One of the texts of all nodes, merged. -/
def merged (part : Node → Std.ExtTreeMap Key String) (c : Chain) : Std.ExtTreeMap Key String :=
  c.foldr (fun n m => merge m (part n)) ∅

theorem conditions_eq_merged (c : Chain) : c.conditions = c.merged (·.conditions) := by
  induction c with
  | nil => rfl
  | cons n outer ih => exact congrArg (merge · n.conditions) ih

theorem spellings_eq_merged (c : Chain) : c.spellings = c.merged (·.spellings) := by
  induction c with
  | nil => rfl
  | cons n outer ih => exact congrArg (merge · n.spellings) ih

/-- What is found after merging depends only on what is found before. -/
theorem getElem?_merge_congr {m m' l l' : Std.ExtTreeMap Key String} (hm : m[k]? = m'[k]?)
    (hl : l[k]? = l'[k]?) : (merge m l)[k]? = (merge m' l')[k]? := by
  by_cases hk : k = .path
  · subst hk
    unfold merge
    rw [hm, hl]
    split
    · rw [Std.ExtTreeMap.getElem?_insert_self, Std.ExtTreeMap.getElem?_insert_self]
    · rw [Std.ExtTreeMap.getElem?_union, Std.ExtTreeMap.getElem?_union, hm, hl]
  · rw [getElem?_merge_of_ne hk, getElem?_merge_of_ne hk, hm, hl]

/-- A text that is replaced further in leaves no trace. -/
theorem merged_replaced (hk : k ≠ .path) {inner : Chain}
    (hreplaced : ∃ m ∈ inner, ((part m)[k]?).isSome = true) {n n' : Node}
    (hn : ∀ k' ≠ k, (part n)[k']? = (part n')[k']?) (outer : Chain) :
    merged part (inner ++ n :: outer) = merged part (inner ++ n' :: outer) := by
  refine Std.ExtTreeMap.ext_getElem? fun k' => ?_
  by_cases hkey : k' = k
  · subst hkey
    induction inner with
    | nil =>
      obtain ⟨m, hm, -⟩ := hreplaced
      cases hm
    | cons m inner ih =>
      refine (getElem?_merge_of_ne hk).trans (Eq.trans ?_ (getElem?_merge_of_ne hk).symm)
      cases hm : (part m)[k']? with
      | some v => rfl
      | none =>
        obtain ⟨m', hm', hsome⟩ := hreplaced
        rcases List.mem_cons.mp hm' with rfl | hmem
        · rw [hm] at hsome
          cases hsome
        · rw [Option.none_or, Option.none_or]
          exact ih ⟨m', hmem, hsome⟩
  · clear hreplaced
    induction inner with
    | nil => exact getElem?_merge_congr rfl (hn k' hkey)
    | cons m inner ih => exact getElem?_merge_congr ih rfl

end Texts

section Placeholders

variable {k : Key} {inner : Chain} {n n' : Node} {x : String}

/-- A node leaves a placeholder of a node further out where it is. -/
def keeps (p : Key × Nat) (m : Node) : Bool := p.1 = .path || !m.conditions.contains p.1

theorem getElem?_placeholders_cons (m : Node) (outer : Chain) (x : String) :
    (placeholders (m :: outer))[x]? = (m.placeholders[x]?.map (shift outer.pathGroups)).or
      (outer.placeholders[x]?.filter (keeps · m)) := by
  have hcons : placeholders (m :: outer) = (outer.placeholders.filter fun _ p => keeps p m) ∪
      m.placeholders.map fun _ p => shift outer.pathGroups p := rfl
  rw [hcons, Std.ExtTreeMap.getElem?_union, Std.ExtTreeMap.getElem?_map,
    Std.ExtTreeMap.getElem?_filter']

/-- Nodes without a placeholder of a name only take one away. -/
theorem getElem?_placeholders_append (hinner : ∀ m ∈ inner, m.placeholders[x]? = none)
    (base : Chain) : (placeholders (inner ++ base))[x]? =
      base.placeholders[x]?.filter fun p => inner.all (keeps p) := by
  induction inner with
  | nil => cases hbase : base.placeholders[x]? <;> simp [hbase, Option.filter_some]
  | cons m inner ih =>
    obtain ⟨hm, hrest⟩ := List.forall_mem_cons.mp hinner
    rw [List.cons_append, getElem?_placeholders_cons, hm, ih hrest, Option.map_none, Option.none_or,
      Option.filter_filter]
    simp only [List.all_cons, Bool.and_comm]

/-- A node with a placeholder of a name hides those further out for good. -/
theorem getElem?_placeholders_of_hidden (hinner : ¬∀ m ∈ inner, m.placeholders[x]? = none)
    {base base' : Chain} (hgroups : base.pathGroups = base'.pathGroups) :
    (placeholders (inner ++ base))[x]? = (placeholders (inner ++ base'))[x]? := by
  have happend : ∀ l : Chain, pathGroups (l ++ base) = pathGroups (l ++ base') := by
    intro l
    induction l with
    | nil => exact hgroups
    | cons m l ih => exact congrArg (· + m.pathGroups) ih
  induction inner with
  | nil => exact absurd (List.forall_mem_nil _) hinner
  | cons m inner ih =>
    rw [List.cons_append, List.cons_append, getElem?_placeholders_cons, getElem?_placeholders_cons,
      happend]
    cases hm : m.placeholders[x]? with
    | some p => rfl
    | none =>
      rw [ih fun hrest => hinner (List.forall_mem_cons.mpr ⟨hm, hrest⟩)]

variable (hk : k ≠ .path) (hreplaced : ∃ m ∈ inner, (m.conditions[k]?).isSome = true)
include hk hreplaced

/-- Placeholders of a condition that is replaced are taken away. -/
theorem all_keeps_eq_false (i : Nat) : inner.all (keeps (k, i)) = false := by
  obtain ⟨m, hm, hsome⟩ := hreplaced
  rw [List.all_eq_false]
  refine ⟨m, hm, ?_⟩
  simp [keeps, hk, Std.ExtTreeMap.contains_eq_isSome_getElem?, hsome]

/-- A placeholder of a replaced condition is gone, if no node further in has one of its name. -/
theorem getElem?_placeholders_lost {i : Nat} (hn : n.placeholders[x]? = some (k, i))
    (hinner : ∀ m ∈ inner, m.placeholders[x]? = none) (outer : Chain) :
    (placeholders (inner ++ n :: outer))[x]? = none := by
  have hshift : ∀ offset, shift offset (k, i) = (k, i) := by
    intro offset
    unfold shift
    split
    · next heq => exact absurd (Prod.mk.inj heq).1 hk
    · rfl
  rw [getElem?_placeholders_append hinner, getElem?_placeholders_cons, hn, Option.map_some, hshift,
    Option.some_or, Option.filter_some, all_keeps_eq_false hk hreplaced]
  rfl

/-- Where two nodes have the same placeholder, and the same conditions but one that is replaced,
so have their chains. -/
theorem getElem?_placeholders_replaced
    (hconditions : ∀ k' ≠ k, n.conditions[k']? = n'.conditions[k']?)
    (hx : (∀ m ∈ inner, m.placeholders[x]? = none) → n.placeholders[x]? = n'.placeholders[x]?)
    (outer : Chain) :
    (placeholders (inner ++ n :: outer))[x]? = (placeholders (inner ++ n' :: outer))[x]? := by
  by_cases hinner : ∀ m ∈ inner, m.placeholders[x]? = none
  · rw [getElem?_placeholders_append hinner, getElem?_placeholders_append hinner,
      getElem?_placeholders_cons, getElem?_placeholders_cons, hx hinner]
    cases n'.placeholders[x]? with
    | some p => rfl
    | none =>
      -- The nodes differ in what they take away on `k`, which is taken away further in anyway.
      have hkeeps : ∀ p : Key × Nat,
          (keeps p n && inner.all (keeps p)) = (keeps p n' && inner.all (keeps p)) := by
        rintro ⟨key, i⟩
        by_cases hkey : key = k
        · subst hkey
          rw [all_keeps_eq_false hk hreplaced, Bool.and_false, Bool.and_false]
        · rw [keeps, keeps, Std.ExtTreeMap.contains_eq_isSome_getElem?,
            Std.ExtTreeMap.contains_eq_isSome_getElem?, hconditions key hkey]
      rw [Option.map_none, Option.none_or, Option.none_or, Option.filter_filter,
        Option.filter_filter]
      simp only [hkeeps]
  · refine getElem?_placeholders_of_hidden hinner ?_
    rw [pathGroups, pathGroups, Node.pathGroups, Node.pathGroups, hconditions .path (Ne.symm hk)]

end Placeholders

theorem getElem?_allParams_cons_node (m : Node) (outer : Chain) (x : String) :
    (allParams (m :: outer))[x]? = m.params[x]?.or outer.allParams[x]? :=
  Std.ExtTreeMap.getElem?_union

theorem getElem?_allParams_append (inner base : Chain) (x : String) :
    (allParams (inner ++ base))[x]? = (inner.findSome? (·.params[x]?)).or base.allParams[x]? := by
  induction inner with
  | nil => rfl
  | cons m inner ih =>
    rw [List.cons_append, getElem?_allParams_cons_node, ih, List.findSome?_cons]
    cases m.params[x]? <;> rfl

theorem getElem?_params (c : Chain) (x : String) :
    c.params[x]? = c.allParams[x]?.filter fun v => !c.isStale x v :=
  Std.ExtTreeMap.getElem?_filter'

theorem getElem?_params_congr {c c' : Chain} {x : String}
    (hall : c.allParams[x]? = c'.allParams[x]?)
    (hany : c.any (·.placeholders.contains x) = c'.any (·.placeholders.contains x))
    (hplaceholders : c.placeholders[x]? = c'.placeholders[x]?) : c.params[x]? = c'.params[x]? := by
  have hstale : ∀ v, c.isStale x v = c'.isStale x v := by
    intro v
    rw [isStale, isStale, hany, Std.ExtTreeMap.contains_eq_isSome_getElem?,
      Std.ExtTreeMap.contains_eq_isSome_getElem?, hplaceholders]
  rw [getElem?_params, getElem?_params, hall]
  simp only [hstale]

end Chain

/-! ### Chains of steps -/

namespace Frame

/-- The node that the step makes with some options. -/
def nodeWith (o : Options) (f : Frame) : Node :=
  { Node.ofConditions o f.conditions f.params with scope := f.scope, parents := f.parents }

/-- The step without its condition on a key. -/
def without (k : Key) (f : Frame) : Frame := { f with conditions := f.conditions.erase k }

variable {o : Options} {f : Frame} {k : Key}

theorem getElem?_conditions_nodeWith (k : Key) : (f.nodeWith o).conditions[k]? =
    f.conditions.kept[k]?.map fun c => (Node.expanded o k c).source :=
  Node.getElem?_ofConditions o (·.conditions) (fun k c => (Node.expanded o k c).source)
    (fun _ _ _ => rfl) f.conditions rfl k

theorem getElem?_spellings_nodeWith (k : Key) : (f.nodeWith o).spellings[k]? =
    f.conditions.kept[k]?.map fun c =>
      (if k = .method && o.caseInsensitiveMethod then c.foldCase else c).spelling :=
  Node.getElem?_ofConditions o (·.spellings)
    (fun k c => (if k = .method && o.caseInsensitiveMethod then c.foldCase else c).spelling)
    (fun _ _ _ => rfl) f.conditions rfl k

theorem getElem?_params_nodeWith (x : String) : (f.nodeWith o).params[x]? =
    f.params[x]?.or (if ((f.nodeWith o).placeholders[x]?).isSome then some (Node.reading x)
      else none) := by
  rw [← Std.ExtTreeMap.contains_eq_isSome_getElem?]
  exact Node.getElem?_params_ofConditions f.conditions f.params x

/-- A step without one condition keeps the others. -/
theorem getElem?_kept_without (hk : k ≠ .path) {k' : Key} (hkey : k' ≠ k) :
    (f.without k).conditions.kept[k']? = f.conditions.kept[k']? := by
  refine (congrArg (·[k']?) (Conditions.kept_erase hk f.conditions)).trans ?_
  rw [Std.ExtTreeMap.getElem?_filter']
  cases f.conditions.kept[k']? <;> simp [hkey]

end Frame

namespace Chain

/-- The chain that some steps make with some options, the innermost first. -/
def ofFramesWith (o : Options) (fs : List Frame) : Chain := fs.map (Frame.nodeWith o)

/-- A name is lost: in a step it stands for a placeholder of the condition on a key, and in the
steps further in it stands for no placeholder. -/
def Lost (o : Options) (inner : List Frame) (f : Frame) (k : Key) (x : String) : Prop :=
  (∃ i, (f.nodeWith o).placeholders[x]? = some (k, i)) ∧
    ∀ m ∈ inner, (m.nodeWith o).placeholders[x]? = none

/-- The parameter that some steps have been given for a name, of which the innermost counts. -/
def given? (fs : List Frame) (x : String) : Option String := fs.findSome? (·.params[x]?)

section Hidden

variable {o : Options} {fs : List Frame} {x : String}

theorem ofFramesWith_append (o : Options) (inner : List Frame) (f : Frame) (outer : List Frame) :
    ofFramesWith o (inner ++ f :: outer) =
      ofFramesWith o inner ++ f.nodeWith o :: ofFramesWith o outer := by
  simp only [ofFramesWith, List.map_append, List.map_cons]

theorem exists_contains_of_hidden {c : Chain} (h : ¬∀ m ∈ c, m.placeholders[x]? = none) :
    ∃ m ∈ c, m.placeholders.contains x = true := by
  simp only [not_forall] at h
  obtain ⟨m, hm, hsome⟩ := h
  refine ⟨m, hm, ?_⟩
  rwa [Std.ExtTreeMap.contains_eq_isSome_getElem?, Option.isSome_iff_ne_none]

/-- A placeholder of a step is a parameter of the step. -/
theorem exists_params_of_hidden (h : ¬∀ m ∈ ofFramesWith o fs, m.placeholders[x]? = none) :
    ∃ v, (ofFramesWith o fs).findSome? (·.params[x]?) = some v := by
  obtain ⟨n, hn, hcontains⟩ := exists_contains_of_hidden h
  obtain ⟨f, -, rfl⟩ := List.mem_map.mp hn
  rw [Std.ExtTreeMap.contains_eq_isSome_getElem?] at hcontains
  refine Option.isSome_iff_exists.mp (List.findSome?_isSome_iff.mpr ⟨_, hn, ?_⟩)
  rw [Frame.getElem?_params_nodeWith, if_pos hcontains]
  cases f.params[x]? <;> rfl

/-- Steps without a placeholder of a name have only the parameters that they have been given. -/
theorem findSome?_params_eq_given? (h : ∀ f ∈ fs, (f.nodeWith o).placeholders[x]? = none) :
    (ofFramesWith o fs).findSome? (·.params[x]?) = given? fs x := by
  rw [ofFramesWith, List.findSome?_map, given?]
  induction fs with
  | nil => rfl
  | cons f fs ih =>
    obtain ⟨hf, hfs⟩ := List.forall_mem_cons.mp h
    have hparams : (f.nodeWith o).params[x]? = f.params[x]? := by
      rw [Frame.getElem?_params_nodeWith, hf]
      exact Option.or_none
    rw [List.findSome?_cons, List.findSome?_cons, Function.comp_apply, hparams, ih hfs]

end Hidden

section Replaced

variable {o : Options} {inner outer : List Frame} {f : Frame} {k : Key} {x : String}
  (hk : k ≠ .path) (hreplaced : ∃ m ∈ inner, m.conditions.contains k = true)
include hk hreplaced

theorem exists_isSome_kept : ∃ m ∈ inner, (m.conditions.kept[k]?).isSome = true := by
  obtain ⟨m, hm, hcontains⟩ := hreplaced
  refine ⟨m, hm, ?_⟩
  rwa [Conditions.getElem?_kept hk, ← Std.ExtTreeMap.contains_eq_isSome_getElem?]

theorem exists_isSome_conditions :
    ∃ m ∈ ofFramesWith o inner, (m.conditions[k]?).isSome = true := by
  obtain ⟨m, hm, hsome⟩ := exists_isSome_kept hk hreplaced
  refine ⟨_, List.mem_map_of_mem hm, ?_⟩
  rwa [Frame.getElem?_conditions_nodeWith, Option.isSome_map]

/-- The texts of a replaced condition leave no trace. -/
theorem conditions_replaced :
    (ofFramesWith o (inner ++ f :: outer)).conditions =
        (ofFramesWith o (inner ++ f.without k :: outer)).conditions ∧
      (ofFramesWith o (inner ++ f :: outer)).spellings =
        (ofFramesWith o (inner ++ f.without k :: outer)).spellings := by
  have hspellings : ∃ m ∈ ofFramesWith o inner, (m.spellings[k]?).isSome = true := by
    obtain ⟨m, hm, hsome⟩ := exists_isSome_kept hk hreplaced
    refine ⟨_, List.mem_map_of_mem hm, ?_⟩
    rwa [Frame.getElem?_spellings_nodeWith, Option.isSome_map]
  simp only [ofFramesWith, List.map_append, List.map_cons] at hspellings ⊢
  constructor
  · rw [conditions_eq_merged, conditions_eq_merged]
    refine merged_replaced hk (exists_isSome_conditions hk hreplaced) (fun k' hkey => ?_) _
    rw [Frame.getElem?_conditions_nodeWith, Frame.getElem?_conditions_nodeWith,
      Frame.getElem?_kept_without hk hkey]
  · rw [spellings_eq_merged, spellings_eq_merged]
    refine merged_replaced hk hspellings (fun k' hkey => ?_) _
    rw [Frame.getElem?_spellings_nodeWith, Frame.getElem?_spellings_nodeWith,
      Frame.getElem?_kept_without hk hkey]

/-- A name that is not lost stands for the same placeholder as without the replaced condition, and
has the same parameter. -/
theorem not_lost_replaced (hx : ¬Lost o inner f k x) :
    (ofFramesWith o (inner ++ f :: outer)).placeholders[x]? =
        (ofFramesWith o (inner ++ f.without k :: outer)).placeholders[x]? ∧
      (ofFramesWith o (inner ++ f :: outer)).params[x]? =
        (ofFramesWith o (inner ++ f.without k :: outer)).params[x]? := by
  -- Either a step further in has the name, or the step has the same placeholder in both chains.
  have hsame : (∀ m ∈ ofFramesWith o inner, m.placeholders[x]? = none) →
      (f.nodeWith o).placeholders[x]? = ((f.without k).nodeWith o).placeholders[x]? := by
    intro hinner
    refine (@Node.placeholders_erase o k hk f.conditions f.params x).resolve_right fun hlost => ?_
    exact hx ⟨hlost, fun m hm => hinner _ (List.mem_map_of_mem hm)⟩
  have hconditions : ∀ k' ≠ k,
      (f.nodeWith o).conditions[k']? = ((f.without k).nodeWith o).conditions[k']? := by
    intro k' hkey
    rw [Frame.getElem?_conditions_nodeWith, Frame.getElem?_conditions_nodeWith,
      Frame.getElem?_kept_without hk hkey]
  rw [ofFramesWith_append, ofFramesWith_append]
  have hplaceholders := getElem?_placeholders_replaced hk (exists_isSome_conditions hk hreplaced)
    hconditions hsame (ofFramesWith o outer)
  refine ⟨hplaceholders, getElem?_params_congr ?_ ?_ hplaceholders⟩
  · rw [getElem?_allParams_append, getElem?_allParams_append, getElem?_allParams_cons_node,
      getElem?_allParams_cons_node]
    by_cases hinner : ∀ m ∈ ofFramesWith o inner, m.placeholders[x]? = none
    · rw [Frame.getElem?_params_nodeWith, Frame.getElem?_params_nodeWith, hsame hinner]
      rfl
    · obtain ⟨v, hv⟩ := exists_params_of_hidden hinner
      rw [hv, Option.some_or, Option.some_or]
  · rw [List.any_append, List.any_append, List.any_cons, List.any_cons]
    by_cases hinner : ∀ m ∈ ofFramesWith o inner, m.placeholders[x]? = none
    · rw [Std.ExtTreeMap.contains_eq_isSome_getElem?, hsame hinner,
        ← Std.ExtTreeMap.contains_eq_isSome_getElem?]
    · have hany : (ofFramesWith o inner).any (·.placeholders.contains x) = true := by
        obtain ⟨m, hm, hcontains⟩ := exists_contains_of_hidden hinner
        exact List.any_eq_true.mpr ⟨m, hm, hcontains⟩
      rw [hany, Bool.true_or, Bool.true_or]

/-- A lost name stands for nothing. It has the parameter that the steps up to the replaced condition
have been given for it, unless that parameter reads the placeholder. -/
theorem lost_replaced (hx : Lost o inner f k x) :
    (ofFramesWith o (inner ++ f :: outer)).placeholders[x]? = none ∧
      (ofFramesWith o (inner ++ f :: outer)).params[x]? =
        (given? (inner ++ [f]) x).filter fun v => decide (v ≠ Node.reading x) := by
  obtain ⟨⟨i, hi⟩, hinner⟩ := hx
  have hhidden : ∀ m ∈ ofFramesWith o inner, m.placeholders[x]? = none := by
    intro m hm
    obtain ⟨g, hg, rfl⟩ := List.mem_map.mp hm
    exact hinner g hg
  rw [ofFramesWith_append]
  have hplaceholders := getElem?_placeholders_lost hk (exists_isSome_conditions hk hreplaced) hi
    hhidden (ofFramesWith o outer)
  refine ⟨hplaceholders, ?_⟩
  have hstale : ∀ v, isStale (ofFramesWith o inner ++ f.nodeWith o :: ofFramesWith o outer) x v =
      (v == Node.reading x) := by
    intro v
    have hcontains : (f.nodeWith o).placeholders.contains x = true := by
      rw [Std.ExtTreeMap.contains_eq_isSome_getElem?, hi]
      rfl
    rw [isStale, Std.ExtTreeMap.contains_eq_isSome_getElem?, hplaceholders, List.any_append,
      List.any_cons, hcontains]
    simp
  have hgiven : given? (inner ++ [f]) x = (given? inner x).or f.params[x]? := by
    rw [given?, List.findSome?_append]
    simp [given?]
  rw [getElem?_params, getElem?_allParams_append, findSome?_params_eq_given? hinner,
    getElem?_allParams_cons_node, Frame.getElem?_params_nodeWith, hi, Option.isSome_some,
    if_pos rfl, ← Option.or_assoc, ← Option.or_assoc, ← hgiven]
  simp only [hstale]
  cases given? (inner ++ [f]) x with
  | some v => simp [Option.filter_some]
  | none => simp [Option.filter_some]

/-- What a replaced condition leaves. The conditions of the chain and the texts to generate from are
as if the step had never had the condition. So is every name that is not lost, while a lost name
stands for nothing and has only the parameters given to it. So the condition leaves no trace exactly
if without it no lost name stands for anything else or has another parameter. -/
theorem replaced_traces :
    (ofFramesWith o (inner ++ f :: outer)).conditions =
        (ofFramesWith o (inner ++ f.without k :: outer)).conditions ∧
      (ofFramesWith o (inner ++ f :: outer)).spellings =
        (ofFramesWith o (inner ++ f.without k :: outer)).spellings ∧
      (∀ x, ¬Lost o inner f k x →
        (ofFramesWith o (inner ++ f :: outer)).placeholders[x]? =
            (ofFramesWith o (inner ++ f.without k :: outer)).placeholders[x]? ∧
          (ofFramesWith o (inner ++ f :: outer)).params[x]? =
            (ofFramesWith o (inner ++ f.without k :: outer)).params[x]?) ∧
      (∀ x, Lost o inner f k x →
        (ofFramesWith o (inner ++ f :: outer)).placeholders[x]? = none ∧
          (ofFramesWith o (inner ++ f :: outer)).params[x]? =
            (given? (inner ++ [f]) x).filter fun v => decide (v ≠ Node.reading x)) ∧
      ((ofFramesWith o (inner ++ f :: outer)).placeholders =
            (ofFramesWith o (inner ++ f.without k :: outer)).placeholders ∧
          (ofFramesWith o (inner ++ f :: outer)).params =
            (ofFramesWith o (inner ++ f.without k :: outer)).params ↔
        ∀ x, Lost o inner f k x →
          (ofFramesWith o (inner ++ f.without k :: outer)).placeholders[x]? = none ∧
            (ofFramesWith o (inner ++ f.without k :: outer)).params[x]? =
              (given? (inner ++ [f]) x).filter fun v => decide (v ≠ Node.reading x)) := by
  have hkept := fun x => @not_lost_replaced o inner outer f k x hk hreplaced
  have hlost := fun x => @lost_replaced o inner outer f k x hk hreplaced
  obtain ⟨hconditions, hspellings⟩ := @conditions_replaced o inner outer f k hk hreplaced
  refine ⟨hconditions, hspellings, hkept, hlost, ?_⟩
  constructor
  · rintro ⟨hplaceholders, hparams⟩ x hx
    rw [← hplaceholders, ← hparams]
    exact hlost x hx
  · intro h
    have hall : ∀ x : String, (ofFramesWith o (inner ++ f :: outer)).placeholders[x]? =
          (ofFramesWith o (inner ++ f.without k :: outer)).placeholders[x]? ∧
        (ofFramesWith o (inner ++ f :: outer)).params[x]? =
          (ofFramesWith o (inner ++ f.without k :: outer)).params[x]? := by
      intro x
      by_cases hx : Lost o inner f k x
      · obtain ⟨hplaceholder, hparam⟩ := hlost x hx
        obtain ⟨hplaceholder', hparam'⟩ := h x hx
        exact ⟨hplaceholder.trans hplaceholder'.symm, hparam.trans hparam'.symm⟩
      · exact hkept x hx
    exact ⟨Std.ExtTreeMap.ext_getElem? fun x => (hall x).1,
      Std.ExtTreeMap.ext_getElem? fun x => (hall x).2⟩

end Replaced

/-- A step with a condition on the host. -/
def hostFrame (host : String) : Frame :=
  { conditions := (∅ : Conditions).insert (.attr "host") (.literal host) }

/-- A path whose item is not named like the part of a host. -/
def itemPath : List Frame := [{ conditions := .ofPath (.literal "/:id") }]

/-- The part of a host that is replaced is lost, and nothing else has its name. -/
theorem replaced_traces_itemPath :
    (Key.attr "host" ≠ .path ∧
        ∃ m ∈ [hostFrame "static.example.com"], m.conditions.contains (.attr "host") = true) ∧
      Lost {} [hostFrame "static.example.com"] (hostFrame ":sub.example.com") (.attr "host") "sub" ∧
      (ofFramesWith {} ([hostFrame "static.example.com"] ++ hostFrame ":sub.example.com" ::
        itemPath)).params["sub"]? = none := by
  have hreplaced : ∃ m ∈ [hostFrame "static.example.com"],
      m.conditions.contains (.attr "host") = true := by decide +kernel
  have hlost : Lost {} [hostFrame "static.example.com"] (hostFrame ":sub.example.com")
      (.attr "host") "sub" :=
    ⟨⟨1, by decide +kernel⟩, by decide +kernel⟩
  obtain ⟨-, -, -, hgone, -⟩ := @replaced_traces {} [hostFrame "static.example.com"] itemPath
    (hostFrame ":sub.example.com") (.attr "host") (by decide) hreplaced
  refine ⟨⟨by decide, hreplaced⟩, hlost, (hgone "sub" hlost).2.trans ?_⟩
  decide +kernel

/-- A path whose item is named like the part of a host. -/
def subPath : List Frame := [{ conditions := .ofPath (.literal "/:sub") }]

/-- The replaced condition on the host has taken the placeholder of the path away, and with it the
parameter that reads it. -/
theorem traces_subPath :
    (∃ m ∈ [hostFrame "static.example.com"], m.conditions.contains (.attr "host") = true) ∧
      (ofFramesWith {} ([hostFrame "static.example.com"] ++ hostFrame ":sub.example.com" ::
          subPath)).placeholders ≠
        (ofFramesWith {} ([hostFrame "static.example.com"] ++
          (hostFrame ":sub.example.com").without (.attr "host") :: subPath)).placeholders ∧
      (ofFramesWith {} ([hostFrame "static.example.com"] ++ hostFrame ":sub.example.com" ::
          subPath)).params ≠
        (ofFramesWith {} ([hostFrame "static.example.com"] ++
          (hostFrame ":sub.example.com").without (.attr "host") :: subPath)).params := by
  refine ⟨by decide +kernel, fun heq => ?_, fun heq => ?_⟩
  · have hsub := congrArg (·["sub"]?.isSome) heq
    revert hsub
    decide +kernel
  · have hsub := congrArg (fun ps : Params => ps["sub"]?.isSome) heq
    revert hsub
    decide +kernel

end Chain

end HttpRouting
