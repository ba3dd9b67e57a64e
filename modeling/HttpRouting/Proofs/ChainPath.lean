import HttpRouting.Proofs.NodePath

/-!
# The path of a chain

Each step of a declaration expands the placeholders of its own path condition, counting groups from
one. A chain joins the expanded conditions and counts the groups of a step behind those of the steps
further out. Here the chain is held against one list of pieces, the pieces of all path conditions
one after the other: its path is the expansion of that list, and a placeholder has the group that is
found in that list.

## Main definitions

* `Frame`, `Chain.ofFrames` — the steps that a chain consists of
* `Frame.Regular` — a step whose placeholders are on the path
* `Chain.pathPieces` — the pieces of all path conditions

## Main results

* `Chain.exists_shape`, `Chain.getElem?_conditions_path` — the path of a chain is one shape
* `Chain.pathGroups_ofFrames` — its groups are those of its pieces
* `Chain.getElem?_placeholders` — its placeholders are those of its pieces
-/

namespace HttpRouting

open Placeholder

/-! ### Frames -/

/-- What a step of a declaration puts into a chain. -/
structure Frame where
  /-- Its conditions. -/
  conditions : Conditions := ∅
  /-- Its parameters. -/
  params : Params := ∅
  /-- The namespace that starts here. -/
  scope : Option NamespaceScope := none
  /-- The resources that it is nested in. -/
  parents : Option (List String) := none

namespace Frame

/-- The node that the step makes. -/
def node (f : Frame) : Node :=
  { Node.ofConditions {} f.conditions f.params with scope := f.scope, parents := f.parents }

/-- Conditions and parameters make a node that starts no namespace and is in no resource. -/
theorem node_of_conditions (cs : Conditions) (ps : Params) :
    node { conditions := cs, params := ps } = Node.ofConditions {} cs ps := by
  have hmarks : ∀ (l : List (Key × Condition)) (n : Node),
      (Node.addAll l n).scope = n.scope ∧ (Node.addAll l n).parents = n.parents := by
    intro l
    induction l with
    | nil => exact fun n => ⟨rfl, rfl⟩
    | cons p l ih => exact fun n => ih (n.addCondition {} p.1 p.2)
  have hunmarked : ∀ n : Node, n.scope = none ∧ n.parents = none →
      { n with scope := none, parents := none } = n := by
    rintro ⟨⟩ ⟨rfl, rfl⟩
    rfl
  exact hunmarked _ (hmarks cs.kept.toList { params := ps })

/-- The condition on the path, unless it demands nothing. -/
def path? (f : Frame) : Option Condition := f.conditions[Key.path]?.filter (!·.isEmptyPath)

/-- The pieces of the condition on the path, without its anchors. -/
def pieces (f : Frame) : List Piece :=
  match f.path? with
  | some c => (Placeholder.pieces .plain c.source.toList).tail.dropLast
  | none => []

/-- The condition on the path is one that declarations make, and the others have no placeholders. -/
structure Regular (f : Frame) : Prop where
  /-- The condition on the path is one that declarations make. -/
  path : ∀ c, f.conditions[Key.path]? = some c → c.Declared
  /-- The other conditions have no placeholders. -/
  other : ∀ k c, k ≠ Key.path → f.conditions[k]? = some c → c.IsPlain

/-- Parameters alone are regular. -/
theorem regular_of_params (ps : Params) : Regular { params := ps } where
  path c h := by
    rw [Std.ExtTreeMap.getElem?_empty] at h
    cases h
  other k c _ h := by
    rw [Std.ExtTreeMap.getElem?_empty] at h
    cases h

theorem regular_ofPath {c : Condition} (h : c.Declared) :
    Regular { conditions := .ofPath c } where
  path c' hc := by
    rw [Conditions.ofPath, Std.ExtTreeMap.getElem?_insert_self] at hc
    obtain rfl := Option.some.inj hc
    exact h
  other k c' hk hc := by
    rw [Conditions.ofPath, Std.ExtTreeMap.getElem?_insert, if_neg (by simpa using Ne.symm hk),
      Std.ExtTreeMap.getElem?_empty] at hc
    cases hc

/-- A further condition without placeholders leaves a step regular. -/
theorem Regular.insert {f : Frame} (hf : f.Regular) {k : Key} (hk : k ≠ .path) {c : Condition}
    (hc : c.IsPlain) : Regular { f with conditions := f.conditions.insert k c } where
  path c' h := by
    rw [Std.ExtTreeMap.getElem?_insert, if_neg (by simpa using hk)] at h
    exact hf.path c' h
  other k' c' hk' h := by
    rw [Std.ExtTreeMap.getElem?_insert] at h
    split at h
    · obtain rfl := Option.some.inj h
      exact hc
    · exact hf.other k' c' hk' h

end Frame

/-- A shape is that of a path condition and of the pieces that the condition is made of. -/
structure PathShape (s : Shape) (ps : List Piece) (condition : Option String) : Prop where
  /-- The characters of the shape mean themselves. -/
  tidy : s.Tidy
  /-- The shape has the pieces. -/
  pieces : s.pieces = ps
  /-- The names of placeholders are identifiers. -/
  identifiers : ∀ name, .token (some name) ∈ ps → Identifier.isIdentifier name = true
  /-- The condition is that of the shape, unless there is none. -/
  condition : condition = some s.pattern ∨ condition = none ∧ s = .nil

/-- Paths are joined like their shapes. -/
theorem joinFragments_pattern (s t : Shape) :
    joinFragments s.pattern t.pattern = (s.seq t).pattern := by
  have hleft : dropDollar s.pattern.toList = '^' :: s.expanded := by
    rw [s.toList_pattern, dropDollar, if_pos List.getLast?_concat, List.dropLast_concat]
  have hright : dropCaret t.pattern.toList = t.expanded ++ ['$'] := by
    rw [t.toList_pattern]
    rfl
  rw [joinFragments, hleft, hright, Shape.pattern, Shape.expanded]
  simp

namespace Frame

variable {f : Frame}

/-- The path condition of a step has a shape. The placeholders of the step are those of the shape,
and are read unless the step has parameters of the same names. -/
theorem exists_shape (hf : f.Regular) :
    ∃ s : Shape, PathShape s f.pieces f.node.conditions[Key.path]? ∧
      (∀ name : String, f.node.placeholders[name]? =
        (lastGroup name.toList f.pieces).map (Key.path, ·)) ∧
      ∀ name : String, f.node.params[name]? = f.params[name]?.or
        (if .token (some name.toList) ∈ f.pieces then some (Node.reading name) else none) := by
  have hkept : f.conditions.kept[Key.path]? = f.path? := f.conditions.getElem?_kept_path
  have hcondition : f.node.conditions[Key.path]? =
      f.conditions.kept[Key.path]?.map fun c =>
        (expand (c.tested .path).source defaultPlaceholder).source :=
    Node.getElem?_conditions f.conditions f.params .path
  -- A step whose path demands nothing has an empty shape and adds no condition.
  cases hpath : f.path? with
  | none =>
    have hpieces : f.pieces = [] := by rw [pieces, hpath]
    rw [hpath] at hkept
    obtain ⟨hparams, hnone⟩ := Node.ofConditions_of_none hf.other hkept f.params
    rw [hkept] at hcondition
    refine ⟨.nil, ⟨trivial, hpieces.symm, by simp [hpieces], .inr ⟨hcondition, rfl⟩⟩, ?_, ?_⟩
    · intro name
      rw [hpieces]
      exact (congrArg (·[name]?) hnone).trans Std.ExtTreeMap.getElem?_empty
    · intro name
      rw [hpieces, if_neg List.not_mem_nil, Option.or_none]
      exact congrArg (·[name]?) hparams
  | some c =>
    have hgiven : f.conditions[Key.path]? = some c := (Option.filter_eq_some_iff.mp hpath).1
    obtain ⟨s, hs⟩ := (hf.path c hgiven).exists_shape
    have hpieces : f.pieces = s.pieces := by
      rw [pieces, hpath]
      simp only [hs.pieces_eq]
      exact List.dropLast_concat
    rw [hpath] at hkept
    rw [hkept] at hcondition
    refine ⟨s, ⟨hs.tidy, hpieces.symm, ?_, .inl ?_⟩, fun name => ?_, fun name => ?_⟩
    · rw [hpieces]
      obtain ⟨cs, -, hspells⟩ := hs.spells
      exact fun name => Shape.isIdentifier_of_spells hspells
    · rw [hcondition, Option.map_some]
      exact congrArg (fun e : Expansion => some e.source) hs.expand_eq
    · rw [hpieces]
      exact Node.getElem?_placeholders hf.other hkept hs f.params name
    · rw [hpieces]
      exact Node.getElem?_params hf.other hkept hs f.params name

end Frame

namespace Chain

/-- The chain of some steps, the innermost first. -/
def ofFrames (fs : List Frame) : Chain := fs.map Frame.node

/-- The pieces of all path conditions, from the outermost to the innermost. -/
def pathPieces : List Frame → List Piece
  | [] => []
  | f :: outer => pathPieces outer ++ f.pieces

variable {fs : List Frame}

theorem pathGroups_eq {s : Shape} {ps : List Piece} {n : Node}
    (h : PathShape s ps n.conditions[Key.path]?) : n.pathGroups = s.groups := by
  unfold Node.pathGroups
  rcases h.condition with hsome | ⟨hnone, rfl⟩
  · rw [hsome]
    exact Shape.countCaptures_pattern h.tidy
  · rw [hnone]
    rfl

/-- The path of a chain is one shape. -/
theorem exists_shape (hfs : ∀ f ∈ fs, f.Regular) :
    ∃ s : Shape, PathShape s (pathPieces fs) (ofFrames fs).conditions[Key.path]? := by
  induction fs with
  | nil => exact ⟨.nil, trivial, rfl, nofun, .inr ⟨Std.ExtTreeMap.getElem?_empty, rfl⟩⟩
  | cons f outer ih =>
    obtain ⟨hf, houter⟩ := List.forall_mem_cons.mp hfs
    obtain ⟨s, hs⟩ := ih houter
    obtain ⟨t, ht, -⟩ := f.exists_shape hf
    have hpieces : (s.seq t).pieces = pathPieces (f :: outer) := by
      rw [Shape.pieces, hs.pieces, ht.pieces]
      rfl
    have hidentifiers : ∀ name, .token (some name) ∈ pathPieces (f :: outer) →
        Identifier.isIdentifier name = true := by
      intro name hname
      rcases List.mem_append.mp hname with hname | hname
      · exact hs.identifiers name hname
      · exact ht.identifiers name hname
    have hmerge : (ofFrames (f :: outer)).conditions =
      merge (ofFrames outer).conditions f.node.conditions := rfl
    -- Conditions are joined only where both sides have one; an empty side leaves the other alone.
    rcases hs.condition with hsome | ⟨hnone, rfl⟩
    · rcases ht.condition with hsome' | ⟨hnone', rfl⟩
      · refine ⟨s.seq t, ⟨hs.tidy, ht.tidy⟩, hpieces, hidentifiers, .inl ?_⟩
        rw [hmerge, getElem?_merge_path_of_some hsome hsome', joinFragments_pattern]
      · refine ⟨s, hs.tidy, ?_, hidentifiers, .inl ?_⟩
        · rw [← hpieces, Shape.pieces, Shape.pieces, List.append_nil]
        · rw [hmerge, getElem?_merge_path_of_none (.inr hnone'), hnone', hsome]
          rfl
    · refine ⟨t, ht.tidy, ?_, hidentifiers, ?_⟩
      · rw [← hpieces, Shape.pieces, Shape.pieces, List.nil_append]
      · rw [hmerge, getElem?_merge_path_of_none (.inl hnone), hnone, Option.or_none]
        exact ht.condition

/-- The path of a chain has any tidy shape that has the pieces of its path conditions. -/
theorem getElem?_conditions_path (hfs : ∀ f ∈ fs, f.Regular) {s : Shape}
    (hpieces : pathPieces fs = s.pieces) (hne : s.pieces ≠ []) :
    (ofFrames fs).conditions[Key.path]? = some s.pattern := by
  obtain ⟨t, ht⟩ := exists_shape hfs
  -- The shape of the chain need not be the given one, but their pieces are expanded to one pattern.
  have hexpanded : t.expanded = s.expanded := by
    rw [← Shape.flatMap_pieces, ← Shape.flatMap_pieces, ht.pieces, hpieces]
  rcases ht.condition with hsome | ⟨-, rfl⟩
  · rw [hsome, Shape.pattern, hexpanded, Shape.pattern]
  · rw [← hpieces, ← ht.pieces] at hne
    exact absurd rfl hne

/-- The groups of a chain are those of its pieces. -/
theorem pathGroups_ofFrames (hfs : ∀ f ∈ fs, f.Regular) :
    (ofFrames fs).pathGroups = (pathPieces fs).countP (·.opensGroup) := by
  induction fs with
  | nil => rfl
  | cons f outer ih =>
    obtain ⟨hf, houter⟩ := List.forall_mem_cons.mp hfs
    obtain ⟨t, ht, -⟩ := f.exists_shape hf
    have hnode : f.node.pathGroups = f.pieces.countP (·.opensGroup) := by
      rw [pathGroups_eq ht, ← ht.pieces, Shape.countP_opensGroup_pieces]
    have hgroups : (ofFrames (f :: outer)).pathGroups =
        (ofFrames outer).pathGroups + f.node.pathGroups := rfl
    rw [hgroups, ih houter, hnode, pathPieces, List.countP_append]

/-- The placeholders of a chain are those of its pieces. -/
theorem getElem?_placeholders (hfs : ∀ f ∈ fs, f.Regular) (name : String) :
    (ofFrames fs).placeholders[name]? =
      (lastGroup name.toList (pathPieces fs)).map (Key.path, ·) := by
  induction fs with
  | nil => exact Std.ExtTreeMap.getElem?_empty
  | cons f outer ih =>
    obtain ⟨hf, houter⟩ := List.forall_mem_cons.mp hfs
    obtain ⟨t, ht, hnode, -⟩ := f.exists_shape hf
    have hplaceholders : (ofFrames (f :: outer)).placeholders =
        ((ofFrames outer).placeholders.filter fun _ p =>
          p.1 = .path || !f.node.conditions.contains p.1) ∪
            f.node.placeholders.map fun _ p => shift (ofFrames outer).pathGroups p := rfl
    rw [hplaceholders, Std.ExtTreeMap.getElem?_union, Std.ExtTreeMap.getElem?_map,
      Std.ExtTreeMap.getElem?_filter', hnode, ih houter, pathPieces, lastGroup_append,
      pathGroups_ofFrames houter, Option.map_or]
    -- Every placeholder is on the path, so none is taken away.
    have hkeep : ∀ i : Option Nat, (i.map (Key.path, ·)).filter (fun p =>
        p.1 = .path || !f.node.conditions.contains p.1) = i.map (Key.path, ·) := by
      intro i
      cases i <;> rfl
    rw [hkeep, Option.map_map, Option.map_map]
    rfl

end Chain

end HttpRouting
