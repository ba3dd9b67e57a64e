import HttpRouting.Proofs.LiteralPath
import HttpRouting.Proofs.Overriding
import HttpRouting.Proofs.PathCaptures
import HttpRouting.Proofs.RouteAnswer
import HttpRouting.Proofs.SplicedPath

/-!
# What checked options lack

Options are checked before a router is made, so that its literal paths can be declared. The check
looks at the placeholder pattern by itself and at its text alone: whether it compiles, and how many
groups a scan finds that does not parse it. That is not enough. The pattern is then put in
parentheses, which a comment at its end hides, and it may have groups that the scan takes for
something else; and the default action is read as a template. What is missing is said here.

## Main definitions

* `literalChain` — the nodes of a literal path on the root
* `Options.Serves` — a literal path is served with its own groups

## Main results

* `runPass_literal_iff` — the route that the declaration of a literal path makes
* `Options.serves_iff` — when checked options serve every literal path
-/

namespace HttpRouting

open Placeholder Regex Shape

/-! ### The nodes of a literal path -/

/-- The nodes of a literal path on the root. -/
def literalChain (o : Options) (v : String) : Chain :=
  Node.ofConditions o (.ofPath (.literal v)) ∅ :: (Behavior.root o).chain

section LiteralChain

variable {o : Options} {v : String}

/-- The declaration of a literal path makes the route of its nodes. -/
theorem runPass_literal_iff {r : Route} :
    (∃ g : Registry, (Declaration.matchPath (.literal v) (.route {})).runPass o =
        (.ok (), ⟨g, [.registered 0]⟩) ∧ g.routes = [r]) ↔
      ∃ x, Route.build (literalChain o v) none false = .ok x ∧ r = { x with index := some 0 } := by
  -- The behavior of the path is the second one that is made.
  let g : Registry := { options := o, metrics := { behaviors := 2 } }
  have hchild : (Declaration.matchPath (.literal v) (.route {})).runPass o =
      (Declaration.route {}).run ⟨1, literalChain o v⟩ ⟨g, []⟩ := rfl
  have hregister : Behavior.registerKind ⟨1, literalChain o v⟩ ∅ .plain g =
      (Behavior.route ⟨1, literalChain o v⟩ ∅ none false >>= fun x => do
        let g ← get
        set (g.register x)
        return g.routes.length) g := rfl
  rw [hchild, Declaration.run, bind_apply, Declaration.runRoute, bind_apply]
  dsimp only
  unfold Step.ofPass
  rw [hregister, bind_apply, Pass.route_eq]
  cases Route.build (literalChain o v) none false with
  | error e =>
    constructor
    · rintro ⟨g', hrun, -⟩
      cases (Prod.mk.inj hrun).1
    · rintro ⟨x, hx, -⟩
      cases hx
  | ok x =>
    constructor
    · rintro ⟨g', hrun, hroutes⟩
      obtain rfl := congrArg Progress.registry (Prod.mk.inj hrun).2
      exact ⟨x, rfl, (List.cons.inj hroutes).1.symm⟩
    · rintro ⟨_, hx, rfl⟩
      obtain rfl := Except.ok.inj hx
      exact ⟨g.register x, rfl, rfl⟩

/-- A text that demands nothing of a path has no placeholders. -/
theorem tokens_of_isEmptyPath (h : (Condition.literal v).isEmptyPath = true) :
    ∀ name, .inr name ∉ Segment.tokens v.toList := by
  have hcases : v = "" ∨ v = "^$" := by simpa [Condition.isEmptyPath, Condition.text] using h
  rcases hcases with rfl | rfl
  · intro name hname
    rw [String.toList_empty, Segment.tokens_eq_nil.mpr rfl] at hname
    cases hname
  · intro name hname
    have htokens : Segment.tokens "^$".toList = [.inl '^', .inl '$'] := by
      simp [Segment.tokens]
    rw [htokens] at hname
    simp at hname

theorem kept_ofPath (c : Condition) :
    (Conditions.ofPath c).kept = if c.isEmptyPath then ∅ else .ofPath c := by
  refine Std.ExtTreeMap.ext_getElem? fun k => ?_
  have hpath : (Conditions.ofPath c)[Key.path]? = some c := Std.ExtTreeMap.getElem?_insert_self
  by_cases hk : k = .path
  · subst hk
    rw [Conditions.getElem?_kept_path, hpath]
    cases hempty : c.isEmptyPath <;> simp [hempty, hpath, Option.filter]
  · have hnone : (Conditions.ofPath c)[k]? = none := by
      rw [Conditions.ofPath, Std.ExtTreeMap.getElem?_insert, if_neg (by simpa using Ne.symm hk)]
      exact Std.ExtTreeMap.getElem?_empty
    rw [Conditions.getElem?_kept hk, hnone]
    split
    · exact Std.ExtTreeMap.getElem?_empty.symm
    · exact hnone.symm

/-- The node of a literal path has that condition, unless it demands nothing. -/
theorem ofConditions_ofPath (c : Condition) : Node.ofConditions o (.ofPath c) ∅ =
    if c.isEmptyPath then {} else ({} : Node).addCondition o .path c := by
  have hnode : Node.ofConditions o (.ofPath c) ∅ =
      (Conditions.ofPath c).kept.toList.foldl (fun n p => n.addCondition o p.1 p.2) {} := rfl
  rw [hnode, kept_ofPath]
  split
  · rfl
  · rfl

theorem conditions_literalChain : (literalChain o v).conditions.toList =
    if (Condition.literal v).isEmptyPath then []
    else [(.path, (expand (Condition.literal v).source o.placeholderPattern).source)] := by
  have hchain : (literalChain o v).conditions =
      Chain.merge ∅ (Node.ofConditions o (.ofPath (.literal v)) ∅).conditions := rfl
  rw [hchain, ofConditions_ofPath]
  split
  · rfl
  · rfl

/-- A placeholder of the path is that of its last group. -/
theorem getElem?_placeholders_ofPath (name : String) :
    (Node.ofConditions o (.ofPath (.literal v)) ∅).placeholders[name]? =
      (lastGroup name.toList (ofText true v.toList).pieces).map (Key.path, ·) := by
  rw [ofConditions_ofPath]
  split
  · next hempty =>
    have hnone : lastGroup name.toList (ofText true v.toList).pieces = none :=
      lastGroup_eq_none (mt token_mem_pieces_ofTokens.mp (tokens_of_isEmptyPath hempty _))
    rw [hnone]
    exact Std.ExtTreeMap.getElem?_empty
  · have hcaptures : (expand (Condition.literal v).source o.placeholderPattern).placeholders =
        captures 0 (ofText true v.toList).pieces := by
      rw [expand_literal, ofText, captures_ofTokens]
    have hlast := getElem?_foldl_captures (ofText true v.toList).pieces 0 ∅ name
    rw [← hcaptures] at hlast
    exact hlast.trans (by simp)

theorem contains_placeholders_ofPath {name : String} :
    (Node.ofConditions o (.ofPath (.literal v)) ∅).placeholders.contains name = true ↔
      .token (some name.toList) ∈ (ofText true v.toList).pieces := by
  rw [Std.ExtTreeMap.contains_eq_isSome_getElem?, getElem?_placeholders_ofPath, Option.isSome_map,
    isSome_lastGroup]

theorem getElem?_placeholders_literalChain (name : String) :
    (literalChain o v).placeholders[name]? =
      (lastGroup name.toList (ofText true v.toList).pieces).map (Key.path, ·) := by
  have hshift : Chain.shift (Behavior.root o).chain.pathGroups = id := by
    funext ⟨k, i⟩
    cases k <;> rfl
  have hroot : (Behavior.root o).chain.placeholders[name]? = none := by
    rw [Behavior.root, Chain.getElem?_placeholders_cons]
    rfl
  rw [literalChain, Chain.getElem?_placeholders_cons, hshift, hroot, Option.map_id,
    Option.filter_none, Option.or_none]
  exact getElem?_placeholders_ofPath name

/-- The parameters read the placeholders of the path, and the action is the default one. -/
theorem getElem?_params_literalChain (name : String) : (literalChain o v).params[name]? =
    (if Piece.token (some name.toList) ∈ (ofText true v.toList).pieces then some (Node.reading name)
      else none).or (if name = "action" then some o.defaultAction else none) := by
  have hroot : (Behavior.root o).chain.allParams[name]? =
      if name = "action" then some o.defaultAction else none := by
    have hallParams : (Behavior.root o).chain.allParams =
        ∅ ∪ (∅ : Params).insert "action" o.defaultAction := rfl
    rw [hallParams, Std.ExtTreeMap.getElem?_union, Std.ExtTreeMap.getElem?_insert]
    by_cases hname : name = "action"
    · simp [hname]
    · simp [hname, Ne.symm hname]
  have hall : (literalChain o v).allParams[name]? =
      (if Piece.token (some name.toList) ∈ (ofText true v.toList).pieces
        then some (Node.reading name) else none).or
      (if name = "action" then some o.defaultAction else none) := by
    rw [literalChain, Chain.getElem?_allParams_cons_node, hroot, Node.getElem?_params_ofConditions]
    simp only [contains_placeholders_ofPath, Std.ExtTreeMap.getElem?_empty, Option.none_or]
  -- No condition is replaced, so no parameter has lost its placeholder.
  have hfresh : ∀ value, (literalChain o v).isStale name value = false := by
    intro value
    have hany : (literalChain o v).any (·.placeholders.contains name) =
        (literalChain o v).placeholders.contains name := by
      rw [Std.ExtTreeMap.contains_eq_isSome_getElem?, getElem?_placeholders_literalChain,
        ← getElem?_placeholders_ofPath (o := o), ← Std.ExtTreeMap.contains_eq_isSome_getElem?]
      exact Bool.or_false _
    rw [Chain.isStale, hany, Bool.and_assoc, Bool.and_not_self, Bool.and_false]
  rw [Chain.getElem?_params, ← hall]
  cases (literalChain o v).allParams[name]? <;> simp [hfresh, Option.filter]

/-- The only test of the route is that of the path. -/
theorem tests_literalChain {r : Route} (hr : Route.build (literalChain o v) none false = .ok r) :
    (r.tests.map fun t => (t.key, some t.regex)) = if (Condition.literal v).isEmptyPath then []
      else [(.path, parse? (expand (Condition.literal v).source o.placeholderPattern).source)] := by
  obtain ⟨tests, params, htests, -, rfl⟩ := Route.build_eq_ok_iff.mp hr
  rw [conditions_literalChain] at htests
  split at htests
  · next hempty =>
    obtain rfl : [] = tests := Except.ok.inj htests
    rw [if_pos hempty]
    rfl
  · next hempty =>
    obtain ⟨t, ts, ht, hts, rfl⟩ := mapM_cons_eq_ok.mp htests
    obtain rfl : [] = ts := Except.ok.inj hts
    obtain ⟨hkey, -, hregex⟩ := Route.compileTest_eq_ok.mp ht
    rw [if_neg hempty, hregex, List.map_singleton, hkey]

end LiteralChain

/-! ### What is served -/

namespace Options

/-- A literal path is served: it makes one route, whose expression has a group for each placeholder
and no others; the groups are recorded in order, and the last placeholder of each name is read from
its own group. -/
def Serves (o : Options) (v : String) : Prop :=
  ∃ r, (∃ g, (Declaration.matchPath (.literal v) (.route {})).runPass o =
      (.ok (), ⟨g, [.registered 0]⟩) ∧ g.routes = [r]) ∧
    (∃ x, (r.tests.map fun t => (t.key, t.regex)) =
      if (Condition.literal v).isEmptyPath then []
      else [(.path, splicedRegex x (Segment.tokens v.toList))]) ∧
    (∀ t ∈ r.tests, t.groups = (Segment.tokens v.toList).countP (·.isRight)) ∧
    (expand (Condition.literal v).source o.placeholderPattern).placeholders =
      numbered (Segment.tokens v.toList) 0 ∧
    ∀ before name after, Segment.tokens v.toList = before ++ .inr (some name) :: after →
      .inr (some name) ∉ after → r.param? (String.ofList name) =
        some ⟨[.capture .path (before.countP (·.isRight) + 1)]⟩

variable {o : Options} {v : String} {ls : List Lexeme} {x : Regex}

/-- What the check has looked at. -/
theorem exists_compiles_of_validate (h : o.validate = .ok ()) :
    ∃ ls x, Compiles o.placeholderPattern ls x := by
  unfold validate at h
  split at h
  · cases h
  · split at h
    · cases h
    · next hsome =>
      obtain ⟨x, hx⟩ := Option.ne_none_iff_exists'.mp (mt Option.isNone_iff_eq_none.mpr hsome)
      obtain ⟨ls, hls⟩ := exists_compiles hx
      exact ⟨ls, x, hls⟩

/-- A path that is served compiles to an expression with its own groups. -/
theorem Serves.exists_parse? (h : o.Serves v)
    (hempty : (Condition.literal v).isEmptyPath = false) :
    ∃ x, parse? (String.ofList ('^' :: splicedText o.placeholderPattern.toList
      (Segment.tokens v.toList) ++ ['$'])) = some (splicedRegex x (Segment.tokens v.toList)) := by
  obtain ⟨r, hrun, ⟨x, hx⟩, -⟩ := h
  obtain ⟨r', hr', rfl⟩ := runPass_literal_iff.mp hrun
  have htests := tests_literalChain hr'
  rw [hempty, if_neg Bool.false_ne_true, expand_literal] at htests
  rw [hempty, if_neg Bool.false_ne_true] at hx
  have hsome := congrArg (List.map fun p : Key × Regex => (p.1, some p.2)) hx
  rw [List.map_map] at hsome
  have hparse := htests.symm.trans hsome
  exact ⟨x, (Prod.mk.inj (List.cons.inj hparse).1).2⟩

/-- Without placeholders and conditions, the default action can refer to nothing. -/
theorem Serves.plain_action (h : o.Serves "") (reference : Template.Reference) :
    .inr reference ∉ Template.references o.defaultAction.toList := by
  obtain ⟨r, hrun, -⟩ := h
  obtain ⟨r', hr', -⟩ := runPass_literal_iff.mp hrun
  have haction : (literalChain o "").params["action"]? = some o.defaultAction := by
    rw [getElem?_params_literalChain, String.toList_empty, ofText, Segment.tokens_eq_nil.mpr rfl]
    rfl
  intro href
  have hresolves := (Route.exists_build_iff.mp ⟨r', hr'⟩).2 _ _ haction reference href
  cases reference with
  | placeholder name =>
    rw [Route.Resolves, getElem?_placeholders_literalChain, String.toList_empty, ofText,
      Segment.tokens_eq_nil.mpr rfl] at hresolves
    cases hresolves
  | capture k n =>
    obtain ⟨source, -, hsource, -⟩ := hresolves
    have hmem := Std.ExtTreeMap.mem_toList_iff_getElem?_eq_some.mpr hsource
    rw [conditions_literalChain] at hmem
    cases hmem

/-- The names of the placeholders of a text are identifiers. -/
theorem isIdentifier_of_mem_ofText {name : List Char}
    (h : .token (some name) ∈ (ofText true v.toList).pieces) :
    Identifier.isIdentifier name = true := by
  obtain ⟨cs, -, hspells⟩ := (describes_literal v).spells
  exact isIdentifier_of_spells hspells h

/-- If the pattern may stand in parentheses, the route of a literal path is built. -/
theorem exists_build_literalChain (h : Compiles o.placeholderPattern ls x)
    (hencloses : Encloses o.placeholderPattern.toList ls)
    (hplain : ∀ l ∈ ls, l.token.opensGroup = false)
    (haction : ∀ reference, .inr reference ∉ Template.references o.defaultAction.toList)
    (v : String) : ∃ r, Route.build (literalChain o v) none false = .ok r := by
  refine Route.exists_build_iff.mpr ⟨fun k source hsource => ?_, fun name value hvalue => ?_⟩
  · have hmem := Std.ExtTreeMap.mem_toList_iff_getElem?_eq_some.mpr hsource
    rw [conditions_literalChain] at hmem
    split at hmem
    · cases hmem
    · obtain ⟨-, rfl⟩ := Prod.mk.inj (List.mem_singleton.mp hmem)
      rw [expand_literal, parse?_spliced h hencloses hplain]
      rfl
  · -- A parameter reads its own placeholder, and the default action refers to nothing.
    rw [getElem?_params_literalChain] at hvalue
    intro reference href
    split at hvalue
    · next htoken =>
      obtain rfl := Option.some.inj hvalue
      rw [Template.references_reading (isIdentifier_of_mem_ofText htoken),
        List.mem_singleton] at href
      obtain rfl := Sum.inr.inj href
      rw [Route.Resolves, getElem?_placeholders_literalChain, Option.isSome_map]
      exact isSome_lastGroup.mpr htoken
    · rw [Option.none_or, Option.ite_none_right_eq_some] at hvalue
      obtain rfl := Option.some.inj hvalue.2
      exact absurd href (haction reference)

/-- The parameter of a placeholder reads the last group of that name. -/
theorem param?_literalChain {r : Route} (hr : Route.build (literalChain o v) none false = .ok r)
    {before after : Tokens} {name : List Char}
    (hsplit : Segment.tokens v.toList = before ++ .inr (some name) :: after)
    (hafter : .inr (some name) ∉ after) : r.param? (String.ofList name) =
      some ⟨[.capture .path (before.countP (·.isRight) + 1)]⟩ := by
  obtain ⟨tests, params, -, hparams, rfl⟩ := Route.build_eq_ok_iff.mp hr
  have hpieces : (ofText true v.toList).pieces = (ofTokens true before).pieces ++
      .token (some name) :: (ofTokens true after).pieces := by
    rw [ofText, hsplit, pieces_ofTokens_append]
    rfl
  have hlast : lastGroup name (ofText true v.toList).pieces =
      some (before.countP (·.isRight) + 1) := by
    rw [lastGroup_split hpieces (mt token_mem_pieces_ofTokens.mp hafter), countP_opensGroup_pieces,
      groups_ofTokens]
  have htoken : .token (some (String.ofList name).toList) ∈ (ofText true v.toList).pieces := by
    rw [String.toList_ofList, hpieces]
    simp
  have hvalue : (literalChain o v).params[String.ofList name]? =
      some (Node.reading (String.ofList name)) := by
    rw [getElem?_params_literalChain, if_pos htoken]
    rfl
  have hplaceholder : (literalChain o v).placeholders[String.ofList name]? =
      some (.path, before.countP (·.isRight) + 1) := by
    rw [getElem?_placeholders_literalChain, String.toList_ofList, hlast]
    rfl
  have hmem := (Route.mem_params hparams).mpr ⟨_, hvalue,
    Template.parse_reading (isIdentifier_of_mem_ofText htoken) hplaceholder⟩
  exact lookup_of_mem (Route.pairwise_params hparams) hmem

theorem serves_of_encloses (h : Compiles o.placeholderPattern ls x)
    (hencloses : Encloses o.placeholderPattern.toList ls)
    (hplain : ∀ l ∈ ls, l.token.opensGroup = false)
    (haction : ∀ reference, .inr reference ∉ Template.references o.defaultAction.toList)
    (v : String) : o.Serves v := by
  obtain ⟨r, hr⟩ := exists_build_literalChain h hencloses hplain haction v
  have htests := tests_literalChain hr
  rw [expand_literal, parse?_spliced h hencloses hplain] at htests
  have hregexes : (r.tests.map fun t => (t.key, t.regex)) =
      if (Condition.literal v).isEmptyPath then []
      else [(.path, splicedRegex x (Segment.tokens v.toList))] := by
    split at htests
    · next hempty => rw [if_pos hempty, List.map_eq_nil_iff.mp htests, List.map_nil]
    · next hempty =>
      obtain ⟨t, ht, hpair⟩ := List.map_eq_singleton_iff.mp htests
      obtain ⟨hkey, hregex⟩ := Prod.mk.inj hpair
      rw [if_neg hempty, ht, List.map_singleton, hkey, Option.some.inj hregex]
  refine ⟨_, runPass_literal_iff.mpr ⟨r, hr, rfl⟩, ⟨x, hregexes⟩, fun t ht => ?_, ?_,
    fun before name after hsplit hafter => param?_literalChain hr hsplit hafter⟩
  · have hmem := List.mem_map_of_mem (f := fun t : ConditionTest => (t.key, t.regex)) ht
    rw [hregexes, List.mem_ite_nil_left] at hmem
    obtain ⟨-, hregex⟩ := Prod.mk.inj (List.mem_singleton.mp hmem.2)
    rw [ConditionTest.groups, hregex, groupCount_splicedRegex (h.groupCount_eq_zero hplain)]
  · rw [expand_literal]

/-- Checked options serve every literal path exactly if the placeholder pattern is still well formed
in parentheses, has no group that captures, and the default action refers to nothing. -/
theorem serves_iff (h : o.validate = .ok ()) : (∀ v, o.Serves v) ↔
    (parse? ("(" ++ o.placeholderPattern ++ ")")).isSome = true ∧
      (∀ ls, lexemes? o.placeholderPattern.toList = some ls →
        ∀ l ∈ ls, l.token.opensGroup = false) ∧
      ∀ reference, .inr reference ∉ Template.references o.defaultAction.toList := by
  obtain ⟨ls, x, hcompiles⟩ := exists_compiles_of_validate h
  constructor
  · intro hserves
    -- One placeholder shows whether its parenthesis is closed, two whether the pattern captures.
    have hone : Segment.tokens ":a".toList = [.inr (some ['a'])] :=
      (Segment.tokens_token rfl).trans (congrArg _ (Segment.tokens_eq_nil.mpr rfl))
    have htwo : Segment.tokens ":a:b".toList = [.inr (some ['a']), .inr (some ['b'])] :=
      (Segment.tokens_token rfl).trans (congrArg _ ((Segment.tokens_token rfl).trans
        (congrArg _ (Segment.tokens_eq_nil.mpr rfl))))
    have hencloses : Encloses o.placeholderPattern.toList ls := by
      refine hcompiles.encloses_or_trails.resolve_right fun htrails => ?_
      obtain ⟨y, hy⟩ := (hserves ":a").exists_parse? (by decide)
      rw [hone, parse?_of_trails hcompiles htrails] at hy
      cases hy
    have hplain : ∀ l ∈ ls, l.token.opensGroup = false := by
      obtain ⟨y, hy⟩ := (hserves ":a:b").exists_parse? (by decide)
      rw [htwo] at hy
      exact opensGroup_eq_false_of_parse? hcompiles hencloses hy
    refine ⟨?_, fun ls' hls' => ?_, (hserves "").plain_action⟩
    · rw [hcompiles.parse?_parens hencloses hplain]
      rfl
    · obtain rfl := Option.some.inj (hcompiles.lexes.symm.trans hls')
      exact hplain
  · rintro ⟨hparens, hplain, haction⟩ v
    have hencloses : Encloses o.placeholderPattern.toList ls := by
      refine hcompiles.encloses_or_trails.resolve_right fun htrails => ?_
      rw [hcompiles.parse?_parens_of_trails htrails] at hparens
      cases hparens
    exact serves_of_encloses hcompiles hencloses (hplain ls hcompiles.lexes) haction v

/-- The default options serve every literal path. -/
theorem serves_default :
    ({} : Options).validate = .ok () ∧ ∀ v, ({} : Options).Serves v := by
  have hvalid : ({} : Options).validate = .ok () := by decide +kernel
  have hplain : (lexemes? ({} : Options).placeholderPattern.toList).all
      (·.all fun l => !l.token.opensGroup) = true := by decide +kernel
  refine ⟨hvalid, (serves_iff hvalid).mpr ⟨by decide +kernel, fun ls hls l hl => ?_,
    Template.inr_not_mem_references (by decide)⟩⟩
  rw [hls, Option.all_some, List.all_eq_true] at hplain
  simpa using hplain l hl

/-- A pattern that ends in a comment is accepted, but a path with a placeholder is not served. -/
theorem not_serves_comment :
    ({ placeholderPattern := "(?x)a#" } : Options).validate = .ok () ∧
      ¬({ placeholderPattern := "(?x)a#" } : Options).Serves "/:x" := by
  refine ⟨by decide +kernel, fun h => ?_⟩
  obtain ⟨x, hx⟩ := h.exists_parse? (by decide)
  have hnone : (parse? (String.ofList ('^' :: splicedText "(?x)a#".toList
      (Segment.tokens "/:x".toList) ++ ['$']))).isNone = true := by decide +kernel
  rw [hx] at hnone
  cases hnone

end Options

end HttpRouting
