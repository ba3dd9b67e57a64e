import HttpRouting.Proofs.ChainPath
import HttpRouting.Proofs.FilledPath
import HttpRouting.Proofs.RouteBuild
import HttpRouting.Proofs.Seams

/-!
# Literal paths

A route may stand below several literal conditions on its path. They are escaped, expanded and
joined one by one, once to be matched and once, without the escapes, to be generated from. Here both
are traced back to one text, the literal conditions written one after the other: its placeholders
are those of the whole path.

## Main definitions

* `literalPath` — the text of some literal conditions
* `Frame.IsLiteral` — a step with no condition but a literal one on the path
* `Chain.literalFrames` — the steps of a route below some literal conditions

## Main results

* `tokens_literalPath` — the placeholders of the whole are those of its parts
* `Chain.getElem?_spellings` — the text to generate from
* `Chain.pathPieces_literalFrames`, `Route.tests_of_build` — the expression to match
* `Chain.getElem?_params_literalFrames` — what the parameters of such a route read
-/

namespace HttpRouting

open Placeholder Shape

/-! ### Texts -/

/-- The text that a literal condition on a path adds to it; the condition may demand nothing. -/
def literalText (p : String) : List Char :=
  if (Condition.literal p).isEmptyPath then [] else p.toList

/-- The text of some literal conditions on a path, from the outermost to the innermost. -/
def literalPath (paths : List String) : List Char := paths.flatMap literalText

theorem closed_literalPath {paths : List String} (h : ∀ p ∈ paths, p.toList.head? = some '/') :
    Closed (literalPath paths) := by
  intro c hc
  induction paths with
  | nil => cases hc
  | cons p paths ih =>
    obtain ⟨hp, hpaths⟩ := List.forall_mem_cons.mp h
    rw [literalPath, List.flatMap_cons, literalText] at hc
    split at hc
    · exact ih hpaths hc
    · rw [List.head?_append, hp, Option.some_or] at hc
      obtain rfl := Option.some.inj hc
      decide

/-- The placeholders of a path are those of its parts, if each of these starts with a slash. -/
theorem tokens_literalPath {paths : List String}
    (h : ∀ p ∈ paths.tail, p.toList.head? = some '/') :
    Segment.tokens (literalPath paths) = paths.flatMap fun p => Segment.tokens (literalText p) := by
  induction paths with
  | nil => exact Segment.tokens_eq_nil.mpr rfl
  | cons p paths ih =>
    have happend : literalPath (p :: paths) = literalText p ++ literalPath paths := rfl
    rw [List.tail_cons] at h
    rw [happend, Segment.tokens_append (Segment.not_continues_of_closed (closed_literalPath h) _),
      ih fun q hq => h q (List.mem_of_mem_tail hq)]
    rfl

theorem pieces_ofTokens_append (xs ys : Tokens) :
    (ofTokens true (xs ++ ys)).pieces = (ofTokens true xs).pieces ++ (ofTokens true ys).pieces := by
  induction xs with
  | nil => rfl
  | cons x xs ih =>
    cases x with
    | inr name => simp [ofTokens, Shape.pieces, ih]
    | inl c =>
      rw [List.cons_append, ofTokens, ofTokens]
      split <;> simp [Shape.pieces, ih]

theorem pieces_ofTokens_eq_nil {xs : Tokens} : (ofTokens true xs).pieces = [] ↔ xs = [] := by
  cases xs with
  | nil => exact ⟨fun _ => rfl, fun _ => rfl⟩
  | cons x xs =>
    cases x with
    | inr name => simp [ofTokens, Shape.pieces]
    | inl c =>
      rw [ofTokens]
      split <;> simp [Shape.pieces]

/-- The spelling of a path, unless it is empty. -/
def spelling? (cs : List Char) : Option String :=
  if cs = [] then none else some (String.ofList ('^' :: cs ++ ['$']))

theorem joinFragments_spelling (cs ds : List Char) :
    joinFragments (String.ofList ('^' :: cs ++ ['$'])) (String.ofList ('^' :: ds ++ ['$'])) =
      String.ofList ('^' :: (cs ++ ds) ++ ['$']) := by
  have hleft : dropDollar ('^' :: cs ++ ['$']) = '^' :: cs := by
    rw [dropDollar, if_pos List.getLast?_concat, List.dropLast_concat]
  have hright : dropCaret ('^' :: ds ++ ['$']) = ds ++ ['$'] := rfl
  rw [joinFragments, String.toList_ofList, String.toList_ofList, hleft, hright]
  simp

/-! ### Steps -/

namespace Frame

/-- The only condition of the step is a literal one on the path, if it has any. -/
def IsLiteral (f : Frame) : Prop :=
  ∀ (k : Key) (c : Condition), f.conditions[k]? = some c → k = .path ∧ ∃ t, c = .literal t

/-- The text that the step adds to the path. -/
def text (f : Frame) : List Char :=
  match f.path? with
  | some (.literal t) => t.toList
  | _ => []

variable {f : Frame}

theorem IsLiteral.regular (hf : f.IsLiteral) : f.Regular where
  path c hc := by
    obtain ⟨-, t, rfl⟩ := hf _ c hc
    exact .literal t
  other k c hk hc := absurd (hf k c hc).1 hk

/-- The path of a step is empty, or the text of its literal condition. -/
theorem IsLiteral.path?_cases (hf : f.IsLiteral) :
    f.path? = none ∧ f.text = [] ∨
      ∃ t : String, f.path? = some (.literal t) ∧ f.text = t.toList ∧ f.text ≠ [] := by
  unfold text
  cases hpath : f.path? with
  | none => exact .inl ⟨rfl, rfl⟩
  | some c =>
    obtain ⟨hgiven, hempty⟩ := Option.filter_eq_some_iff.mp hpath
    obtain ⟨-, t, rfl⟩ := hf _ c hgiven
    refine .inr ⟨t, rfl, rfl, fun hnil => ?_⟩
    obtain rfl := String.toList_eq_nil_iff.mp hnil
    cases hempty

/-- The pieces of a step are those of its text. -/
theorem IsLiteral.pieces_eq (hf : f.IsLiteral) : f.pieces = (ofText true f.text).pieces := by
  unfold pieces
  rcases hf.path?_cases with ⟨hpath, htext⟩ | ⟨t, hpath, htext, -⟩
  · rw [hpath, htext, ofText, Segment.tokens_eq_nil.mpr rfl]
    rfl
  · rw [hpath, htext]
    simp only [(describes_literal t).pieces_eq]
    exact List.dropLast_concat

theorem IsLiteral.getElem?_conditions (hf : f.IsLiteral) {k : Key} (hk : k ≠ .path) :
    f.node.conditions[k]? = none := by
  have hnone : f.conditions[k]? = none :=
    Option.eq_none_iff_forall_not_mem.mpr fun c hc => hk (hf k c hc).1
  have hnode := Node.getElem?_conditions f.conditions f.params k
  rw [Conditions.getElem?_kept hk, hnone] at hnode
  exact hnode

theorem IsLiteral.hasPattern (hf : f.IsLiteral) : f.node.hasPattern = false := by
  have hnode : f.node.hasPattern = f.conditions.kept.toList.any (·.2.isPattern) :=
    Node.hasPattern_ofConditions f.conditions f.params
  rw [hnode, List.any_eq_false]
  intro p hp
  have hkept := Std.ExtTreeMap.mem_toList_iff_getElem?_eq_some.mp hp
  have hgiven : f.conditions[p.1]? = some p.2 := by
    unfold Conditions.kept at hkept
    split at hkept
    · rw [Std.ExtTreeMap.getElem?_erase] at hkept
      split at hkept
      · cases hkept
      · exact hkept
    · exact hkept
  obtain ⟨-, t, ht⟩ := hf p.1 p.2 hgiven
  rw [ht]
  exact Bool.false_ne_true

/-- The text to generate from is that of the step, between anchors. -/
theorem IsLiteral.getElem?_spellings (hf : f.IsLiteral) :
    f.node.spellings[Key.path]? = spelling? f.text := by
  have hkept : f.conditions.kept[Key.path]? = f.path? := f.conditions.getElem?_kept_path
  have hnode := Node.getElem?_spellings f.conditions f.params .path
  rw [hkept] at hnode
  refine hnode.trans ?_
  rcases hf.path?_cases with ⟨hpath, htext⟩ | ⟨t, hpath, htext, hne⟩
  · rw [hpath, htext]
    rfl
  · rw [hpath, spelling?, if_neg hne, htext]
    rfl

/-- The step of a literal condition on a path. -/
def literal (p : String) : Frame := { conditions := .ofPath (.literal p) }

theorem isLiteral_literal (p : String) : (literal p).IsLiteral := by
  intro k c hc
  rw [literal, Conditions.ofPath, Std.ExtTreeMap.getElem?_insert] at hc
  split at hc
  · next hk => exact ⟨(by simpa using hk : Key.path = k).symm, p, (Option.some.inj hc).symm⟩
  · rw [Std.ExtTreeMap.getElem?_empty] at hc
    cases hc

theorem text_literal (p : String) : (literal p).text = literalText p := by
  have hgiven : (literal p).conditions[Key.path]? = some (.literal p) :=
    Std.ExtTreeMap.getElem?_insert_self
  rw [text, path?, hgiven, literalText]
  cases hempty : (Condition.literal p).isEmptyPath <;> simp [Option.filter, hempty]

/-- A step without conditions. -/
theorem isLiteral_of_params (ps : Params) : IsLiteral { params := ps } := by
  intro k c hc
  rw [Std.ExtTreeMap.getElem?_empty] at hc
  cases hc

theorem path?_of_params (ps : Params) : path? { params := ps } = none :=
  congrArg (Option.filter _) Std.ExtTreeMap.getElem?_empty

theorem pieces_of_params (ps : Params) : pieces { params := ps } = [] := by
  rw [pieces, path?_of_params]

theorem text_of_params (ps : Params) : text { params := ps } = [] := by
  rw [text, path?_of_params]

end Frame

namespace Chain

/-- The text of the path of some steps, from the outermost to the innermost. -/
def pathText : List Frame → List Char
  | [] => []
  | f :: outer => pathText outer ++ f.text

variable {fs : List Frame}

theorem pathPieces_eq_flatMap (fs : List Frame) :
    pathPieces fs = fs.reverse.flatMap Frame.pieces := by
  induction fs with
  | nil => rfl
  | cons f outer ih => simp [pathPieces, ih]

theorem pathText_eq_flatMap (fs : List Frame) :
    pathText fs = fs.reverse.flatMap Frame.text := by
  induction fs with
  | nil => rfl
  | cons f outer ih => simp [pathText, ih]

/-- A literal chain has no condition but the one on its path. -/
theorem getElem?_conditions_of_ne (hfs : ∀ f ∈ fs, f.IsLiteral) {k : Key} (hk : k ≠ .path) :
    (ofFrames fs).conditions[k]? = none := by
  induction fs with
  | nil => exact Std.ExtTreeMap.getElem?_empty
  | cons f outer ih =>
    obtain ⟨hf, houter⟩ := List.forall_mem_cons.mp hfs
    refine (getElem?_merge_of_ne hk).trans ?_
    rw [hf.getElem?_conditions hk, Option.none_or]
    exact ih houter

/-- A literal chain can be generated from. -/
theorem hasPattern_ofFrames (hfs : ∀ f ∈ fs, f.IsLiteral) : (ofFrames fs).hasPattern = false := by
  rw [hasPattern, ofFrames, List.any_map, List.any_eq_false]
  intro f hf
  exact Bool.not_eq_true _ ▸ (hfs f hf).hasPattern

/-- The text to generate from is that of all steps, between anchors. -/
theorem getElem?_spellings (hfs : ∀ f ∈ fs, f.IsLiteral) :
    (ofFrames fs).spellings[Key.path]? = spelling? (pathText fs) := by
  induction fs with
  | nil => exact Std.ExtTreeMap.getElem?_empty
  | cons f outer ih =>
    obtain ⟨hf, houter⟩ := List.forall_mem_cons.mp hfs
    have hinner := hf.getElem?_spellings
    have hmerge : (ofFrames (f :: outer)).spellings =
      merge (ofFrames outer).spellings f.node.spellings := rfl
    rw [hmerge, pathText]
    -- Spellings are joined only where both sides have a path.
    by_cases hnil : f.text = []
    · rw [hnil] at hinner
      rw [getElem?_merge_path_of_none (.inr hinner), hinner, ih houter, hnil, List.append_nil]
      rfl
    · by_cases hnil' : pathText outer = []
      · have hnone : (ofFrames outer).spellings[Key.path]? = none := by
          rw [ih houter, hnil']
          rfl
        rw [getElem?_merge_path_of_none (.inl hnone), hnone, hinner, hnil', Option.or_none,
          List.nil_append]
      · have hsome := ih houter
        rw [spelling?, if_neg hnil'] at hsome
        rw [spelling?, if_neg hnil] at hinner
        rw [getElem?_merge_path_of_some hsome hinner, joinFragments_spelling, spelling?,
          if_neg (by simp [hnil])]

theorem getElem?_allParams_cons {f : Frame} (hf : f.Regular) (outer : List Frame) (name : String) :
    (ofFrames (f :: outer)).allParams[name]? =
      (f.params[name]?.or (if .token (some name.toList) ∈ f.pieces then
        some (Node.reading name) else none)).or (ofFrames outer).allParams[name]? := by
  obtain ⟨-, -, -, hparams⟩ := f.exists_shape hf
  rw [← hparams]
  exact Std.ExtTreeMap.getElem?_union

/-- The step that declarations start from. -/
def rootFrame : Frame := { params := (∅ : Params).insert "action" ({} : Options).defaultAction }

section Reading

variable {name : String} (hfs : ∀ f ∈ fs, f.Regular)
  (hname : .token (some name.toList) ∈ pathPieces (fs ++ [rootFrame]))
  (hread : ∀ f ∈ fs, ∀ v, f.params[name]? = some v → v = Node.reading name)
include hfs hname hread

theorem getElem?_allParams_reading :
    (ofFrames (fs ++ [rootFrame])).allParams[name]? = some (Node.reading name) := by
  -- From the innermost step outwards: the first step that has the name decides.
  induction fs with
  | nil =>
    have hnil : rootFrame.pieces = [] := Frame.pieces_of_params rootFrame.params
    have hroot : pathPieces [rootFrame] = [] := hnil
    rw [List.nil_append, hroot] at hname
    cases hname
  | cons f inner ih =>
    obtain ⟨hf, hinner⟩ := List.forall_mem_cons.mp hfs
    obtain ⟨hfread, hinnerread⟩ := List.forall_mem_cons.mp hread
    rw [List.cons_append, getElem?_allParams_cons hf]
    cases hv : f.params[name]? with
    | some v =>
      rw [hfread v hv]
      rfl
    | none =>
      rw [Option.none_or]
      by_cases hpieces : .token (some name.toList) ∈ f.pieces
      · rw [if_pos hpieces]
        rfl
      · rw [if_neg hpieces, Option.none_or]
        exact ih hinner ((List.mem_append.mp hname).resolve_right hpieces) hinnerread

/-- A placeholder of the path is read, unless a step below the root has a parameter of its name with
another value. -/
theorem getElem?_params_reading :
    (ofFrames (fs ++ [rootFrame])).params[name]? = some (Node.reading name) := by
  have hregular : ∀ f ∈ fs ++ [rootFrame], f.Regular :=
    List.forall_mem_append.mpr ⟨hfs, List.forall_mem_singleton.mpr (Frame.regular_of_params _)⟩
  -- Only parameters that read a placeholder which is gone are taken away.
  have hlive : (ofFrames (fs ++ [rootFrame])).placeholders.contains name = true := by
    rw [Std.ExtTreeMap.contains_eq_isSome_getElem?, getElem?_placeholders hregular,
      Option.isSome_map]
    exact isSome_lastGroup.mpr hname
  have hfresh : (ofFrames (fs ++ [rootFrame])).isStale name (Node.reading name) = false := by
    rw [isStale, hlive, Bool.not_true, Bool.and_false]
  rw [params, Std.ExtTreeMap.getElem?_filter', getElem?_allParams_reading hfs hname hread,
    Option.filter_some, hfresh]
  rfl

end Reading

/-! ### Routes below literal conditions -/

/-- The steps below the root of a route with parameters of its own below some literal conditions on
its path, the innermost first. Without parameters of its own, the route is no step. -/
def literalFrames (paths : List String) (own : Params) : List Frame :=
  (if own.isEmpty then [] else [{ params := own }]) ++ (paths.map Frame.literal).reverse

variable {paths : List String} {own : Params}

theorem mem_literalFrames {f : Frame} (hf : f ∈ literalFrames paths own) :
    f = { params := own } ∨ ∃ p ∈ paths, f = Frame.literal p := by
  rcases List.mem_append.mp hf with hf | hf
  · split at hf
    · cases hf
    · exact .inl (List.mem_singleton.mp hf)
  · obtain ⟨p, hp, rfl⟩ := List.mem_map.mp (List.mem_reverse.mp hf)
    exact .inr ⟨p, hp, rfl⟩

theorem isLiteral_literalFrames : ∀ f ∈ literalFrames paths own ++ [rootFrame], f.IsLiteral := by
  intro f hf
  rcases List.mem_append.mp hf with hf | hf
  · rcases mem_literalFrames hf with rfl | ⟨p, -, rfl⟩
    · exact Frame.isLiteral_of_params own
    · exact Frame.isLiteral_literal p
  · obtain rfl := List.mem_singleton.mp hf
    exact Frame.isLiteral_of_params _

/-- What steps without conditions contribute nothing to is put together from literal conditions. -/
theorem flatMap_literalFrames {α : Type} (part : Frame → List α)
    (hpart : ∀ ps, part { params := ps } = []) :
    (literalFrames paths own ++ [rootFrame]).reverse.flatMap part =
      paths.flatMap fun p => part (.literal p) := by
  have hroot : part rootFrame = [] := hpart _
  unfold literalFrames
  split <;> simp [hroot, hpart, List.flatMap_map]

theorem pathText_literalFrames :
    pathText (literalFrames paths own ++ [rootFrame]) = literalPath paths := by
  rw [pathText_eq_flatMap, flatMap_literalFrames _ Frame.text_of_params]
  simp only [Frame.text_literal]
  rfl

theorem pieces_ofTokens_flatMap (xss : String → Tokens) :
    (ofTokens true (paths.flatMap xss)).pieces =
      paths.flatMap fun p => (ofTokens true (xss p)).pieces := by
  induction paths with
  | nil => rfl
  | cons p paths ih => rw [List.flatMap_cons, pieces_ofTokens_append, ih, List.flatMap_cons]

/-- The pieces of literal conditions are those of one text after the other. -/
theorem pathPieces_literalFrames_flatMap :
    pathPieces (literalFrames paths own ++ [rootFrame]) =
      (ofTokens true (paths.flatMap fun p => Segment.tokens (literalText p))).pieces := by
  rw [pathPieces_eq_flatMap, flatMap_literalFrames _ Frame.pieces_of_params,
    pieces_ofTokens_flatMap]
  simp only [(Frame.isLiteral_literal _).pieces_eq, Frame.text_literal]
  rfl

/-- Where the placeholders of the whole path are those of its parts, so are the pieces. -/
theorem pathPieces_literalFrames (h : ∀ p ∈ paths.tail, p.toList.head? = some '/') :
    pathPieces (literalFrames paths own ++ [rootFrame]) =
      (ofTokens true (Segment.tokens (literalPath paths))).pieces := by
  rw [tokens_literalPath h, pathPieces_literalFrames_flatMap]

/-- A placeholder of literal conditions is read, unless the route's own parameters replace it. -/
theorem getElem?_params_literalFrames (h : ∀ p ∈ paths.tail, p.toList.head? = some '/')
    {name : String} (hname : .inr (some name.toList) ∈ Segment.tokens (literalPath paths))
    (hown : ∀ v, own[name]? = some v → v = Node.reading name) :
    (ofFrames (literalFrames paths own ++ [rootFrame])).params[name]? =
      some (Node.reading name) := by
  refine getElem?_params_reading (fun f hf => ?_) ?_ fun f hf v hv => ?_
  · exact (isLiteral_literalFrames f (List.mem_append_left _ hf)).regular
  · rw [pathPieces_literalFrames h]
    exact token_mem_pieces_ofTokens.mpr hname
  · rcases mem_literalFrames hf with rfl | ⟨p, -, rfl⟩
    · exact hown v hv
    · rw [Frame.literal, Std.ExtTreeMap.getElem?_empty] at hv
      cases hv

end Chain

namespace Route

variable {fs : List Frame} {decision : Option Decision} {isDefault : Bool} {r : Route}

/-- A literal chain has one condition, if it has a path. -/
theorem toList_conditions (hfs : ∀ f ∈ fs, f.IsLiteral) {source : String}
    (hsource : (Chain.ofFrames fs).conditions[Key.path]? = some source) :
    (Chain.ofFrames fs).conditions.toList = [(.path, source)] := by
  have hall : ∀ p ∈ (Chain.ofFrames fs).conditions.toList, p = (.path, source) := by
    intro p hp
    have hcondition := Std.ExtTreeMap.mem_toList_iff_getElem?_eq_some.mp hp
    by_cases hkey : p.1 = .path
    · rw [hkey, hsource] at hcondition
      exact Prod.ext hkey (Option.some.inj hcondition).symm
    · rw [Chain.getElem?_conditions_of_ne hfs hkey] at hcondition
      cases hcondition
  have hmem := Std.ExtTreeMap.mem_toList_iff_getElem?_eq_some.mpr hsource
  have hdistinct := pairwise_toList (Chain.ofFrames fs).conditions
  match hlist : (Chain.ofFrames fs).conditions.toList with
  | [] =>
    rw [hlist] at hmem
    cases hmem
  | [p] => rw [hall p (by simp [hlist])]
  | p :: p' :: ps =>
    rw [hlist] at hdistinct
    have hp := hall p (by simp [hlist])
    have hp' := hall p' (by simp [hlist])
    exact absurd (by rw [hp, hp']) ((List.pairwise_cons.mp hdistinct).1 p' List.mem_cons_self)

/-- The only test of a route on a literal chain is that of its path. -/
theorem tests_of_build (hfs : ∀ f ∈ fs, f.IsLiteral)
    (hr : build (Chain.ofFrames fs) decision isDefault = .ok r) {s : Shape} (hs : s.Tidy)
    (hpieces : Chain.pathPieces fs = s.pieces) (hne : s.pieces ≠ []) :
    r.tests = [⟨.path, s.pattern, s.regex⟩] := by
  obtain ⟨tests, params, htests, -, rfl⟩ := build_eq_ok_iff.mp hr
  have hcondition :=
    Chain.getElem?_conditions_path (fun f hf => (hfs f hf).regular) hpieces hne
  rw [toList_conditions hfs hcondition] at htests
  obtain ⟨⟨key, source, regex⟩, _, htest, hnil, rfl⟩ := mapM_cons_eq_ok.mp htests
  obtain rfl := Except.ok.inj hnil
  obtain ⟨hkey, hsource, hregex⟩ := compileTest_eq_ok.mp htest
  rw [parse?_pattern hs] at hregex
  obtain rfl := Option.some.inj hregex
  obtain rfl : key = .path := hkey
  obtain rfl : source = s.pattern := hsource
  rfl

end Route

end HttpRouting
