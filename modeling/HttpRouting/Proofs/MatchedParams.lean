import HttpRouting.Proofs.LiteralMatch
import HttpRouting.Proofs.PassSplit

/-!
# From a match back to its path

A route can be generated from the parameters that it has answered with. What the route itself has
added to them is taken away first, and what is left are the texts of the placeholders, which stand
in the path where they have been read. This does not ask how the path has been cut: placeholders
that stand next to each other may share a text in several ways, and each of them gives it back.

## Main definitions

* `Named` — every placeholder has a name of its own

## Main results

* `Shape.Reads.eq_filled` — a text is filled with what the placeholders have read in it
* `Route.exists_literal?_iff` — the parameters that a route adds itself
* `Route.getElem?_withoutLiterals` — what is left of an answer
* `Router.generateForParams_matched` — an answer leads back to the path of its request
-/

namespace HttpRouting

open Placeholder Shape

/-! ### Placeholders with names of their own -/

/-- Every placeholder has a name, and no two have the same. -/
structure Named (xs : Tokens) : Prop where
  /-- Every placeholder has a name. -/
  named : .inr none ∉ xs
  /-- No name comes twice. -/
  nodup : (xs.filterMap Sum.getRight?).Nodup

theorem mem_filterMap_getRight? {name : Option (List Char)} {xs : Tokens} :
    name ∈ xs.filterMap Sum.getRight? ↔ .inr name ∈ xs := by
  simp [List.mem_filterMap]

instance (xs : Tokens) : Decidable (Named xs) :=
  decidable_of_iff (none ∉ xs.filterMap Sum.getRight? ∧ (xs.filterMap Sum.getRight?).Nodup)
    ⟨fun h => ⟨mt mem_filterMap_getRight?.mpr h.1, h.2⟩,
      fun h => ⟨mt mem_filterMap_getRight?.mp h.named, h.nodup⟩⟩

theorem Named.tail {x : Char ⊕ Option (List Char)} {xs : Tokens} (h : Named (x :: xs)) :
    Named xs where
  named := fun hmem => h.named (List.mem_cons_of_mem x hmem)
  nodup := h.nodup.sublist ((List.sublist_cons_self x xs).filterMap _)

theorem Named.not_mem {name : Option (List Char)} {xs : Tokens} (h : Named (.inr name :: xs)) :
    .inr name ∉ xs :=
  mt mem_filterMap_getRight?.mpr (List.nodup_cons.mp h.nodup).1

/-- Only the values of the placeholders matter. -/
theorem filled_congr {value value' : List Char → List Char} {xs : Tokens}
    (h : ∀ name, .inr (some name) ∈ xs → value name = value' name) :
    filled value xs = filled value' xs := by
  induction xs with
  | nil => rfl
  | cons x xs ih =>
    have hrest := ih fun name hname => h name (List.mem_cons_of_mem x hname)
    rcases x with c | name | name
    · exact congrArg (c :: ·) hrest
    · exact hrest
    · rw [filled, filled, h name List.mem_cons_self, hrest]

namespace Shape

variable {escape : Bool} {xs : Tokens} {t : List Char} {gs : Groups} {name : List Char}

theorem value?_ofTokens_inl {c : Char} :
    (ofTokens escape (.inl c :: xs)).value? gs name = (ofTokens escape xs).value? gs name := by
  rw [ofTokens]
  split <;> rfl

/-- A placeholder hides what others of its name have read in front of it. -/
theorem value?_ofTokens_inr_of_mem {name' : Option (List Char)} {v : List Char}
    (h : .inr (some name) ∈ xs) :
    (ofTokens escape (.inr name' :: xs)).value? (some v :: gs) name =
      (ofTokens escape xs).value? gs name :=
  (@value?_seq (token name') _ [some v] gs name rfl).trans
    (if_pos (token_mem_pieces_ofTokens.mpr h))

theorem value?_ofTokens_inr_self {v : List Char} (h : .inr (some name) ∉ xs) :
    (ofTokens escape (.inr (some name) :: xs)).value? (some v :: gs) name = some v := by
  refine (@value?_seq (token (some name)) _ [some v] gs name rfl).trans ?_
  rw [if_neg (mt token_mem_pieces_ofTokens.mp h)]
  simp [value?, pieces, lastGroup]

/-- A text is filled with what the placeholders have read in it, if each has a name of its own. -/
theorem Reads.eq_filled (hxs : Named xs) (h : (ofTokens escape xs).Reads t gs) :
    (∀ name, .inr (some name) ∈ xs → ((ofTokens escape xs).value? gs name).isSome = true) ∧
      t = filled (fun name => ((ofTokens escape xs).value? gs name).getD []) xs := by
  induction xs generalizing t gs with
  | nil =>
    obtain ⟨rfl, rfl⟩ := reads_ofTokens_nil.mp h
    exact ⟨nofun, rfl⟩
  | cons x xs ih =>
    rcases x with c | name | name
    · obtain ⟨t', rfl, hrest⟩ := reads_ofTokens_inl.mp h
      obtain ⟨hvalues, hfilled⟩ := ih hxs.tail hrest
      simp only [value?_ofTokens_inl]
      exact ⟨fun name hname => hvalues name (by simpa using hname), congrArg (c :: ·) hfilled⟩
    · exact absurd List.mem_cons_self hxs.named
    · obtain ⟨v, t', gs', -, rfl, rfl, hrest⟩ := reads_ofTokens_inr.mp h
      obtain ⟨hvalues, hfilled⟩ := ih hxs.tail hrest
      -- The name does not come again, so no value is hidden by the first one, nor the first one
      -- by another.
      have hhead := @value?_ofTokens_inr_self escape xs gs' name v hxs.not_mem
      have htail : ∀ name', .inr (some name') ∈ xs →
          (ofTokens escape (.inr (some name) :: xs)).value? (some v :: gs') name' =
            (ofTokens escape xs).value? gs' name' :=
        fun name' hname' => value?_ofTokens_inr_of_mem hname'
      constructor
      · intro name' hname'
        rcases List.mem_cons.mp hname' with heq | hname'
        · obtain rfl := Option.some.inj (Sum.inr.inj heq)
          rw [hhead]
          rfl
        · rw [htail name' hname']
          exact hvalues name' hname'
      · rw [filled, hhead, Option.getD_some,
          filled_congr fun name' hname' => congrArg (·.getD []) (htail name' hname'), ← hfilled]

end Shape

/-! ### What a route adds itself -/

theorem Template.not_isPlain_reading (name : String) : ¬IsPlain (Node.reading name) := by
  intro h
  have hcolon : ':' ∈ (Node.reading name).toList := by
    rw [Node.reading, String.toList_append]
    exact List.mem_append_left _ List.mem_cons_self
  exact (h ':' hcolon).1 rfl

/-- A parameter is plain, or it reads a placeholder of the path. -/
theorem Chain.isPlain_or_reading {fs : List Frame} (hfs : ∀ f ∈ fs, f.Regular)
    (hplain : PlainParams fs) {name value : String}
    (h : (ofFrames fs).params[name]? = some value) :
    Template.IsPlain value ∨
      value = Node.reading name ∧ .token (some name.toList) ∈ pathPieces fs := by
  rw [params_ofFrames hfs] at h
  rcases getElem?_allParams_eq_some hfs h with ⟨f, hf, hvalue⟩ | hreading
  · exact .inl (hplain f hf name value hvalue)
  · exact .inr hreading

namespace Route

variable {fs : List Frame} {isDefault : Bool} {r : Route} {name : String}

section Plain

variable (hfs : ∀ f ∈ fs, f.Regular) (hplain : PlainParams fs)
  (hr : build (Chain.ofFrames fs) none isDefault = .ok r)
include hfs hplain hr

/-- The texts among the parameters of a route are the plain values of its chain. -/
theorem exists_literal?_iff {value : String} :
    (∃ t, (name, t) ∈ r.params ∧ t.literal? = some value) ↔
      (Chain.ofFrames fs).params[name]? = some value ∧ Template.IsPlain value := by
  obtain ⟨tests, params, -, hparams, rfl⟩ := build_eq_ok_iff.mp hr
  constructor
  · rintro ⟨t, hmem, ht⟩
    obtain ⟨value', hvalue, hparse⟩ := (mem_params hparams).mp hmem
    rcases Chain.isPlain_or_reading hfs hplain hvalue with hvalue' | ⟨rfl, htoken⟩
    · obtain rfl := Except.ok.inj ((Template.parse_plain hvalue').symm.trans hparse)
      obtain rfl := Option.some.inj ht
      exact ⟨hvalue, hvalue'⟩
    · obtain ⟨s, hs⟩ := Chain.exists_shape hfs
      obtain ⟨i, hi⟩ := Option.isSome_iff_exists.mp (isSome_lastGroup.mpr htoken)
      have hplaceholder : (Chain.ofFrames fs).placeholders[name]? = some (Key.path, i) := by
        rw [Chain.getElem?_placeholders hfs, hi, Option.map_some]
      obtain rfl := Except.ok.inj
        ((Template.parse_reading (hs.identifiers _ htoken) hplaceholder).symm.trans hparse)
      cases ht
  · rintro ⟨hvalue, hvalue'⟩
    exact ⟨_, (mem_params hparams).mpr ⟨value, hvalue, Template.parse_plain hvalue'⟩, rfl⟩

/-- A parameter is taken away if it has the plain value that the route gives to it. -/
theorem getElem?_withoutLiterals (ps : Params) :
    (r.withoutLiterals ps)[name]? = ps[name]?.filter fun v =>
      ¬((Chain.ofFrames fs).params[name]? = some v ∧ Template.IsPlain v) := by
  rw [withoutLiterals, Std.ExtTreeMap.getElem?_filter']
  refine congrArg (ps[name]?.filter ·) (funext fun v => ?_)
  rw [Bool.eq_iff_iff, decide_eq_true_iff, Bool.not_eq_true', ← Bool.not_eq_true,
    ← exists_literal?_iff hfs hplain hr, List.any_eq_true]
  refine not_congr ⟨?_, ?_⟩
  · rintro ⟨⟨name', t⟩, hmem, heq⟩
    simp only [Bool.and_eq_true, beq_iff_eq] at heq
    obtain ⟨rfl, ht⟩ := heq
    exact ⟨t, hmem, ht⟩
  · rintro ⟨t, hmem, ht⟩
    exact ⟨_, hmem, by simp [ht]⟩

section Answers

variable {s : Shape} {gs : Groups} {ps : Params}
  (hanswers : Chain.Answers (Chain.ofFrames fs).params s gs ps)
include hanswers

/-- What is left of an answer is what the placeholders have read. -/
theorem getElem?_withoutLiterals_of_answers (hpieces : Chain.pathPieces fs = s.pieces)
    (hreading : ∀ name : String, .token (some name.toList) ∈ s.pieces →
      (Chain.ofFrames fs).params[name]? = some (Node.reading name)) :
    (r.withoutLiterals ps)[name]? =
      if .token (some name.toList) ∈ s.pieces then ps[name]? else none := by
  rw [getElem?_withoutLiterals hfs hplain hr]
  split
  · next htoken =>
    rw [hreading name htoken]
    cases ps[name]? with
    | none => rfl
    | some v =>
      rw [Option.filter_some, if_pos]
      refine decide_eq_true fun ⟨heq, hv⟩ => ?_
      obtain rfl := Option.some.inj heq
      exact Template.not_isPlain_reading name hv
  · next htoken =>
    cases hgiven : (Chain.ofFrames fs).params[name]? with
    | none =>
      rw [hanswers.absent name hgiven]
      rfl
    | some value =>
      rcases Chain.isPlain_or_reading hfs hplain hgiven with hvalue | ⟨-, hmem⟩
      · rw [hanswers.plain name value hgiven hvalue, Option.filter_some, if_neg (by simp [hvalue])]
      · exact absurd (hpieces ▸ hmem) htoken

/-- A route could have given what it has answered. -/
theorem isConsistentWith_of_answers {xs : Tokens} (hpattern : r.hasPattern = false)
    (hsegments : r.segments = some ((runs xs).map Segment.ofRun)) (hnamed : .inr none ∉ xs)
    (hvalues : ∀ name : String, .inr (some name.toList) ∈ xs → ps[name]?.isSome = true)
    (fallback : Params) : r.isConsistentWith ps fallback = true := by
  have hdecision : r.decision = none := by
    obtain ⟨tests, params, -, -, rfl⟩ := build_eq_ok_iff.mp hr
    rfl
  have hliterals : r.params.all (literalAgrees ps) = true := by
    refine List.all_eq_true.mpr fun ⟨name, t⟩ hmem => ?_
    rw [literalAgrees]
    cases ht : t.literal? with
    | none => rfl
    | some value =>
      obtain ⟨hgiven, hvalue⟩ := (exists_literal?_iff hfs hplain hr).mp ⟨t, hmem, ht⟩
      rw [hanswers.plain name value hgiven hvalue]
      exact beq_self_eq_true value
  have hgiven : ∀ name : String, (!ps.contains name || (r.param? name).isSome) = true := by
    intro name
    rw [Std.ExtTreeMap.contains_eq_isSome_getElem?]
    cases hvalue : (Chain.ofFrames fs).params[name]? with
    | none =>
      rw [hanswers.absent name hvalue]
      rfl
    | some value =>
      obtain ⟨t, ht⟩ := exists_mem_params hr hvalue
      rw [param?, List.lookup_isSome_iff.mpr ⟨(name, t), ht, beq_self_eq_true name⟩, Bool.or_true]
  have hfill : ((runs xs).map Segment.ofRun).all (canFill ps fallback) = true := by
    refine List.all_eq_true.mpr (List.forall_mem_map.mpr fun x hx => ?_)
    rcases x with cs | name | name
    · rfl
    · exact absurd (inr_mem_runs.mp hx) hnamed
    · rw [← String.toList_ofList (l := name)] at hx
      rw [Segment.ofRun, canFill, Std.ExtTreeMap.contains_eq_isSome_getElem?,
        hvalues _ (inr_mem_runs.mp hx), Bool.true_or]
  -- These are the conditions under which a route fits, one by one.
  unfold isConsistentWith
  rw [hpattern, hdecision, hsegments]
  dsimp only
  rw [hliterals, hfill, List.all_eq_true.mpr fun name _ => hgiven name]
  rfl

end Answers

end Plain

end Route

/-! ### Routes below one literal condition -/

section Literal

variable {v : String} {own : Params} (hv : v ≠ "" ∧ v ≠ "^$")
include hv

theorem literalPath_singleton : literalPath [v] = v.toList := by
  rw [literalPath, List.flatMap_singleton, literalText_of_ne hv]

theorem Chain.hasShape_literalFrames :
    HasShape (literalFrames [v] own ++ [rootFrame]) (ofTokens true (Segment.tokens v.toList)) where
  regular := fun f hf => (isLiteral_literalFrames f hf).regular
  tidy := tidy_ofTokens (.inl rfl)
  pieces := by rw [pathPieces_literalFrames (List.forall_mem_nil _), literalPath_singleton hv]
  ne_nil := by
    rw [Ne, pieces_ofTokens_eq_nil, Segment.tokens_eq_nil, String.toList_eq_nil_iff]
    exact hv.1

variable (hown : ∀ name ∈ own, .inr (some name.toList) ∉ Segment.tokens v.toList)
include hown

/-- The placeholders are read, if the route's own parameters do not replace them. -/
theorem Chain.getElem?_params_singleton {name : String}
    (hname : .inr (some name.toList) ∈ Segment.tokens v.toList) :
    (ofFrames (literalFrames [v] own ++ [rootFrame])).params[name]? = some (Node.reading name) := by
  refine getElem?_params_literalFrames (List.forall_mem_nil _) ?_ fun w hw => ?_
  · rw [literalPath_singleton hv]
    exact hname
  · have hmem : name ∈ own := Std.ExtTreeMap.mem_iff_isSome_getElem?.mpr (by rw [hw]; rfl)
    exact absurd hname (hown name hmem)

namespace Route

variable {r : Route} {q : Request} {ps : Params}
  (hr : build (Chain.ofFrames (Chain.literalFrames [v] own ++ [Chain.rootFrame])) none false =
    .ok r)
  (h : r.match? {} q = some ps)
include hr h

/-- The path of a request is the text of the condition, filled with the parameters of the match. -/
theorem path_eq_filled_of_match? (hnamed : Named (Segment.tokens v.toList)) :
    (∀ name : String, .inr (some name.toList) ∈ Segment.tokens v.toList →
        ps[name]?.isSome = true) ∧
      q.path.toList = filled (fun name => (ps[String.ofList name]?.getD "").toList)
        (Segment.tokens v.toList) := by
  have hs := @Chain.hasShape_literalFrames v own hv
  obtain ⟨gs, hreads, hanswers⟩ := exists_reads_of_match? hs hr h
  rw [← Chain.params_ofFrames hs.regular] at hanswers
  obtain ⟨hread, hfilled⟩ := hreads.eq_filled hnamed
  have hvalue : ∀ name : String, .inr (some name.toList) ∈ Segment.tokens v.toList →
      ps[name]? = ((ofTokens true (Segment.tokens v.toList)).value? gs name.toList).map
        String.ofList := by
    intro name hname
    obtain ⟨w, hw⟩ := Option.isSome_iff_exists.mp (hread name.toList hname)
    rw [hanswers.reading name name (Chain.getElem?_params_singleton hv hown hname)
      (token_mem_pieces_ofTokens.mpr hname), hw, Option.map_some, Option.some_or]
  refine ⟨fun name hname => ?_, ?_⟩
  · rw [hvalue name hname, Option.isSome_map]
    exact hread name.toList hname
  · rw [hfilled]
    refine filled_congr fun name hname => ?_
    obtain ⟨w, hw⟩ := Option.isSome_iff_exists.mp (hread name hname)
    have hname' := hvalue (String.ofList name) (by rwa [String.toList_ofList])
    rw [hname', String.toList_ofList, hw]
    exact String.toList_ofList.symm

variable (hplain : ∀ name value : String, own[name]? = some value → Template.IsPlain value)
include hplain

/-- What is left of an answer are the parameters that are placeholders of the condition. -/
theorem getElem?_withoutLiterals_of_match? (name : String) : (r.withoutLiterals ps)[name]? =
    if .token (some name.toList) ∈ (ofTokens true (Segment.tokens v.toList)).pieces
      then ps[name]? else none := by
  have hs := @Chain.hasShape_literalFrames v own hv
  obtain ⟨gs, -, hanswers⟩ := exists_reads_of_match? hs hr h
  rw [← Chain.params_ofFrames hs.regular] at hanswers
  refine getElem?_withoutLiterals_of_answers hs.regular (plainParams_literalFrames hplain) hr
    hanswers hs.pieces fun name hname => ?_
  exact Chain.getElem?_params_singleton hv hown (token_mem_pieces_ofTokens.mp hname)

/-- The parameters of a match are consistent with the route, and lead back to the path of the
request, if the texts of the placeholders are not changed by the encoding. -/
theorem generate_of_match? (hnamed : Named (Segment.tokens v.toList)) (i : Option Nat)
    (htext : ∀ name value : String, .inr (some name.toList) ∈ Segment.tokens v.toList →
      ps[name]? = some value → percentEncode reservedInSegment value = value) :
    { r with index := i }.isConsistentWith ps ∅ = true ∧
      { r with index := i }.generate (.params ({ r with index := i }.withoutLiterals ps)) ∅ =
        .ok q.path := by
  have hs := @Chain.hasShape_literalFrames v own hv
  have hfs := @Chain.isLiteral_literalFrames [v] own
  have hpattern := hasPattern_of_build hfs hr
  have hsegments : r.segments = some ((runs (Segment.tokens v.toList)).map Segment.ofRun) := by
    rw [segments_of_build hfs hr, Chain.pathText_literalFrames, literalPath_singleton hv,
      if_neg (mt String.toList_eq_nil_iff.mp hv.1)]
    rfl
  obtain ⟨gs, -, hanswers⟩ := exists_reads_of_match? hs hr h
  rw [← Chain.params_ofFrames hs.regular] at hanswers
  obtain ⟨hvalues, hpath⟩ := path_eq_filled_of_match? hv hown hr h hnamed
  have hleft := getElem?_withoutLiterals_of_match? hv hown hr h hplain
  have hkept : ∀ name : String, .inr (some name.toList) ∈ Segment.tokens v.toList →
      (r.withoutLiterals ps)[name]? = ps[name]? := fun name hname =>
    (hleft name).trans (if_pos (token_mem_pieces_ofTokens.mpr hname))
  have hkeys : ∀ name ∈ r.withoutLiterals ps,
      .inr (some name.toList) ∈ Segment.tokens v.toList := by
    intro name hname
    by_contra hnot
    rw [Std.ExtTreeMap.mem_iff_isSome_getElem?, hleft name,
      if_neg (mt token_mem_pieces_ofTokens.mp hnot)] at hname
    cases hname
  refine ⟨isConsistentWith_of_answers hs.regular (plainParams_literalFrames hplain) hr hanswers
    hpattern hsegments hnamed.named hvalues ∅, ?_⟩
  refine (generate_of_values (r := { r with index := i }) hpattern hsegments hnamed.named hkeys
    fun name hname => ?_).trans ?_
  · rw [hkept name hname, Std.ExtTreeMap.getElem?_empty, Option.or_none]
    exact hvalues name hname
  -- Every placeholder is filled with the text that it has read.
  · rw [← String.ofList_toList (s := q.path), hpath]
    refine congrArg (Except.ok <| String.ofList ·) (filled_congr fun name hname => ?_)
    obtain ⟨name, rfl⟩ : ∃ n : String, n.toList = name := ⟨_, String.toList_ofList⟩
    obtain ⟨w, hw⟩ := Option.isSome_iff_exists.mp (hvalues name hname)
    have hsome : (r.withoutLiterals ps)[name]?.or (∅ : Params)[name]? = some w := by
      rw [hkept name hname, hw, Option.some_or]
    have hencoded := @encoded_of_eq_some
      (fun n => (r.withoutLiterals ps)[n]?.or (∅ : Params)[n]?) name w hsome
    rw [String.ofList_toList, hw, Option.getD_some, ← htext name w hname hw]
    exact hencoded

end Route

end Literal

namespace Router

open Declaration

/-- The table of one route below literal conditions, whose own parameters refer to nothing. -/
theorem exists_yields_matchPaths (paths : List String) {own : Params}
    (hown : ∀ name value : String, own[name]? = some value → Template.IsPlain value) :
    ∃ t r, Yields { options := {} }
        [(.replace, matchPaths (paths.map .literal) (.route { params := own }))] t ∧
      Route.build (Chain.ofFrames (Chain.literalFrames paths own ++ [Chain.rootFrame])) none false =
        .ok r ∧
      t.routes = [{ r with index := some 0 }] ∧ t.matchers = [r.match? {}] := by
  obtain ⟨s, hs⟩ := exists_runPass_plain paths hown
  obtain ⟨r, hr, hroutes⟩ := build_of_runPass hs
  refine ⟨_, r, yields_replace hs, hr, ?_⟩
  rw [Table.compile, hroutes]
  exact ⟨rfl, rfl⟩

/-- A match and the generator agree. Let the only route of a default router have one literal
condition on the path that demands something, let every placeholder have a name of its own, and let
the route's own parameters refer to nothing and replace no placeholder. If the route matches a
request, and what its placeholders have read needs no encoding in a path, then the parameters of the
match are generated as the path of the request, without a query. -/
theorem generateForParams_matched {v : String} {own : Params} (hv : v ≠ "" ∧ v ≠ "^$")
    (hnamed : Named (Segment.tokens v.toList))
    (hplain : ∀ name value : String, own[name]? = some value → Template.IsPlain value)
    (hown : ∀ name ∈ own, .inr (some name.toList) ∉ Segment.tokens v.toList) :
    ∃ t, Yields { options := {} }
        [(.replace, .matchPath (.literal v) (.route { params := own }))] t ∧
      ∀ (q : Request) (n : Nat) (matched : Params), t.match? q = some (n, matched) →
        (∀ name value : String, .inr (some name.toList) ∈ Segment.tokens v.toList →
          matched[name]? = some value →
          ∀ c ∈ value.toList, c.toNat < 128 ∧ reservedInSegment c = false) →
        t.generateForParams matched ∅ = .ok q.path := by
  obtain ⟨t, r, hyields, hr, hroutes, hmatchers⟩ := exists_yields_matchPaths [v] hplain
  refine ⟨t, hyields, fun q n matched hmatch htext => ?_⟩
  have hanswer : r.match? {} q = some matched := by
    rw [Table.match?, hmatchers, Table.firstMatch?] at hmatch
    split at hmatch
    · next ps hps =>
      obtain ⟨-, rfl⟩ := Prod.mk.inj (Option.some.inj hmatch)
      exact hps
    · cases hmatch
  obtain ⟨hconsistent, hurl⟩ := Route.generate_of_match? hv hown hr hanswer hplain hnamed (some 0)
    fun name value hname hvalue => percentEncode_eq_self fun c hc => by
      rw [percentChar, if_pos (by simpa using htext name value hname hvalue c hc)]
  rw [Table.generateForParams, hroutes, List.find?_cons, hconsistent]
  exact congrArg (Except.mapError Error.generate) hurl

/-- A path in which nothing keeps a year and a month apart. -/
def archivePath : String := "/archive/:year:month"

/-- The parameters of its route. -/
def archiveParams : Params := (∅ : Params).insert "controller" "posts"

/-- The controller and the action do not come back as a query, and however a year and a month have
been told apart, they make the path again. -/
theorem generateForParams_matched_archive :
    (archivePath ≠ "" ∧ archivePath ≠ "^$") ∧ Named (Segment.tokens archivePath.toList) ∧
      (∀ name value : String, archiveParams[name]? = some value → Template.IsPlain value) ∧
      (∀ name ∈ archiveParams, .inr (some name.toList) ∉ Segment.tokens archivePath.toList) ∧
      ∃ t, Yields { options := {} }
          [(.replace, .matchPath (.literal archivePath) (.route { params := archiveParams }))] t ∧
        ∃ matched, t.match? { method := "GET", path := "/archive/202411" } = some (0, matched) ∧
          matched.toList = [("action", "index"), ("controller", "posts"), ("month", "1"),
            ("year", "20241")] ∧
          t.generateForParams matched ∅ = .ok "/archive/202411" := by
  have hv : archivePath ≠ "" ∧ archivePath ≠ "^$" := by decide
  have hnamed : Named (Segment.tokens archivePath.toList) := by decide +kernel
  have hvalue : ∀ name value : String, archiveParams[name]? = some value →
      name = "controller" ∧ value = "posts" := by
    intro name value h
    rw [archiveParams, Std.ExtTreeMap.getElem?_insert, Std.ExtTreeMap.getElem?_empty] at h
    split at h
    · next hname => exact ⟨(Std.compare_eq_iff_eq.mp hname).symm, (Option.some.inj h).symm⟩
    · cases h
  have hplain : ∀ name value : String, archiveParams[name]? = some value →
      Template.IsPlain value := by
    intro name value h
    rw [(hvalue name value h).2]
    decide
  have hown : ∀ name ∈ archiveParams,
      .inr (some name.toList) ∉ Segment.tokens archivePath.toList := by
    intro name hname
    obtain ⟨value, h⟩ :=
      Option.isSome_iff_exists.mp (Std.ExtTreeMap.mem_iff_isSome_getElem?.mp hname)
    rw [(hvalue name value h).1, ← mem_filterMap_getRight?]
    decide +kernel
  have hrun : ((Router.declareAll { options := {} } [(.replace, .matchPath (.literal archivePath)
      (.route { params := archiveParams }))]).table.toOption.bind fun t =>
        (t.match? { method := "GET", path := "/archive/202411" }).map fun p => (p.1, p.2.toList)) =
      some (0, [("action", "index"), ("controller", "posts"), ("month", "1"),
        ("year", "20241")]) := by
    decide +kernel
  obtain ⟨t, hyields, hgenerate⟩ := generateForParams_matched hv hnamed hplain hown
  rw [toOption_eq_some_iff.mpr hyields.2, Option.bind_some] at hrun
  obtain ⟨⟨n, matched⟩, hmatch, hpair⟩ := Option.map_eq_some_iff.mp hrun
  obtain ⟨rfl, hlist⟩ := Prod.mk.inj hpair
  refine ⟨hv, hnamed, hplain, hown, t, hyields, matched, hmatch, hlist, ?_⟩
  -- All values are in small letters or digits, those of the placeholders among them.
  refine hgenerate _ 0 matched hmatch fun name value _ hname => ?_
  have hmem := Std.ExtTreeMap.mem_toList_iff_getElem?_eq_some.mpr hname
  have hkept : ∀ p ∈ matched.toList, (p.2.toList.all fun c =>
      c.toNat < 128 ∧ reservedInSegment c = false) = true := by
    rw [hlist]
    decide
  exact List.all_iff_forall_prop.mp (hkept _ hmem)

end Router

end HttpRouting
