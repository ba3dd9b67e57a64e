import HttpRouting.Proofs.LiteralPath
import HttpRouting.Proofs.PathCaptures
import HttpRouting.Proofs.ShapeGroups

/-!
# What a route answers

A route tests conditions one by one and keeps what each has captured; its parameters then read from
what has been kept. For a route that has been built from the steps of a declaration, this comes down
to two questions: does the shape of its path read the path of the request, and do the other
conditions accept their parts. The answer gives to each parameter what its placeholder has read, or
the value that the steps have given.

## Main definitions

* `Template.IsPlain` — a parameter value that refers to nothing
* `Condition.accepts` — a condition that is not on the path accepts a text
* `Chain.HasShape` — the path of a chain has a shape
* `Chain.Answers` — the parameters that a match gives
* `answer` — the parameters of a match with a controller, an action, and perhaps more

## Main results

* `Chain.params_ofFrames` — no parameter of a regular chain is stale
* `Route.exists_build_of_regular` — when regular chains describe routes
* `Route.isSome_match?_iff_reads` — the requests that a route matches
* `Route.exists_reads_of_match?` — the parameters that it answers with
-/

namespace HttpRouting

open Placeholder

/-! ### Tests -/

namespace Route

section Captured

variable {tests : List ConditionTest} {lower : Bool} {q : Request} {captured : Captured}

theorem captured?_cons (t : ConditionTest) :
    captured? (t :: tests) lower q =
      (t.regex.captures? (q.subject lower t.key)).bind fun groups =>
        (captured? tests lower q).map ((t.key, groups) :: ·) := by
  unfold captured?
  rw [List.mapM_cons]
  cases t.regex.captures? (q.subject lower t.key) with
  | none => rfl
  | some groups =>
    generalize tests.mapM (m := Option) _ = rest
    cases rest <;> rfl

/-- A request is captured if it meets every test. -/
theorem isSome_captured? : (captured? tests lower q).isSome = true ↔
    ∀ t ∈ tests, (t.regex.captures? (q.subject lower t.key)).isSome = true := by
  induction tests with
  | nil => exact ⟨fun _ => nofun, fun _ => rfl⟩
  | cons t tests ih =>
    rw [captured?_cons, List.forall_mem_cons, ← ih]
    cases t.regex.captures? (q.subject lower t.key) with
    | none => simp
    | some groups => simp

/-- What has been captured for a key comes from the first test of that key. -/
theorem lookup_of_captured? (h : captured? tests lower q = some captured) (k : Key) :
    captured.lookup k = (tests.find? (·.key = k)).bind fun t =>
      t.regex.captures? (q.subject lower t.key) := by
  induction tests generalizing captured with
  | nil =>
    obtain rfl := Option.some.inj h
    rfl
  | cons t tests ih =>
    rw [captured?_cons] at h
    obtain ⟨groups, hgroups, h⟩ := Option.bind_eq_some_iff.mp h
    obtain ⟨rest, hrest, rfl⟩ := Option.map_eq_some_iff.mp h
    rw [List.lookup_cons, List.find?_cons]
    by_cases hkey : t.key = k
    · rw [beq_iff_eq.mpr hkey.symm, decide_eq_true hkey]
      exact hgroups.symm
    · rw [beq_eq_false_iff_ne.mpr (Ne.symm hkey), decide_eq_false hkey]
      exact ih hrest

end Captured

section Built

variable {c : Chain} {isDefault : Bool} {r : Route} (hr : build c none isDefault = .ok r)
  {o : Options} {q : Request} {ps : Params} {captured : Captured} {name : String}
include hr

theorem match?_eq : r.match? o q =
    (captured? r.tests o.caseInsensitiveMethod q).map (r.resolved o) := by
  obtain ⟨tests, params, -, -, rfl⟩ := build_eq_ok_iff.mp hr
  unfold match?
  dsimp only
  cases captured? tests o.caseInsensitiveMethod q <;> rfl

/-- A route matches a request if each condition of its chain does. -/
theorem isSome_match?_iff : (r.match? o q).isSome = true ↔
    ∀ (k : Key) source regex, c.conditions[k]? = some source → Regex.parse? source = some regex →
      (regex.captures? (q.subject o.caseInsensitiveMethod k)).isSome = true := by
  rw [match?_eq hr, Option.isSome_map, isSome_captured?]
  obtain ⟨tests, params, htests, -, rfl⟩ := build_eq_ok_iff.mp hr
  constructor
  · intro h k source regex hsource hregex
    exact h ⟨k, source, regex⟩ ((mem_tests htests).mpr ⟨hsource, hregex⟩)
  · intro h t ht
    obtain ⟨hsource, hregex⟩ := (mem_tests htests).mp ht
    exact h t.key t.source t.regex hsource hregex

/-- The answer of a route comes from the groups of each condition of its chain. -/
theorem exists_captured_of_match? (h : r.match? o q = some ps) :
    ∃ captured, ps = r.resolved o captured ∧
      ∀ (k : Key) source regex, c.conditions[k]? = some source →
        Regex.parse? source = some regex →
        ∃ groups, regex.captures? (q.subject o.caseInsensitiveMethod k) = some groups ∧
          captured.lookup k = some groups := by
  rw [match?_eq hr] at h
  obtain ⟨captured, hcaptured, rfl⟩ := Option.map_eq_some_iff.mp h
  refine ⟨captured, rfl, fun k source regex hsource hregex => ?_⟩
  obtain ⟨tests, params, htests, -, rfl⟩ := build_eq_ok_iff.mp hr
  have hmem : (⟨k, source, regex⟩ : ConditionTest) ∈ tests :=
    (mem_tests htests).mpr ⟨hsource, hregex⟩
  obtain ⟨t, ht⟩ := Option.isSome_iff_exists.mp (List.find?_isSome.mpr
    ⟨_, hmem, decide_eq_true rfl⟩ : (tests.find? (·.key = k)).isSome = true)
  have hkey : t.key = k := by simpa using List.find?_some ht
  -- Both tests are of one key, so they are made of one condition.
  obtain ⟨hsource', hregex'⟩ := (mem_tests htests).mp (List.mem_of_find?_eq_some ht)
  rw [hkey, hsource] at hsource'
  obtain rfl := Option.some.inj hsource'
  obtain rfl := Option.some.inj (hregex.symm.trans hregex')
  obtain ⟨groups, hgroups⟩ := Option.isSome_iff_exists.mp
    (isSome_captured?.mp (by rw [hcaptured]; rfl) _ hmem)
  refine ⟨groups, hgroups, ?_⟩
  rw [lookup_of_captured? hcaptured, ht, Option.bind_some, hkey]
  exact hgroups

/-- There are no parameters but those of the chain. -/
theorem getElem?_resolved_absent (hname : c.params[name]? = none) :
    (r.resolved o captured)[name]? = none := by
  obtain ⟨tests, params, -, hparams, rfl⟩ := build_eq_ok_iff.mp hr
  refine (getElem?_foldl_addValue (fun t ht => ?_) ∅).trans Std.ExtTreeMap.getElem?_empty
  obtain ⟨value, hvalue, -⟩ := (mem_params hparams).mp ht
  rw [hname] at hvalue
  cases hvalue

end Built

end Route

/-! ### Parameter values -/

namespace Template

/-- A value without characters that references start with. -/
def IsPlain (value : String) : Prop := ∀ c ∈ value.toList, c ≠ ':' ∧ c ≠ '['

instance (value : String) : Decidable (IsPlain value) := List.decidableBAll _ value.toList

theorem reference?_eq_none {c : Char} {cs : List Char} (h : c ≠ ':' ∧ c ≠ '[') :
    reference? (c :: cs) = none := by
  simp [reference?, bracket?, h.1, h.2]

theorem references_eq_map {cs : List Char} (h : ∀ c ∈ cs, c ≠ ':' ∧ c ≠ '[') :
    references cs = cs.map .inl := by
  induction cs with
  | nil => exact references_nil
  | cons c cs ih =>
    obtain ⟨hc, hcs⟩ := List.forall_mem_cons.mp h
    have hnone := @reference?_eq_none c cs hc
    rw [references]
    split
    · next hsome =>
      rw [hnone] at hsome
      cases hsome
    · rw [ih hcs, List.map_cons]

/-- A text is one run, up to where something else stands. -/
theorem runs_map_inl_append {α : Type} {cs : List Char} {xs : List (Char ⊕ α)} (hcs : cs ≠ [])
    (hxs : ∀ x ∈ xs.head?, x.isRight = true) : runs (cs.map .inl ++ xs) = .inl cs :: runs xs := by
  induction cs with
  | nil => exact absurd rfl hcs
  | cons c cs ih =>
    cases cs with
    | nil =>
      match xs with
      | [] => rfl
      | .inr a :: xs => rfl
      | .inl d :: xs => cases hxs _ rfl
    | cons d cs =>
      rw [List.map_cons, List.cons_append, runs, ih (List.cons_ne_nil d cs)]
      rfl

theorem runs_map_inl {α : Type} (cs : List Char) :
    runs (α := α) (cs.map .inl) = if cs = [] then [] else [.inl cs] := by
  split
  · next hnil =>
    rw [hnil]
    rfl
  · next hne =>
    have hruns : runs (α := α) (cs.map .inl ++ []) = .inl cs :: runs [] :=
      runs_map_inl_append hne nofun
    rwa [List.append_nil] at hruns

/-- A plain value is kept. -/
theorem parse_plain {param value : String} {placeholders : String → Option (Key × Nat)}
    {groups : Key → Option Nat} (h : IsPlain value) :
    parse param value placeholders groups = .ok (ofText value) := by
  rw [parse, references_eq_map h, runs_map_inl]
  split
  · next hnil =>
    obtain rfl := String.toList_eq_nil_iff.mp hnil
    rfl
  · rw [ofText, ← String.ofList_toList (s := value)]
    simp only [String.toList_ofList]
    rfl

theorem inr_not_mem_references {value : String} (h : IsPlain value) (reference : Reference) :
    .inr reference ∉ references value.toList := by
  rw [references_eq_map h]
  simp

end Template

/-- A parameter with a plain value keeps it in every match. -/
theorem Route.getElem?_resolved_plain {c : Chain} {isDefault : Bool} {r : Route}
    (hr : build c none isDefault = .ok r) {o : Options} {captured : Captured} {name value : String}
    (hname : c.params[name]? = some value) (hvalue : Template.IsPlain value) :
    (r.resolved o captured)[name]? = some value := by
  obtain ⟨tests, params, -, hparams, rfl⟩ := build_eq_ok_iff.mp hr
  have hmem := (mem_params hparams).mpr ⟨value, hname, Template.parse_plain hvalue⟩
  refine (getElem?_resolved (pairwise_params hparams) hmem).trans ?_
  simp [paramValue, Template.render, Template.capture?, Template.ofText, String.join]

/-- Parameters with one more, if it has a value. -/
def Params.insertSome (ps : Params) (name : String) (value : Option String) : Params :=
  match value with
  | some v => ps.insert name v
  | none => ps

theorem Params.getElem?_insertSome (ps : Params) (name : String) (value : Option String)
    (k : String) :
    (ps.insertSome name value)[k]? = if name = k then value.or ps[k]? else ps[k]? := by
  cases value with
  | none => simp [insertSome]
  | some v => simp [insertSome, Std.ExtTreeMap.getElem?_insert]

/-- The parameters of an action. -/
def actionParams (controller action : String) : Params :=
  ((∅ : Params).insert "controller" controller).insert "action" action

theorem getElem?_actionParams (controller action name : String) :
    (actionParams controller action)[name]? =
      if name = "action" then some action
      else if name = "controller" then some controller else none := by
  rw [actionParams, Std.ExtTreeMap.getElem?_insert, Std.ExtTreeMap.getElem?_insert,
    Std.ExtTreeMap.getElem?_empty]
  simp only [Std.compare_eq_iff_eq, eq_comm (a := name)]

/-- The parameters of a match: the controller, the action, and what the placeholders have read. -/
def answer (controller action : String) (id fmt : Option String) : Params :=
  ((actionParams controller action).insertSome "id" id).insertSome "format" fmt

theorem getElem?_answer (controller action : String) (id fmt : Option String) (name : String) :
    (answer controller action id fmt)[name]? =
      if name = "action" then some action else if name = "controller" then some controller
      else if name = "id" then id else if name = "format" then fmt else none := by
  rw [answer, Params.getElem?_insertSome, Params.getElem?_insertSome, getElem?_actionParams]
  by_cases hformat : name = "format"
  · subst hformat
    simp
  by_cases hid : name = "id"
  · subst hid
    simp
  rw [if_neg (Ne.symm hformat), if_neg (Ne.symm hid), if_neg hformat, if_neg hid]

/-- The parameters of some steps refer to nothing. -/
def PlainParams (fs : List Frame) : Prop :=
  ∀ f ∈ fs, ∀ name value : String, f.params[name]? = some value → Template.IsPlain value

theorem plainParams_actionParams {fs : List Frame} {controller action : String}
    (hfs : PlainParams fs) (hcontroller : Template.IsPlain controller)
    (haction : Template.IsPlain action) :
    PlainParams ({ params := actionParams controller action } :: fs) := by
  refine List.forall_mem_cons.mpr ⟨fun name value h => ?_, hfs⟩
  rw [getElem?_actionParams] at h
  split_ifs at h
  · exact Option.some.inj h ▸ haction
  · exact Option.some.inj h ▸ hcontroller

theorem plainParams_conditions {fs : List Frame} {cs : Conditions} (hfs : PlainParams fs) :
    PlainParams ({ conditions := cs } :: fs) := by
  refine List.forall_mem_cons.mpr ⟨fun name value h => ?_, hfs⟩
  rw [Std.ExtTreeMap.getElem?_empty] at h
  cases h

theorem plainParams_rootFrame : PlainParams [Chain.rootFrame] := by
  refine List.forall_mem_singleton.mpr fun name value h => ?_
  rw [Chain.rootFrame, Std.ExtTreeMap.getElem?_insert, Std.ExtTreeMap.getElem?_empty] at h
  split at h
  · exact Option.some.inj h ▸ (by decide)
  · cases h

/-! ### Chains -/

namespace Condition

/-- The expression of a condition whose placeholders have been expanded. -/
def regex? (c : Condition) : Option Regex :=
  Regex.parse? (expand c.source defaultPlaceholder).source

/-- Whether a condition compiles and matches a text. -/
def accepts (c : Condition) (text : String) : Bool :=
  (c.regex?.bind (·.captures? text)).isSome

end Condition

/-- The pieces of a step are those of the shape of its path condition. -/
theorem Frame.pieces_of_describes {f : Frame} {s : Shape} {path : String}
    (h : f.conditions[Key.path]? = some (.pattern path)) (hs : s.Describes (.pattern path))
    (hdemands : (Condition.pattern path).isEmptyPath = false) :
    f.pieces = s.pieces := by
  rw [Frame.pieces, Frame.path?, h]
  simp only [Option.filter_some, hdemands, Bool.not_false, if_true, hs.pieces_eq]
  exact List.dropLast_concat

namespace Chain

variable {fs : List Frame}

/-- The path of a chain of regular steps has a shape, and it is not empty. -/
structure HasShape (fs : List Frame) (s : Shape) : Prop where
  /-- The steps are regular. -/
  regular : ∀ f ∈ fs, f.Regular
  /-- The characters of the shape mean themselves. -/
  tidy : s.Tidy
  /-- The shape has the pieces of the path conditions. -/
  pieces : pathPieces fs = s.pieces
  /-- There is a condition on the path. -/
  ne_nil : s.pieces ≠ []

/-- The condition on a key other than the path is that of the innermost step that has one. -/
theorem getElem?_conditions_cons {k : Key} (hk : k ≠ .path) (f : Frame) (outer : List Frame) :
    (ofFrames (f :: outer)).conditions[k]? =
      (f.conditions[k]?.map fun c => (expand (c.tested k).source defaultPlaceholder).source).or
        (ofFrames outer).conditions[k]? := by
  have hnode := Node.getElem?_conditions f.conditions f.params k
  rw [Conditions.getElem?_kept hk] at hnode
  rw [← hnode]
  exact getElem?_merge_of_ne hk

/-- A parameter of a chain is one of a step, or reads a placeholder of the path. -/
theorem getElem?_allParams_eq_some (hfs : ∀ f ∈ fs, f.Regular) {name value : String}
    (h : (ofFrames fs).allParams[name]? = some value) :
    (∃ f ∈ fs, f.params[name]? = some value) ∨
      value = Node.reading name ∧ .token (some name.toList) ∈ pathPieces fs := by
  induction fs with
  | nil =>
    rw [show (ofFrames []).allParams = ∅ from rfl, Std.ExtTreeMap.getElem?_empty] at h
    cases h
  | cons f outer ih =>
    obtain ⟨hf, houter⟩ := List.forall_mem_cons.mp hfs
    rw [getElem?_allParams_cons hf, Option.or_eq_some_iff, Option.or_eq_some_iff] at h
    rcases h with (h | ⟨-, h⟩) | ⟨-, h⟩
    · exact .inl ⟨f, List.mem_cons_self, h⟩
    · split at h
      · next hmem =>
        exact .inr ⟨(Option.some.inj h).symm, List.mem_append_right _ hmem⟩
      · cases h
    · rcases ih houter h with ⟨g, hg, hvalue⟩ | ⟨rfl, hmem⟩
      · exact .inl ⟨g, List.mem_cons_of_mem f hg, hvalue⟩
      · exact .inr ⟨rfl, List.mem_append_left _ hmem⟩

/-- The placeholders of regular steps are on the path, and paths are never replaced. -/
theorem isStale_ofFrames (hfs : ∀ f ∈ fs, f.Regular) (name value : String) :
    (ofFrames fs).isStale name value = false := by
  have hlive : ∀ f ∈ fs, f.node.placeholders.contains name = true →
      (ofFrames fs).placeholders.contains name = true := by
    intro f hf hnode
    obtain ⟨-, -, hplaceholders, -⟩ := f.exists_shape (hfs f hf)
    rw [Std.ExtTreeMap.contains_eq_isSome_getElem?, hplaceholders, Option.isSome_map,
      isSome_lastGroup] at hnode
    rw [Std.ExtTreeMap.contains_eq_isSome_getElem?, getElem?_placeholders hfs, Option.isSome_map,
      isSome_lastGroup, pathPieces_eq_flatMap]
    exact List.mem_flatMap.mpr ⟨f, List.mem_reverse.mpr hf, hnode⟩
  rw [isStale, Bool.and_eq_false_iff]
  by_cases hany : (ofFrames fs).any (·.placeholders.contains name) = true
  · obtain ⟨_, hn, hcontains⟩ := List.any_eq_true.mp hany
    obtain ⟨f, hf, rfl⟩ := List.mem_map.mp hn
    exact .inr (by rw [hlive f hf hcontains]; rfl)
  · rw [Bool.not_eq_true] at hany
    exact .inl (by rw [hany, Bool.and_false])

/-- No parameter of a regular chain is stale. -/
theorem params_ofFrames (hfs : ∀ f ∈ fs, f.Regular) :
    (ofFrames fs).params = (ofFrames fs).allParams := by
  refine Std.ExtTreeMap.ext_getElem? fun name => ?_
  rw [params, Std.ExtTreeMap.getElem?_filter']
  cases (ofFrames fs).allParams[name]? with
  | none => rfl
  | some value => rw [Option.filter_some, isStale_ofFrames hfs]; rfl

/-- The parameters that a match gives, where groups of the path have read some texts: those of the
chain that are plain are kept, and those that read a placeholder have what it has read. An action
that has read nothing is the default action. -/
structure Answers (given : Params) (s : Shape) (gs : Groups) (ps : Params) : Prop where
  /-- There are no further parameters. -/
  absent : ∀ name : String, given[name]? = none → ps[name]? = none
  /-- Plain values are kept. -/
  plain : ∀ name value : String, given[name]? = some value → Template.IsPlain value →
    ps[name]? = some value
  /-- Placeholders have what they have read. -/
  reading : ∀ key name : String, given[key]? = some (Node.reading name) →
    .token (some name.toList) ∈ s.pieces →
    ps[key]? = ((s.value? gs name.toList).map String.ofList).or
      (if key = "action" then some "index" else none)

end Chain

namespace Route

variable {fs : List Frame} {isDefault : Bool} {r : Route}

/-- A regular chain describes a route, if its other conditions compile and the parameters of its
steps refer to nothing. -/
theorem exists_build_of_regular (hfs : ∀ f ∈ fs, f.Regular)
    (hother : ∀ (k : Key) source, k ≠ .path → (Chain.ofFrames fs).conditions[k]? = some source →
      (Regex.parse? source).isSome = true)
    (hparams : ∀ f ∈ fs, ∀ name value : String, f.params[name]? = some value →
      ∀ reference, .inr reference ∉ Template.references value.toList)
    (decision : Option Decision) (isDefault : Bool) :
    ∃ r, build (Chain.ofFrames fs) decision isDefault = .ok r := by
  rw [exists_build_iff]
  constructor
  · intro k source hsource
    by_cases hk : k = .path
    · subst hk
      obtain ⟨regex, hregex, -⟩ := Chain.parse?_path hfs hsource
      exact Option.isSome_iff_exists.mpr ⟨regex, hregex⟩
    · exact hother k source hk hsource
  · intro name value hvalue reference hreference
    rw [Chain.params_ofFrames hfs] at hvalue
    rcases Chain.getElem?_allParams_eq_some hfs hvalue with ⟨f, hf, hown⟩ | ⟨rfl, hmem⟩
    · exact absurd hreference (hparams f hf name value hown reference)
    -- What reads a placeholder of the path refers to it and to nothing else.
    · obtain ⟨s, hs⟩ := Chain.exists_shape hfs
      rw [Template.references_reading (hs.identifiers _ hmem)] at hreference
      obtain rfl := Sum.inr.inj (List.mem_singleton.mp hreference)
      exact (Chain.resolves_iff_refers hfs _).mpr hmem

section Shape

variable {s : Shape} (hs : Chain.HasShape fs s)
  (hr : build (Chain.ofFrames fs) none isDefault = .ok r) {q : Request} {ps : Params}
include hs hr

/-- A route matches the requests whose path its shape reads, and which the other conditions
accept. -/
theorem isSome_match?_iff_reads : (r.match? {} q).isSome = true ↔
    (∃ gs, s.Reads q.path.toList gs) ∧
      ∀ (k : Key) source regex, k ≠ .path → (Chain.ofFrames fs).conditions[k]? = some source →
        Regex.parse? source = some regex →
        (regex.captures? (q.subject true k)).isSome = true := by
  have hpath := Chain.getElem?_conditions_path hs.regular hs.pieces hs.ne_nil
  have hregex := Shape.parse?_pattern hs.tidy
  rw [isSome_match?_iff hr, ← Shape.isSome_captures?_regex]
  constructor
  · intro h
    exact ⟨h .path _ _ hpath hregex, fun k source regex _ => h k source regex⟩
  · rintro ⟨hreads, hother⟩ k source regex hsource hregex'
    by_cases hk : k = .path
    · subst hk
      obtain rfl := Option.some.inj (hpath.symm.trans hsource)
      obtain rfl := Option.some.inj (hregex.symm.trans hregex')
      exact hreads
    · exact hother k source regex hk hsource hregex'

/-- The answer of a route has the parameters of its chain, where placeholders have what the shape of
the path has read for them. -/
theorem exists_reads_of_match? (h : r.match? {} q = some ps) :
    ∃ gs, s.Reads q.path.toList gs ∧ Chain.Answers (Chain.ofFrames fs).allParams s gs ps := by
  have hpath := Chain.getElem?_conditions_path hs.regular hs.pieces hs.ne_nil
  obtain ⟨captured, rfl, hcaptured⟩ := exists_captured_of_match? hr h
  obtain ⟨groups, hgroups, hlookup⟩ := hcaptured _ _ _ hpath (Shape.parse?_pattern hs.tidy)
  obtain ⟨gs, hreads, rfl⟩ := Shape.captures?_regex hgroups
  rw [← Chain.params_ofFrames hs.regular]
  refine ⟨gs, hreads, ⟨fun name => getElem?_resolved_absent hr,
    fun name value => getElem?_resolved_plain hr, fun key name hkey hname => ?_⟩⟩
  obtain ⟨i, hi⟩ := Option.isSome_iff_exists.mp (isSome_lastGroup.mpr hname)
  rw [getElem?_resolved_group hs.regular hr hkey (hs.pieces ▸ hi)]
  congr 1
  -- The groups of the path stand behind the whole match, which is group 0.
  obtain ⟨j, rfl⟩ := Nat.exists_eq_add_of_le' (Shape.lastGroup_bounds hi).1
  rw [groupText, hlookup, Shape.value?, hi, Option.bind_some, Option.bind_some,
    List.getElem?_cons_succ, List.getElem?_map, Nat.add_sub_cancel]
  cases gs[j]? with
  | none => rfl
  | some g => cases g <;> rfl

end Shape

end Route

end HttpRouting
