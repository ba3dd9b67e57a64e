import HttpRouting.Proofs.LiteralPath
import HttpRouting.Proofs.PathCaptures

/-!
# Generated URLs

A route below literal conditions can be generated and matched. The URL is the text of the conditions
with encoded values in place of its placeholders, and a match has to find these values again. The
encoding leaves no separator but the dot, so exactly the values that are empty or have a dot are
lost.

## Main definitions

* `encoded` — the encoded value of a placeholder

## Main results

* `forall_not_isSeparator_percentEncode` — separators in encoded values
* `Route.generate_eq_ok` — a generated URL is a filled text
* `Declaration.build_of_runPass` — the route that a declaration registers below literal conditions
* `Declaration.generate_matches_iff` — when a generated URL matches, and what is captured from it
-/

namespace HttpRouting

open Placeholder Shape

/-! ### Encoded values -/

theorem not_isSeparator_percentByte {b : UInt8} {a : Char} (h : a ∈ percentByte b) :
    ¬IsSeparator a := by
  have hdigit : ∀ n < 16, ¬IsSeparator (hexDigit n) := by decide
  have hlt := b.toNat_lt
  simp only [percentByte, List.mem_cons, List.not_mem_nil, or_false] at h
  rcases h with rfl | rfl | rfl
  · decide
  · exact hdigit _ (by omega)
  · exact hdigit _ (by omega)

/-- Every separator but the dot is encoded. -/
theorem eq_dot_of_isSeparator {a c : Char} (h : a ∈ percentChar reservedInSegment c)
    (ha : IsSeparator a) : c = '.' := by
  have hreserved : ∀ d ∈ separators, reservedInSegment d = false → d = '.' :=
    List.all_iff_forall_prop.mp (by decide)
  unfold percentChar at h
  split at h
  · next hkept =>
    obtain rfl := List.mem_singleton.mp h
    obtain ⟨-, hc⟩ := Bool.and_eq_true_iff.mp hkept
    exact hreserved a ha (by simpa using hc)
  · obtain ⟨b, -, hb⟩ := List.mem_flatMap.mp h
    exact absurd ha (not_isSeparator_percentByte hb)

/-- No character is encoded as nothing. -/
theorem percentChar_ne_nil (reserved : Char → Bool) (c : Char) : percentChar reserved c ≠ [] := by
  unfold percentChar
  split
  · exact List.cons_ne_nil c []
  · intro hnil
    have hbytes : String.utf8EncodeChar c ≠ [] := by
      rw [← List.length_pos_iff, String.length_utf8EncodeChar]
      exact c.utf8Size_pos
    obtain ⟨b, bs, hb⟩ := List.exists_cons_of_ne_nil hbytes
    rw [hb] at hnil
    cases hnil

theorem toList_percentEncode_eq_nil {reserved : Char → Bool} {v : String} :
    (percentEncode reserved v).toList = [] ↔ v = "" := by
  rw [percentEncode, String.toList_ofList, List.flatMap_eq_nil_iff, ← String.toList_eq_nil_iff]
  constructor
  · intro h
    exact List.eq_nil_iff_forall_not_mem.mpr fun c hc => percentChar_ne_nil reserved c (h c hc)
  · intro h c hc
    rw [h] at hc
    cases hc

/-- An encoded value has no separators exactly if the value has no dot. -/
theorem forall_not_isSeparator_percentEncode {v : String} :
    (∀ a ∈ (percentEncode reservedInSegment v).toList, ¬IsSeparator a) ↔ '.' ∉ v.toList := by
  rw [percentEncode, String.toList_ofList]
  constructor
  · intro h hdot
    exact h '.' (List.mem_flatMap.mpr ⟨'.', hdot, by decide⟩) (by decide)
  · intro h a ha hseparator
    obtain ⟨c, hc, ha⟩ := List.mem_flatMap.mp ha
    obtain rfl := eq_dot_of_isSeparator ha hseparator
    exact h hc

/-- An encoded value is a part of a path, unless the value is empty or has a dot. -/
theorem isPart_percentEncode {v : String} (hne : v ≠ "") (hdot : '.' ∉ v.toList) :
    IsPart (percentEncode reservedInSegment v).toList :=
  ⟨mt toList_percentEncode_eq_nil.mp hne, forall_not_isSeparator_percentEncode.mpr hdot⟩

theorem percent_mem_percentChar {reserved : Char → Bool} {c : Char}
    (h : percentChar reserved c ≠ [c]) : '%' ∈ percentChar reserved c := by
  unfold percentChar at h ⊢
  split
  · next hkept => exact absurd (if_pos hkept) h
  · next hkept =>
    have hbytes : String.utf8EncodeChar c ≠ [] := by
      rw [← List.length_pos_iff, String.length_utf8EncodeChar]
      exact c.utf8Size_pos
    obtain ⟨b, bs, hb⟩ := List.exists_cons_of_ne_nil hbytes
    rw [hb]
    exact List.mem_cons_self

/-- A value without reserved characters is not encoded. -/
theorem percentEncode_eq_self {reserved : Char → Bool} {v : String}
    (h : ∀ c ∈ v.toList, percentChar reserved c = [c]) : percentEncode reserved v = v := by
  rw [percentEncode, List.flatMap_def, List.map_congr_left h, ← List.flatMap_def,
    List.flatMap_singleton', String.ofList_toList]

/-- A value whose encoding has no percent sign has not been changed. -/
theorem percentEncode_eq_of_not_mem {reserved : Char → Bool} {v : String}
    (h : '%' ∉ (percentEncode reserved v).toList) : percentEncode reserved v = v := by
  refine percentEncode_eq_self fun c hc => ?_
  by_contra hne
  rw [percentEncode, String.toList_ofList] at h
  exact h (List.mem_flatMap.mpr ⟨c, hc, percent_mem_percentChar hne⟩)

/-! ### Filling -/

theorem Segment.ofPath_spelling (cs : List Char) :
    ofPath (String.ofList ('^' :: cs ++ ['$'])) = split cs := by
  have hcaret : dropCaret ('^' :: cs ++ ['$']) = cs ++ ['$'] := rfl
  rw [ofPath, String.toList_ofList, hcaret, dropDollar, if_pos List.getLast?_concat,
    List.dropLast_concat]

/-- The encoded value of a placeholder. -/
def encoded (value? : String → Option String) (name : List Char) : List Char :=
  (percentEncode reservedInSegment ((value? (String.ofList name)).getD "")).toList

theorem encoded_of_eq_some {value? : String → Option String} {name v : String}
    (h : value? name = some v) :
    encoded value? name.toList = (percentEncode reservedInSegment v).toList := by
  rw [encoded, String.ofList_toList, h, Option.getD_some]

theorem filled_map_inl (value : List Char → List Char) (cs : List Char) (xs : Tokens) :
    filled value (cs.map .inl ++ xs) = cs ++ filled value xs := by
  induction cs with
  | nil => rfl
  | cons c cs ih => simp [filled, ih]

namespace Route

/-- What is filled in is a value for every placeholder. -/
theorem fill_eq_ok {label : String} {value? : String → Option String}
    {rs : List (List Char ⊕ Option (List Char))} {path : String}
    (h : fill label value? (rs.map Segment.ofRun) = .ok path) :
    (∀ name : String, .inr (some name.toList) ∈ rs → (value? name).isSome = true) ∧
      path.toList = filled (encoded value?) (unrun rs) := by
  -- A path is filled part by part, and fails at the first placeholder that has no value.
  induction rs generalizing path with
  | nil =>
    obtain rfl := Except.ok.inj h
    exact ⟨nofun, rfl⟩
  | cons r rs ih =>
    rcases r with cs | name | name
    · obtain ⟨rest, hrest, hpath⟩ := except_bind_eq_ok.mp h
      obtain rfl := Except.ok.inj hpath
      obtain ⟨hvalues, hfilled⟩ := ih hrest
      have hunrun : unrun (.inl cs :: rs) = cs.map .inl ++ unrun rs := rfl
      refine ⟨fun name hname => hvalues name (by simpa using hname), ?_⟩
      rw [hunrun, filled_map_inl, String.toList_append, String.toList_ofList, hfilled]
    · cases h
    · have hunrun : unrun (.inr (some name) :: rs) = .inr (some name) :: unrun rs := rfl
      rw [List.map_cons, Segment.ofRun, fill] at h
      cases hvalue : value? (String.ofList name) with
      | none =>
        rw [hvalue] at h
        cases h
      | some v =>
        rw [hvalue] at h
        obtain ⟨rest, hrest, hpath⟩ := except_bind_eq_ok.mp h
        obtain rfl := Except.ok.inj hpath
        obtain ⟨hvalues, hfilled⟩ := ih hrest
        refine ⟨fun name' hname' => ?_, ?_⟩
        · rcases List.mem_cons.mp hname' with heq | hname'
          · obtain rfl := Option.some.inj (Sum.inr.inj heq)
            rw [String.ofList_toList] at hvalue
            rw [hvalue]
            rfl
          · exact hvalues name' hname'
        · rw [hunrun, filled, String.toList_append, hfilled, encoded, hvalue, Option.getD_some]

/-- A path is filled, if every placeholder has a name and a value. -/
theorem exists_fill {label : String} {value? : String → Option String}
    {rs : List (List Char ⊕ Option (List Char))} (hnamed : .inr none ∉ rs)
    (hvalues : ∀ name : String, .inr (some name.toList) ∈ rs → (value? name).isSome = true) :
    ∃ path, fill label value? (rs.map Segment.ofRun) = .ok path := by
  induction rs with
  | nil => exact ⟨"", rfl⟩
  | cons r rs ih =>
    obtain ⟨path, hpath⟩ := ih (fun h => hnamed (List.mem_cons_of_mem r h))
      fun name hname => hvalues name (List.mem_cons_of_mem r hname)
    rw [List.map_cons]
    rcases r with cs | name | name
    · exact ⟨_, except_bind_eq_ok.mpr ⟨path, hpath, rfl⟩⟩
    · exact absurd List.mem_cons_self hnamed
    · obtain ⟨v, hv⟩ := Option.isSome_iff_exists.mp (hvalues (String.ofList name)
        (by rw [String.toList_ofList]; exact List.mem_cons_self))
      rw [Segment.ofRun, fill, hv]
      exact ⟨_, except_bind_eq_ok.mpr ⟨path, hpath, rfl⟩⟩

theorem mem_names {rs : List (List Char ⊕ Option (List Char))} {name : String} :
    name ∈ Segment.names (rs.map Segment.ofRun) ↔ .inr (some name.toList) ∈ rs := by
  rw [Segment.names, List.filterMap_map, List.mem_filterMap]
  constructor
  · rintro ⟨r, hr, hname⟩
    rcases r with cs | name' | name'
    · cases hname
    · cases hname
    · obtain rfl := Option.some.inj hname
      rwa [String.toList_ofList]
  · intro hr
    refine ⟨_, hr, ?_⟩
    simp [Segment.ofRun]

variable {r : Route} {xs : Tokens} {ps fallback : Params} {url : String}

/-- Parameters that are placeholders leave nothing for the query. -/
theorem appendTo_filter_names (hkeys : ∀ name ∈ ps, .inr (some name.toList) ∈ xs) (path : String) :
    Params.appendTo (ps.filter fun name _ =>
      name ∉ Segment.names ((runs xs).map Segment.ofRun)) path = path := by
  have hempty : (ps.filter fun name _ =>
      name ∉ Segment.names ((runs xs).map Segment.ofRun)) = ∅ := by
    refine Std.ExtTreeMap.ext_getElem? fun name => ?_
    rw [Std.ExtTreeMap.getElem?_filter', Std.ExtTreeMap.getElem?_empty]
    cases hvalue : ps[name]? with
    | none => rfl
    | some v =>
      have hmem : name ∈ ps := Std.ExtTreeMap.mem_iff_isSome_getElem?.mpr (by simp [hvalue])
      have hnames := mem_names.mpr (inr_mem_runs.mpr (hkeys name hmem))
      simp [hnames]
  rw [hempty]
  rfl

/-- A generated URL is the text of the path, filled with encoded values. There is no query, if all
parameters are placeholders. -/
theorem generate_eq_ok (hsegments : r.segments = some ((runs xs).map Segment.ofRun))
    (hkeys : ∀ name ∈ ps, .inr (some name.toList) ∈ xs)
    (h : r.generate (.params ps) fallback = .ok url) :
    (∀ name : String, .inr (some name.toList) ∈ xs →
        (ps[name]?.or fallback[name]?).isSome = true) ∧
      url = String.ofList (filled (encoded fun name => ps[name]?.or fallback[name]?) xs) := by
  unfold generate at h
  cases hpattern : r.hasPattern with
  | true =>
    rw [hpattern] at h
    cases h
  | false =>
    rw [hpattern, hsegments] at h
    obtain ⟨path, hpath, hurl⟩ := except_bind_eq_ok.mp h
    have hvalue? : (fun n => (Supply.params ps).value? n <|> fallback[n]?) =
        fun n => ps[n]?.or fallback[n]? := by
      funext n
      exact Option.orElse_eq_or
    rw [hvalue?] at hpath
    obtain ⟨hvalues, hfilled⟩ := fill_eq_ok hpath
    obtain rfl := (appendTo_filter_names hkeys path).symm.trans (Except.ok.inj hurl)
    rw [unrun_runs] at hfilled
    refine ⟨fun name hname => hvalues name (inr_mem_runs.mpr hname), ?_⟩
    rw [← hfilled, String.ofList_toList]

/-- A URL is generated from a path without patterns, if every placeholder has a name and a value,
and all parameters are placeholders. -/
theorem generate_of_values (hpattern : r.hasPattern = false)
    (hsegments : r.segments = some ((runs xs).map Segment.ofRun)) (hnamed : .inr none ∉ xs)
    (hkeys : ∀ name ∈ ps, .inr (some name.toList) ∈ xs)
    (hvalues : ∀ name : String, .inr (some name.toList) ∈ xs →
      (ps[name]?.or fallback[name]?).isSome = true) :
    r.generate (.params ps) fallback =
      .ok (String.ofList (filled (encoded fun name => ps[name]?.or fallback[name]?) xs)) := by
  have hvalue? : (fun n => (Supply.params ps).value? n <|> fallback[n]?) =
      fun n => ps[n]?.or fallback[n]? := by
    funext n
    exact Option.orElse_eq_or
  obtain ⟨path, hpath⟩ := @exists_fill r.label _ (runs xs) (mt inr_mem_runs.mp hnamed)
    fun name hname => hvalues name (inr_mem_runs.mp hname)
  rw [← hvalue?] at hpath
  have hgenerate : r.generate (.params ps) fallback =
      .ok (Params.appendTo (ps.filter fun name _ =>
        name ∉ Segment.names ((runs xs).map Segment.ofRun)) path) := by
    unfold generate
    rw [hpattern, hsegments]
    exact except_bind_eq_ok.mpr ⟨path, hpath, rfl⟩
  rw [hgenerate, (generate_eq_ok hsegments hkeys hgenerate).2]

/-- A route with a condition on the path only asks for nothing else. -/
theorem match?_of_tests {source : String} {regex : Regex}
    (htests : r.tests = [⟨.path, source, regex⟩]) (hdecision : r.decision = none) (q : Request) :
    r.match? {} q = (regex.captures? q.path).map fun groups => r.resolved {} [(.path, groups)] := by
  have hsubject : q.subject ({} : Options).caseInsensitiveMethod .path = q.path := rfl
  unfold match? captured?
  rw [htests, List.mapM_cons, hsubject, hdecision]
  cases regex.captures? q.path <;> rfl

/-- A text that is filled with encoded values is matched exactly if no value is empty or has a
dot. -/
theorem isSome_match?_filled {source : String}
    (htests : r.tests = [⟨.path, source, (ofTokens true xs).regex⟩]) (hdecision : r.decision = none)
    (hxs : Separated xs) {value? : String → Option String}
    (hvalues : ∀ name : String, .inr (some name.toList) ∈ xs → (value? name).isSome = true)
    {q : Request} (hq : q.path = String.ofList (filled (encoded value?) xs)) :
    (r.match? {} q).isSome = true ↔ ∀ name v : String, .inr (some name.toList) ∈ xs →
      value? name = some v → v ≠ "" ∧ '.' ∉ v.toList := by
  rw [match?_of_tests htests hdecision, Option.isSome_map, hq, isSome_captures?_filled hxs]
  constructor
  · intro h name v hname hv
    obtain ⟨hne, hall⟩ := h _ hname
    rw [encoded_of_eq_some hv] at hne hall
    exact ⟨mt toList_percentEncode_eq_nil.mpr hne, forall_not_isSeparator_percentEncode.mp hall⟩
  · intro h name hname
    rw [← String.toList_ofList (l := name)] at hname ⊢
    obtain ⟨v, hv⟩ := Option.isSome_iff_exists.mp (hvalues _ hname)
    obtain ⟨hne, hdot⟩ := h _ v hname hv
    rw [encoded_of_eq_some hv]
    exact ⟨mt toList_percentEncode_eq_nil.mp hne, forall_not_isSeparator_percentEncode.mpr hdot⟩

/-- The segments of a literal chain are those of its text, if it has a path. -/
theorem segments_of_build {fs : List Frame} {decision : Option Decision} {isDefault : Bool}
    (hfs : ∀ f ∈ fs, f.IsLiteral) (hr : build (Chain.ofFrames fs) decision isDefault = .ok r) :
    r.segments =
      if Chain.pathText fs = [] then none else some (Segment.split (Chain.pathText fs)) := by
  obtain ⟨tests, params, -, -, rfl⟩ := build_eq_ok_iff.mp hr
  dsimp only
  rw [Chain.getElem?_spellings hfs, spelling?]
  split
  · rfl
  · rw [Option.map_some, Segment.ofPath_spelling]

/-- The route of a literal chain has no patterns. -/
theorem hasPattern_of_build {fs : List Frame} {decision : Option Decision} {isDefault : Bool}
    (hfs : ∀ f ∈ fs, f.IsLiteral) (hr : build (Chain.ofFrames fs) decision isDefault = .ok r) :
    r.hasPattern = false := by
  obtain ⟨tests, params, -, -, rfl⟩ := build_eq_ok_iff.mp hr
  exact Chain.hasPattern_ofFrames hfs

/-- A URL can be generated from a literal chain only if it has a path, and then from its text. -/
theorem segments_of_generate {fs : List Frame} {i : Option Nat} {supply : Supply}
    (hfs : ∀ f ∈ fs, f.IsLiteral) (hr : build (Chain.ofFrames fs) none false = .ok r)
    (h : { r with index := i }.generate supply fallback = .ok url) :
    Chain.pathText fs ≠ [] ∧
      r.segments = some ((runs (Segment.tokens (Chain.pathText fs))).map Segment.ofRun) := by
  have hsegments := segments_of_build hfs hr
  by_cases hnil : Chain.pathText fs = []
  · rw [if_pos hnil] at hsegments
    simp only [generate, hsegments] at h
    split at h <;> cases h
  · rw [if_neg hnil] at hsegments
    exact ⟨hnil, hsegments⟩

/-- A placeholder of a route on a literal chain reads what its last group captured. -/
theorem getElem?_resolved_captures {fs : List Frame} {r : Route} (hfs : ∀ f ∈ fs, f.IsLiteral)
    (hr : build (Chain.ofFrames fs) none false = .ok r)
    (hpieces : Chain.pathPieces fs = (ofTokens true xs).pieces) (hxs : Separated xs)
    {value : List Char → List Char} {name : String} (hname : .inr (some name.toList) ∈ xs)
    (hread : (Chain.ofFrames fs).params[name]? = some (Node.reading name))
    {groups : List (Option String)}
    (hgroups : (ofTokens true xs).regex.captures? (String.ofList (filled value xs)) = some groups) :
    (r.resolved {} [(.path, groups)])[name]? = some (String.ofList (value name.toList)) := by
  -- The last placeholder of the name counts.
  obtain ⟨after, before, hreverse, hafter⟩ :=
    List.eq_append_cons_of_mem (List.mem_reverse.mpr hname)
  have hsplit : xs = before.reverse ++ .inr (some name.toList) :: after.reverse := by
    rw [← List.reverse_reverse xs, hreverse]
    simp
  have hpathPieces : Chain.pathPieces fs = (ofTokens true before.reverse).pieces ++
      .token (some name.toList) :: (ofTokens true after.reverse).pieces := by
    rw [hpieces, hsplit, pieces_ofTokens_append]
    rfl
  have hlast : .token (some name.toList) ∉ (ofTokens true after.reverse).pieces :=
    fun h => hafter (List.mem_reverse.mp (token_mem_pieces_ofTokens.mp h))
  have hcount : (ofTokens true before.reverse).pieces.countP (·.opensGroup) =
      before.reverse.countP (·.isRight) := by
    rw [countP_opensGroup_pieces, groups_ofTokens]
  have htext : groupText [(.path, groups)] .path (before.reverse.countP (·.isRight) + 1) =
      some (String.ofList (value name.toList)) :=
    congrArg Option.join (getElem?_captures?_filled hxs hgroups hsplit)
  rw [getElem?_resolved_reading (fun f hf => (hfs f hf).regular) hr hread hpathPieces hlast, hcount,
    htext, Option.some_or]

end Route

/-! ### Declarations -/

namespace Declaration

/-- The behavior of some conditions on the path, one below the other. -/
theorem run_matchPaths (paths : List Condition) (body : Declaration) (b : Behavior) {s : Progress}
    (ho : s.registry.options = {}) :
    ∃ b' s', b'.chain = (paths.map fun c => Node.ofConditions {} (.ofPath c) ∅).reverse ++ b.chain ∧
      s'.registry.routes = s.registry.routes ∧ s'.registry.options = {} ∧
      (matchPaths paths body).run b s = body.run b' s' := by
  induction paths generalizing b s with
  | nil => exact ⟨b, s, rfl, rfl, ho, rfl⟩
  | cons p paths ih =>
    obtain ⟨⟨o, routes, named, metrics⟩, log⟩ := s
    obtain rfl : o = {} := ho
    obtain ⟨b', s', hchain, hroutes, ho', hrun⟩ := @ih
      ⟨metrics.behaviors, Node.ofConditions {} (.ofPath p) ∅ :: b.chain⟩
      ⟨⟨{}, routes, named, { metrics with behaviors := metrics.behaviors + 1 }⟩, log⟩ rfl
    refine ⟨b', s', ?_, hroutes, ho', hrun⟩
    rw [hchain, List.map_cons, List.reverse_cons, List.append_assoc, List.singleton_append]

/-- The chain of a route with parameters of its own. -/
def ownChain (own : Params) (c : Chain) : Chain :=
  if own.isEmpty then c else Node.ofConditions {} ∅ own :: c

variable {own : Params} {b : Behavior}

/-- A behavior makes the route that its chain describes, and registers nothing yet. -/
theorem exists_route_eq (own : Params) (b : Behavior) {g : Registry} (ho : g.options = {}) :
    ∃ g' : Registry, g'.routes = g.routes ∧
      b.route own none false g =
        Pass.ofBuild (Route.build (ownChain own b.chain) none false) g' := by
  rw [Pass.route_eq]
  unfold ownChain
  split
  · exact ⟨g, rfl, rfl⟩
  · refine ⟨{ g with metrics := { g.metrics with behaviors := g.metrics.behaviors + 1 } }, rfl, ?_⟩
    rw [← ho]
    exact bind_apply _ _ g

/-- A route is registered if its chain describes one. -/
theorem exists_run_route_eq (own : Params) (b : Behavior) {s : Progress}
    (ho : s.registry.options = {}) :
    ∃ g : Registry, g.routes = s.registry.routes ∧
      (route { params := own }).run b s =
        match Route.build (ownChain own b.chain) none false with
        | .ok r => (.ok (), ⟨g.register r, s.log ++ [.registered g.routes.length]⟩)
        | .error e => (.error (.pattern e), { s with registry := g }) := by
  obtain ⟨g, hroutes, hroute⟩ := exists_route_eq own b ho
  refine ⟨g, hroutes, ?_⟩
  have hregister : b.registerKind own .plain s.registry =
      match Route.build (ownChain own b.chain) none false with
      | .ok r => (.ok g.routes.length, g.register r)
      | .error e => (.error (.pattern e), g) := by
    have hpass : b.registerKind own .plain s.registry =
      (b.route own none false >>= fun r => do
        let g ← get
        set (g.register r)
        return g.routes.length) s.registry := rfl
    rw [hpass, bind_apply, hroute]
    cases Route.build (ownChain own b.chain) none false <;> rfl
  -- The registration is followed by the report and by nothing else.
  rw [run, bind_apply, runRoute, bind_apply]
  dsimp only
  unfold Step.ofPass
  rw [hregister]
  cases Route.build (ownChain own b.chain) none false <;> rfl

/-- A route that has been registered is the one that its chain describes. -/
theorem build_of_run {s s' : Progress} (ho : s.registry.options = {})
    (h : (route { params := own }).run b s = (.ok (), s')) :
    ∃ r, Route.build (ownChain own b.chain) none false = .ok r ∧
      s'.registry.routes =
        s.registry.routes ++ [{ r with index := some s.registry.routes.length }] := by
  obtain ⟨g, hroutes, hrun⟩ := exists_run_route_eq own b ho
  rw [hrun] at h
  cases hr : Route.build (ownChain own b.chain) none false with
  | error e =>
    rw [hr] at h
    cases h
  | ok r =>
    rw [hr] at h
    cases h
    refine ⟨r, rfl, ?_⟩
    rw [← hroutes]
    rfl

/-- Below literal conditions, a route is declared at the chain of their frames. -/
theorem runPass_matchPaths (paths : List String) (own : Params) :
    ∃ b s, Chain.ofFrames (Chain.literalFrames paths own ++ [Chain.rootFrame]) =
        ownChain own b.chain ∧
      s.registry.routes = [] ∧ s.registry.options = {} ∧
      (matchPaths (paths.map .literal) (route { params := own })).runPass {} =
        (route { params := own }).run b s := by
  obtain ⟨b, s, hchain, hroutes, ho, hrun⟩ := @run_matchPaths (paths.map .literal)
    (route { params := own }) (Behavior.root {}) { registry := { options := {} } } rfl
  have hroot : Chain.rootFrame.node :: [] = (Behavior.root {}).chain :=
    congrArg (· :: []) (Frame.node_of_conditions ∅ _)
  have hliteral : ∀ p, (Frame.literal p).node = Node.ofConditions {} (.ofPath (.literal p)) ∅ :=
    fun p => Frame.node_of_conditions _ ∅
  refine ⟨b, s, ?_, hroutes, ho, hrun⟩
  rw [hchain, ← hroot, ownChain, Chain.literalFrames]
  split <;> simp [Chain.ofFrames, Function.comp_def, hliteral, Frame.node_of_conditions]

/-- The route that is registered below literal conditions. -/
theorem build_of_runPass {paths : List String} {s : Progress}
    (h : (matchPaths (paths.map .literal) (route { params := own })).runPass {} = (.ok (), s)) :
    ∃ r, Route.build (Chain.ofFrames (Chain.literalFrames paths own ++ [Chain.rootFrame])) none
        false = .ok r ∧
      s.registry.routes = [{ r with index := some 0 }] := by
  obtain ⟨b, s₁, hframes, hroutes, ho, hrun⟩ := runPass_matchPaths paths own
  obtain ⟨r, hr, hregistered⟩ := build_of_run ho (hrun.symm.trans h)
  rw [hroutes] at hregistered
  exact ⟨r, hframes ▸ hr, hregistered⟩

/-- Generated URLs and matches agree. Let a declaration register one route below literal conditions
on the path, of which all but the first start with a slash, and let every placeholder have a name
and stand at the end or before a separator. A URL that is generated from parameters that are all
placeholders is matched by the route exactly if no value is empty or has a dot. A match then gives
to every placeholder its encoded value, unless the route's own parameters replace it. -/
theorem generate_matches_iff {paths : List String}
    (hslash : ∀ p ∈ paths.tail, p.toList.head? = some '/')
    (hseparated : Separated (Segment.tokens (literalPath paths))) {s : Progress}
    (hrun : (matchPaths (paths.map .literal) (route { params := own })).runPass {} =
      (.ok (), s)) :
    ∃ r, s.registry.routes = [r] ∧
      ∀ (ps fallback : Params) (url : String),
        (∀ name ∈ ps, .inr (some name.toList) ∈ Segment.tokens (literalPath paths)) →
        r.generate (.params ps) fallback = .ok url →
        ∀ q : Request, q.path = url →
          ((r.match? {} q).isSome = true ↔
            ∀ name v : String, .inr (some name.toList) ∈ Segment.tokens (literalPath paths) →
              ps[name]?.or fallback[name]? = some v → v ≠ "" ∧ '.' ∉ v.toList) ∧
          ∀ matched, r.match? {} q = some matched →
            ∀ name v : String, .inr (some name.toList) ∈ Segment.tokens (literalPath paths) →
              ps[name]?.or fallback[name]? = some v →
              (∀ w, own[name]? = some w → w = Node.reading name) →
              matched[name]? = some (percentEncode reservedInSegment v) := by
  obtain ⟨r, hr, hroutes⟩ := build_of_runPass hrun
  refine ⟨_, hroutes, fun ps fallback url hkeys hurl q hq => ?_⟩
  have hfs := @Chain.isLiteral_literalFrames paths own
  have hpieces := @Chain.pathPieces_literalFrames paths own hslash
  obtain ⟨hne, hsegments⟩ := Route.segments_of_generate hfs hr hurl
  rw [Chain.pathText_literalFrames] at hne hsegments
  -- The route can be generated, so it has a path, and the path is its only test.
  have htokens : (ofTokens true (Segment.tokens (literalPath paths))).pieces ≠ [] := by
    rw [Ne, pieces_ofTokens_eq_nil, Segment.tokens_eq_nil]
    exact hne
  have htests := Route.tests_of_build hfs hr (tidy_ofTokens (.inl rfl)) hpieces htokens
  have hdecision : r.decision = none := by
    obtain ⟨tests, params, -, -, rfl⟩ := Route.build_eq_ok_iff.mp hr
    rfl
  -- The request path is the text of the conditions, filled with the encoded values.
  obtain ⟨hvalues, hfilled⟩ :=
    Route.generate_eq_ok (r := { r with index := some 0 }) hsegments hkeys hurl
  rw [hfilled] at hq
  refine ⟨Route.isSome_match?_filled htests hdecision hseparated hvalues hq, ?_⟩
  intro matched hmatched name v hname hv hown
  have hread := Chain.getElem?_params_literalFrames hslash hname hown
  have hcaptured : ((ofTokens true (Segment.tokens (literalPath paths))).regex.captures? q.path).map
      (fun groups => r.resolved {} [(.path, groups)]) = some matched :=
    (Route.match?_of_tests htests hdecision q).symm.trans hmatched
  obtain ⟨groups, hgroups, rfl⟩ := Option.map_eq_some_iff.mp hcaptured
  rw [hq] at hgroups
  rw [Route.getElem?_resolved_captures hfs hr hpieces hseparated hname hread hgroups,
    encoded_of_eq_some hv, String.ofList_toList]

/-- An item of a shop. -/
def shopItem : List String := ["/shops/:shop", "/items/:item"]

/-- A shop, and an item whose name has to be encoded. -/
def shopValues : Params := ((∅ : Params).insert "shop" "3").insert "item" "a b"

theorem mem_tokens_shopItem {name : String} (h : name = "shop" ∨ name = "item") :
    .inr (some name.toList) ∈ Segment.tokens (literalPath shopItem) := by
  have hnames : (Segment.tokens (literalPath shopItem)).filterMap Sum.getRight? =
      [some "shop".toList, some "item".toList] := by
    decide +kernel
  have hright : some name.toList ∈
      (Segment.tokens (literalPath shopItem)).filterMap Sum.getRight? := by
    rw [hnames]
    rcases h with rfl | rfl
    · exact List.mem_cons_self
    · exact List.mem_cons_of_mem _ List.mem_cons_self
  obtain ⟨x, hx, hname⟩ := List.mem_filterMap.mp hright
  rwa [Sum.getRight?_eq_some_iff.mp hname] at hx

theorem getElem?_shopValues {name v : String} (h : shopValues[name]? = some v) :
    name = "shop" ∧ v = "3" ∨ name = "item" ∧ v = "a b" := by
  rw [shopValues, Std.ExtTreeMap.getElem?_insert, Std.ExtTreeMap.getElem?_insert,
    Std.ExtTreeMap.getElem?_empty] at h
  simp only [Std.compare_eq_iff_eq] at h
  split_ifs at h with hitem hshop
  · exact .inr ⟨hitem.symm, (Option.some.inj h).symm⟩
  · exact .inl ⟨hshop.symm, (Option.some.inj h).symm⟩

/-- The URL of an item matches, and its encoded name is captured. -/
theorem generate_matches_iff_shopItem :
    (∀ p ∈ shopItem.tail, p.toList.head? = some '/') ∧
      Separated (Segment.tokens (literalPath shopItem)) ∧
      ∃ s r, (matchPaths (shopItem.map .literal) (route {})).runPass {} = (.ok (), s) ∧
        s.registry.routes = [r] ∧
        r.generate (.params shopValues) ∅ = .ok "/shops/3/items/a%20b" ∧
        ∀ q : Request, q.path = "/shops/3/items/a%20b" →
          ∃ matched, r.match? {} q = some matched ∧ matched["item"]? = some "a%20b" := by
  have hslash : ∀ p ∈ shopItem.tail, p.toList.head? = some '/' := by decide
  have hseparated : Separated (Segment.tokens (literalPath shopItem)) := by decide +kernel
  have hok : ((matchPaths (shopItem.map .literal) (route {})).runPass {}).1.isOk = true := by
    decide +kernel
  have hgenerated :
      ((matchPaths (shopItem.map .literal) (route {})).runPass {}).2.registry.routes.map
        (fun r => (r.generate (.params shopValues) ∅).toOption) =
      [some "/shops/3/items/a%20b"] := by
    decide +kernel
  have hencoded : percentEncode reservedInSegment "a b" = "a%20b" := by decide +kernel
  rcases hrun : (matchPaths (shopItem.map .literal) (route {})).runPass {} with ⟨e | ⟨⟨⟩⟩, s⟩
  · rw [hrun] at hok
    cases hok
  obtain ⟨r, hroutes, h⟩ := generate_matches_iff hslash hseparated hrun
  rw [hrun, hroutes] at hgenerated
  have hurl : r.generate (.params shopValues) ∅ = .ok "/shops/3/items/a%20b" :=
    toOption_eq_some_iff.mp (List.cons.inj hgenerated).1
  have hkeys : ∀ name ∈ shopValues,
      .inr (some name.toList) ∈ Segment.tokens (literalPath shopItem) := by
    intro name hname
    obtain ⟨v, hv⟩ := Option.isSome_iff_exists.mp (Std.ExtTreeMap.mem_iff_isSome_getElem?.mp hname)
    exact mem_tokens_shopItem ((getElem?_shopValues hv).imp And.left And.left)
  refine ⟨hslash, hseparated, s, r, rfl, hroutes, hurl, fun q hq => ?_⟩
  obtain ⟨hiff, hcaptured⟩ := h shopValues ∅ _ hkeys hurl q hq
  have hmatched : (r.match? {} q).isSome = true := by
    refine hiff.mpr fun name v _ hv => ?_
    rw [Std.ExtTreeMap.getElem?_empty, Option.or_none] at hv
    rcases getElem?_shopValues hv with ⟨-, rfl⟩ | ⟨-, rfl⟩
    · decide
    · decide
  obtain ⟨matched, hmatched⟩ := Option.isSome_iff_exists.mp hmatched
  refine ⟨matched, hmatched, ?_⟩
  have hown : ∀ w, (∅ : Params)["item"]? = some w → w = Node.reading "item" := by
    intro w hw
    rw [Std.ExtTreeMap.getElem?_empty] at hw
    cases hw
  rw [hcaptured matched hmatched "item" "a b" (mem_tokens_shopItem (.inr rfl)) (by decide +kernel)
    hown, hencoded]

end Declaration

end HttpRouting
