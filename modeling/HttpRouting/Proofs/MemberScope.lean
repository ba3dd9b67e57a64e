import HttpRouting.Proofs.MatchedParams
import HttpRouting.Proofs.PluralResource
import HttpRouting.Proofs.ResourceNests

/-!
# Routes inside a member

A plural resource puts the routes inside it below a placeholder, whose name is the singular of the
resource with an ending. The name of a resource may have dashes and may start with a digit, which an
identifier may not. So the text of the placeholder is read as a placeholder of that name exactly if
the name of the resource is an identifier. Otherwise the route inside is registered all the same,
but no match of it has the identifier of the member.

## Main definitions

* `memberKey` — the name of the placeholder of a member
* `memberFrames` — the steps of a route inside a member
* `insideMember` — a resource with one route inside

## Main results

* `isIdentifier_memberKey_iff` — when the name of the placeholder is an identifier
* `Chain.hasShape_memberFrames` — the path of a route inside a member
* `Router.member_bound_iff` — when a route inside a member reads the identifier of the member
-/

namespace HttpRouting

open Placeholder Shape

/-! ### Singular forms of identifiers -/

namespace Identifier

variable {cs ds : List Char} {e : String} {n : Nat}

/-- The end of a word that is replaced in its singular consists of letters. -/
theorem isStart_of_endsIn (h : endsIn (cs.map Char.toLower) e = true)
    (he : e.toList.all isStart = true) (hn : n ≤ e.toList.length) :
    ∀ c ∈ cs.drop (cs.length - n), isStart c = true := by
  obtain ⟨stem, hstem⟩ := List.isSuffixOf_iff_suffix.mp h
  intro c hc
  have hlength := congrArg List.length hstem
  rw [List.length_append, List.length_map] at hlength
  have hdrop : (cs.map Char.toLower).drop (cs.length - n) =
      e.toList.drop (e.toList.length - n) := by
    have hcut : cs.length - n = stem.length + (e.toList.length - n) := by omega
    rw [← hstem, hcut, List.drop_length_add_append]
  have hmem : c.toLower ∈ e.toList := by
    refine List.mem_of_mem_drop (i := e.toList.length - n) ?_
    rw [← hdrop, ← List.map_drop]
    exact List.mem_map_of_mem hc
  rw [← isStart_toLower]
  exact List.all_eq_true.mp he _ hmem

/-- What an identifier starts with, if it is not empty, is an identifier. -/
theorem isIdentifier_left (hcs : cs ≠ []) (h : isIdentifier (cs ++ ds) = true) :
    isIdentifier cs = true := by
  have htake := isIdentifier_take h (mt List.eq_nil_of_length_eq_zero hcs)
  rwa [List.take_left] at htake

/-- A word whose end has been replaced was an identifier, if the end consisted of letters. -/
theorem isIdentifier_of_replaceEnd (hcs : cs ≠ []) (h : isIdentifier (replaceEnd cs n e) = true)
    (hend : ∀ c ∈ cs.drop (cs.length - n), isStart c = true) : isIdentifier cs = true := by
  rw [← List.take_append_drop (cs.length - n) cs]
  by_cases hstem : cs.take (cs.length - n) = []
  · rw [hstem, List.nil_append]
    -- The whole word is the end.
    cases hdrop : cs.drop (cs.length - n) with
    | nil =>
      rw [← List.take_append_drop (cs.length - n) cs, hstem, hdrop] at hcs
      exact absurd rfl hcs
    | cons c rest =>
      rw [hdrop, List.forall_mem_cons] at hend
      refine Bool.and_eq_true_iff.mpr ⟨hend.1, List.all_eq_true.mpr fun d hd => ?_⟩
      exact isRest_of_isStart (hend.2 d hd)
  · exact isIdentifier_append (isIdentifier_left hstem h) fun c hc => isRest_of_isStart (hend c hc)

/-- A word whose singular is an identifier is an identifier. -/
theorem isIdentifier_of_singularChars (hcs : cs ≠ [])
    (h : isIdentifier (singularChars cs) = true) : isIdentifier cs = true := by
  have hendings : ∀ q ∈ replacements,
      q.1.toList.all isStart = true ∧ q.2.1 ≤ q.1.toList.length := by decide
  rcases singularChars_cases cs with heq | ⟨ending, n, e, heq, hmem, hends, -⟩
  · rwa [heq] at h
  · -- Whatever is replaced is a part of the ending that has been found.
    obtain ⟨hstart, hlength⟩ := hendings _ hmem
    rw [heq] at h
    exact isIdentifier_of_replaceEnd hcs h (isStart_of_endsIn hends hstart hlength)

end Identifier

/-! ### Paths inside a member -/

/-- The name of the placeholder of a member. -/
def memberKey (w : String) : String := singularize w ++ "_id"

/-- The name of the placeholder is an identifier if the name of the resource is one. -/
theorem isIdentifier_memberKey_iff {w : String} (hw : isWord w = true) :
    Identifier.isIdentifier (memberKey w).toList = true ↔
      Identifier.isIdentifier w.toList = true := by
  have hne : w.toList ≠ [] := (isPart_of_isWord hw).1
  have hsingular := (length_singularChars hne).2
  rw [memberKey, String.toList_append, singularize, String.toList_ofList]
  constructor
  · intro h
    exact Identifier.isIdentifier_of_singularChars hne (Identifier.isIdentifier_left hsingular h)
  · intro h
    exact Identifier.isIdentifier_append (Identifier.isIdentifier_singularChars h)
      (List.all_eq_true.mp (by decide))

/-- The steps of a route at a path inside a member. -/
def memberFrames (w path : String) : List Frame :=
  [Frame.literal path, Behavior.memberFrame w [], Frame.literal ("/" ++ w)] ++ [Chain.rootFrame]

/-- The characters and placeholders of such a path. -/
def memberTokens (w c : String) : Tokens :=
  ('/' :: w.toList).map .inl ++ Segment.tokens ('/' :: ':' :: (memberKey w).toList) ++
    ('/' :: c.toList).map .inl

section Paths

variable {w c : String}

theorem isLiteral_memberFrames (w path : String) : ∀ f ∈ memberFrames w path, f.IsLiteral :=
  List.forall_mem_cons.mpr ⟨Frame.isLiteral_literal _,
    List.forall_mem_cons.mpr ⟨Frame.isLiteral_literal _, isLiteral_resourceFrames w⟩⟩

theorem plainParams_memberFrames (w path : String) : PlainParams (memberFrames w path) := by
  have hempty : ∀ name value : String, (∅ : Params)[name]? = some value →
      Template.IsPlain value := by
    intro name value h
    rw [Std.ExtTreeMap.getElem?_empty] at h
    cases h
  exact List.forall_mem_cons.mpr ⟨hempty,
    List.forall_mem_cons.mpr ⟨hempty, plainParams_resourceFrames w⟩⟩

theorem Chain.hasShape_memberFrames (hw : isWord w = true) (hc : isWord c = true) :
    HasShape (memberFrames w ("/" ++ c)) (ofTokens true (memberTokens w c)) where
  regular f hf := (isLiteral_memberFrames w ("/" ++ c) f hf).regular
  tidy := tidy_ofTokens (.inl rfl)
  pieces := by
    have hmember : (Behavior.memberFrame w []).IsLiteral := Frame.isLiteral_literal _
    rw [memberTokens, pieces_ofTokens_append, pieces_ofTokens_append, ← Frame.pieces_literal hw,
      ← Frame.pieces_literal hc, memberKey, ← text_memberFrame w [], ← ofText, ← hmember.pieces_eq]
    simp [memberFrames, pathPieces, rootFrame, Frame.pieces_of_params]
  ne_nil := by
    rw [Ne, pieces_ofTokens_eq_nil]
    exact List.cons_ne_nil _ _

/-- Characters in front of a shape have no values. -/
theorem Shape.value?_ofTokens_append {cs : List Char} {xs : Tokens} {gs : Groups}
    {name : List Char} :
    (ofTokens true (cs.map .inl ++ xs)).value? gs name = (ofTokens true xs).value? gs name := by
  induction cs with
  | nil => rfl
  | cons c cs ih => rw [List.map_cons, List.cons_append, value?_ofTokens_inl, ih]

/-- Characters in front of a shape are read in front of it. -/
theorem Shape.reads_ofTokens_append {cs t : List Char} {xs : Tokens} {gs : Groups} :
    (ofTokens true (cs.map .inl ++ xs)).Reads t gs ↔
      ∃ t', t = cs ++ t' ∧ (ofTokens true xs).Reads t' gs := by
  induction cs generalizing t with
  | nil => simp
  | cons c cs ih =>
    rw [List.map_cons, List.cons_append, reads_ofTokens_inl]
    simp only [ih]
    constructor
    · rintro ⟨_, rfl, t', rfl, h⟩
      exact ⟨t', rfl, h⟩
    · rintro ⟨t', rfl, h⟩
      exact ⟨_, rfl, t', rfl, h⟩

/-- If the name of the resource is an identifier, there is one placeholder on the path. -/
theorem memberTokens_eq (hw : isWord w = true) (hid : Identifier.isIdentifier w.toList = true) :
    memberTokens w c = ('/' :: (w.toList ++ ['/'])).map .inl ++
      .inr (some (memberKey w).toList) :: ('/' :: c.toList).map .inl := by
  rw [memberTokens, tokens_key ((isIdentifier_memberKey_iff hw).mpr hid)]
  simp

/-- Such a path reads a part for the placeholder. -/
theorem reads_memberTokens (hw : isWord w = true) (hid : Identifier.isIdentifier w.toList = true)
    {t : List Char} {gs : Groups} :
    (ofTokens true (memberTokens w c)).Reads t gs ↔ ∃ v, IsPart v ∧
      t = '/' :: (w.toList ++ ['/']) ++ (v ++ '/' :: c.toList) ∧ gs = [some v] := by
  rw [memberTokens_eq hw hid, Shape.reads_ofTokens_append]
  constructor
  · rintro ⟨t', rfl, h⟩
    obtain ⟨v, _, _, hv, rfl, rfl, hrest⟩ := reads_ofTokens_inr.mp h
    obtain ⟨rfl, rfl⟩ := reads_ofTokens_map_inl.mp hrest
    exact ⟨v, hv, rfl, rfl⟩
  · rintro ⟨v, hv, rfl, rfl⟩
    exact ⟨_, rfl, reads_ofTokens_inr.mpr
      ⟨v, _, [], hv, rfl, rfl, reads_ofTokens_map_inl.mpr ⟨rfl, rfl⟩⟩⟩

theorem value?_memberTokens (hw : isWord w = true) (hid : Identifier.isIdentifier w.toList = true)
    (v : List Char) :
    (ofTokens true (memberTokens w c)).value? [some v] (memberKey w).toList = some v := by
  rw [memberTokens_eq hw hid, Shape.value?_ofTokens_append, value?_ofTokens_inr_self (by simp)]

/-- The placeholder is on the path exactly if the name of the resource is an identifier. -/
theorem key_mem_pieces_iff (hw : isWord w = true) (hc : isWord c = true) :
    .token (some (memberKey w).toList) ∈ (ofTokens true (memberTokens w c)).pieces ↔
      Identifier.isIdentifier w.toList = true := by
  constructor
  -- Placeholders on any path are named by identifiers, whatever text they have been read from.
  · intro h
    obtain ⟨s, hs⟩ := Chain.exists_shape (Chain.hasShape_memberFrames hw hc).regular
    rw [← (Chain.hasShape_memberFrames hw hc).pieces] at h
    exact (isIdentifier_memberKey_iff hw).mp (hs.identifiers _ h)
  · intro hid
    rw [token_mem_pieces_ofTokens, memberTokens_eq hw hid]
    exact List.mem_append_right _ List.mem_cons_self

theorem memberKey_ne_action (w : String) : memberKey w ≠ "action" := by
  intro heq
  have hlast := congrArg (fun s : String => s.toList.getLast?) heq
  simp [memberKey] at hlast

/-- The parameter of the identifier reads the placeholder, if there is one, and is not there
otherwise. -/
theorem getElem?_allParams_memberFrames (hw : isWord w = true) (hc : isWord c = true) :
    (Chain.ofFrames (memberFrames w ("/" ++ c))).allParams[memberKey w]? =
      if Identifier.isIdentifier w.toList then some (Node.reading (memberKey w)) else none := by
  have hs := Chain.hasShape_memberFrames hw hc
  have hempty : (∅ : Params)[memberKey w]? = none := Std.ExtTreeMap.getElem?_empty
  have hnone : ∀ f ∈ [Frame.literal ("/" ++ c), Behavior.memberFrame w [],
      Frame.literal ("/" ++ w)], f.params[memberKey w]? = none :=
    List.forall_mem_cons.mpr ⟨hempty, List.forall_mem_cons.mpr ⟨hempty,
      List.forall_mem_singleton.mpr hempty⟩⟩
  split
  · next hid =>
    refine Chain.getElem?_allParams_reading (fun f hf => ?_) ?_ fun f hf v hv => ?_
    · exact hs.regular f (List.mem_append_left _ hf)
    · rw [← memberFrames, hs.pieces]
      exact (key_mem_pieces_iff hw hc).mpr hid
    · cases (hnone f hf).symm.trans hv
  · next hid =>
    rw [Option.eq_none_iff_forall_ne_some]
    intro value h
    rcases Chain.getElem?_allParams_eq_some hs.regular h with ⟨f, hf, hvalue⟩ | ⟨-, htoken⟩
    · rcases List.mem_append.mp hf with hf | hf
      · cases (hnone f hf).symm.trans hvalue
      · -- Only the action is given at the root.
        obtain rfl := List.mem_singleton.mp hf
        rw [Chain.rootFrame, Std.ExtTreeMap.getElem?_insert,
          if_neg (by simpa using (memberKey_ne_action w).symm), hempty] at hvalue
        cases hvalue
    · rw [hs.pieces] at htoken
      exact hid ((key_mem_pieces_iff hw hc).mp htoken)

end Paths

/-! ### The route -/

/-- A plural resource with one route inside, at a path of one word. -/
def insideMember (w c : String) : Declaration :=
  .resources w {} (.matchPath (.literal ("/" ++ c)) (.route {}))

section Route

variable {w c : String} {r : Route}

/-- The route inside a member, which is described by its steps. -/
theorem exists_build_memberFrames (w path : String) :
    ∃ r, Route.build (Chain.ofFrames (memberFrames w path)) none false = .ok r :=
  Route.exists_build_of_literal (isLiteral_memberFrames w path)
    (fun f hf name value hvalue => Template.inr_not_mem_references
      (plainParams_memberFrames w path f hf name value hvalue)) none false

/-- A resource with a route inside adds its routes, and then that route. -/
theorem declares_insideMember (hw : isWord w = true)
    (hr : Route.build (Chain.ofFrames (memberFrames w ("/" ++ c))) none false = .ok r) :
    ((insideMember w c).run (Behavior.root {})).Declares
      ((resourceRoutes [] []).map (·.route (resourceFrames w) w) ++ [r])
      ((resourceLinks w (singularize w) [] []).map fun l =>
        (l.name, l.route (resourceFrames w) w)) := by
  rw [← List.append_nil (List.map _ (resourceLinks _ _ _ _))]
  refine Step.declares_ofPass_bind (Behavior.declares_resources ⟨hw, rfl, rfl⟩) fun a ha => ?_
  refine Step.Declares.report ?_ _
  rw [← List.nil_append [r], ← List.nil_append ([] : NamedRoutes)]
  refine Step.declares_ofPass_bind Pass.declares_child fun b hb => ?_
  refine Step.declares_run_route (Pass.declares_register (Pass.declares_route ?_))
  rw [if_pos Std.ExtTreeMap.isEmpty_empty, hb, ha, ← Frame.node_of_conditions]
  exact hr

/-- The word of a resource with a route inside has been accepted. -/
theorem isWord_of_succeeds (h : (insideMember w c).succeeds {} = true) : isWord w = true := by
  obtain ⟨a, s, hstep, -⟩ := bind_eq_ok (Router.runPass_of_succeeds h)
  exact (Declaration.resourceChecks_of_resources (Step.eq_ok_of_ofPass hstep)).name

section Answers

variable (hw : isWord w = true) (hc : isWord c = true)
  (hr : Route.build (Chain.ofFrames (memberFrames w ("/" ++ c))) none false = .ok r)
include hw hc hr

/-- Below an identifier, the route reads the identifier of the member. -/
theorem exists_match?_memberFrames (hid : Identifier.isIdentifier w.toList = true) {v : String}
    (hv : IsPart v.toList) {q : Request} (hq : q.path = "/" ++ w ++ "/" ++ v ++ "/" ++ c) :
    ∃ ps, r.match? {} q = some ps ∧ ps[memberKey w]? = some v := by
  have hs := Chain.hasShape_memberFrames hw hc
  have hpath : q.path.toList = '/' :: (w.toList ++ ['/']) ++ (v.toList ++ '/' :: c.toList) := by
    simp [hq]
  have hmatch : (r.match? {} q).isSome = true := by
    refine (Route.isSome_match?_iff_reads hs hr).mpr ⟨⟨[some v.toList], ?_⟩, ?_⟩
    · exact (reads_memberTokens hw hid).mpr ⟨v.toList, hv, hpath, rfl⟩
    · intro k source regex hk hsource
      rw [Chain.getElem?_conditions_of_ne (isLiteral_memberFrames w _) hk] at hsource
      cases hsource
  obtain ⟨ps, hps⟩ := Option.isSome_iff_exists.mp hmatch
  obtain ⟨gs, hreads, hanswers⟩ := Route.exists_reads_of_match? hs hr hps
  refine ⟨ps, hps, ?_⟩
  -- What has been read is the only part between the two words.
  obtain ⟨v', -, hpath', rfl⟩ := (reads_memberTokens hw hid).mp hreads
  have hparts := List.append_cancel_left (hpath.symm.trans hpath')
  obtain rfl := List.append_cancel_right hparts
  have hgiven := getElem?_allParams_memberFrames hw hc
  rw [if_pos hid] at hgiven
  rw [hanswers.reading _ _ hgiven ((key_mem_pieces_iff hw hc).mpr hid),
    value?_memberTokens hw hid, Option.map_some, String.ofList_toList, Option.some_or]

/-- Below any other word, no match has the identifier of the member. -/
theorem getElem?_memberKey_of_match? (hid : ¬Identifier.isIdentifier w.toList = true)
    {q : Request} {ps : Params} (h : r.match? {} q = some ps) : ps[memberKey w]? = none := by
  obtain ⟨gs, -, hanswers⟩ :=
    Route.exists_reads_of_match? (Chain.hasShape_memberFrames hw hc) hr h
  refine hanswers.absent _ ?_
  rw [getElem?_allParams_memberFrames hw hc, if_neg hid]

end Answers

end Route

namespace Router

/-- A resource with a singular of its own can have a route inside. -/
theorem exists_yields_insideMember {w : String} (hw : isWord w = true) (hs : singularize w ≠ w)
    (c : String) : ∃ t, Yields { options := {} } [(.replace, insideMember w c)] t := by
  obtain ⟨r, hr⟩ := exists_build_memberFrames w ("/" ++ c)
  obtain ⟨s, hrun, -⟩ := (declares_insideMember hw hr).adds { registry := { options := {} } } rfl
    (free_resourceLinks hw hs)
  exact ⟨_, yields_replace hrun⟩

/-- The route inside stands behind the eight routes of the resource. -/
theorem exists_route_insideMember {w c : String} {t : Table}
    (h : Yields { options := {} } [(.replace, insideMember w c)] t) :
    isWord w = true ∧ ∃ r, Route.build (Chain.ofFrames (memberFrames w ("/" ++ c))) none false =
      .ok r ∧ t.routes[8]? = some { r with index := some 8 } := by
  have hsucceeds := h.1 _ List.mem_cons_self
  have hw := isWord_of_succeeds hsucceeds
  have hrun := runPass_of_succeeds hsucceeds
  obtain ⟨r, hr⟩ := exists_build_memberFrames w ("/" ++ c)
  have hadds := (declares_insideMember hw hr).of_eq_ok rfl hrun
  obtain rfl := Except.ok.inj (h.2.symm.trans (yields_replace hrun).2)
  refine ⟨hw, r, hr, ?_⟩
  -- The routes of the resource come first, and the table counts places from 0.
  have hlength : ((resourceRoutes [] []).map (·.route (resourceFrames w) w)).length = 8 := by
    rw [List.length_map]
    rfl
  rw [Table.compile, getElem?_reindex, hadds.routes, List.nil_append, getElem?_reindex, ← hlength,
    List.getElem?_concat_length]
  rfl

/-- When a route inside a member reads the identifier of the member. Let a plural resource with a
route inside be declared on a default router. The route stands behind the eight routes of the
resource. If the name of the resource is an identifier, the route matches its path with any part for
the identifier of the member, and the match has this part. If the name is any other word, no match
of the route has the identifier at all. -/
theorem member_bound_iff {w c : String} {t : Table} (hc : isWord c = true)
    (h : Yields { options := {} } [(.replace, insideMember w c)] t) :
    ∃ r, t.routes[8]? = some r ∧
      (Identifier.isIdentifier w.toList = true → ∀ (v : String) (q : Request), IsPart v.toList →
        q.path = "/" ++ w ++ "/" ++ v ++ "/" ++ c →
        ∃ ps, r.match? {} q = some ps ∧ ps[singularize w ++ "_id"]? = some v) ∧
      (¬Identifier.isIdentifier w.toList = true → ∀ (q : Request) (ps : Params),
        r.match? {} q = some ps → ps[singularize w ++ "_id"]? = none) := by
  obtain ⟨hw, r, hr, hroute⟩ := exists_route_insideMember h
  refine ⟨_, hroute, fun hid v q hv hq => ?_, fun hid q ps hps => ?_⟩
  · exact exists_match?_memberFrames hw hc hr hid hv hq
  · exact getElem?_memberKey_of_match? hw hc hr hid hps

/-- The comments of a post have the identifier of the post. -/
theorem member_bound_posts : isWord "comments" = true ∧
    ∃ t, Yields { options := {} } [(.replace, insideMember "posts" "comments")] t ∧
    ∃ r, t.routes[8]? = some r ∧ ∀ q : Request, q.path = "/posts/a b/comments" →
      ∃ ps, r.match? {} q = some ps ∧ ps["post_id"]? = some "a b" := by
  have hc : isWord "comments" = true := by decide
  have hs : singularize "posts" = "post" := by decide +kernel
  obtain ⟨t, ht⟩ := exists_yields_insideMember (w := "posts") (by decide) (by rw [hs]; decide)
    "comments"
  obtain ⟨r, hr, hbound, -⟩ := member_bound_iff hc ht
  refine ⟨hc, t, ht, r, hr, fun q hq => ?_⟩
  have hmatch := hbound (by decide) "a b" q (by decide) hq
  rwa [hs] at hmatch

/-- A word with a dash can be declared, but the route inside does not have the identifier of the
member. -/
theorem member_not_bound_blogPosts :
    ∃ t, Yields { options := {} } [(.replace, insideMember "blog-posts" "x")] t ∧
    ∃ r, t.routes[8]? = some r ∧ ¬∃ ps, r.match? {} { method := "GET", path := "/blog-posts/v/x" } =
      some ps ∧ ps[singularize "blog-posts" ++ "_id"]? = some "v" := by
  have hw : isWord "blog-posts" = true := by decide
  have hs : singularize "blog-posts" = "blog-post" := by decide +kernel
  obtain ⟨t, ht⟩ := exists_yields_insideMember hw (by rw [hs]; decide) "x"
  obtain ⟨-, r, hr, hroute⟩ := exists_route_insideMember ht
  refine ⟨t, ht, _, hroute, ?_⟩
  rintro ⟨ps, hps, hvalue⟩
  have hnone := getElem?_memberKey_of_match? hw (c := "x") (by decide) hr (by decide) hps
  cases hnone.symm.trans hvalue

end Router

end HttpRouting
