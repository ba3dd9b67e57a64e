import HttpRouting.Proofs.ResourceRoutes
import HttpRouting.Proofs.RoundTrip

/-!
# The named routes of a plural resource

The named routes of a resource only generate, and other routes answer. A URL from one of them leads
back to its action all the same: the routes that cover its path before the one that is meant have
that action, too. Only the URL of a member can be that of something else, when the identifier is the
word of a route on the collection.

## Main definitions

* `NamesAction` — the named routes of a resource, with their actions and methods
* `firstRoutes` — the routes before those of the members
* `Table.LeadsBack` — a URL of a named route is answered by an action

## Main results

* `Table.exists_firstMatch?_append` — an answer from the first matchers
* `Table.Offers.generate_link` — the URL of a named route
* `Table.Offers.match?_of_stem` — the answer at a path with a stem
* `Table.Offers.leadsBack` — what a named route has to have, so that it leads back to an action
* `Router.resource_urls` — URLs of named routes lead back to their actions
-/

namespace HttpRouting

open Placeholder Shape

/-- The named routes of a resource: the name, the action that it is for, the identifier that its
path takes if one is given, and the methods of the action. -/
inductive NamesAction (w : String) (member collection : List (String × MethodSet)) (v : String) :
    (name action : String) → (id : Option String) → MethodSet → Prop where
  /-- The collection. -/
  | index : NamesAction w member collection v w "index" none (.single .get)
  /-- A member. -/
  | show : NamesAction w member collection v (singularize w) "show" (some v) (.single .get)
  /-- The form to create a member. -/
  | new : NamesAction w member collection v ("new_" ++ singularize w) "new" none (.single .get)
  /-- The form to edit a member. -/
  | edit :
      NamesAction w member collection v ("edit_" ++ singularize w) "edit" (some v) (.single .get)
  /-- The form to delete a member. -/
  | delete :
      NamesAction w member collection v ("delete_" ++ singularize w) "delete" (some v)
        (.single .get)
  /-- A further action on a member. -/
  | member {action : String} {methods : MethodSet} (h : (action, methods) ∈ member) :
      NamesAction w member collection v (action ++ "_" ++ singularize w) action (some v) methods
  /-- A further action on the collection. -/
  | collection {action : String} {methods : MethodSet} (h : (action, methods) ∈ collection) :
      NamesAction w member collection v (action ++ "_" ++ w) action none methods

variable {w : String} {member collection : List (String × MethodSet)} {t : Table}

/-- What a table offers after a resource has been declared. -/
abbrev OffersResource (t : Table) (w : String) (member collection : List (String × MethodSet)) :
    Prop :=
  t.Offers ((resourceRoutes member collection).map (·.route (resourceFrames w) w))
    ((resourceLinks w (singularize w) member collection).map fun l =>
      (l.name, l.route (resourceFrames w) w))

/-! ### URLs -/

/-- The steps of words. -/
def wordStem (words : List String) : Stem := Stem.slashed (words.map String.toList)

/-- The steps of an identifier. -/
def idStem : Option String → Stem
  | some v => [('/', (percentEncode reservedInSegment v).toList)]
  | none => []

/-- The placeholder of an identifier, where there is one. -/
def idTokens : Option String → Tokens
  | some _ => [.inl '/', .inr (some "id".toList)]
  | none => []

/-- The literal path to a member, or to the collection if no identifier is given. -/
def idPath : Option String → String
  | some _ => "/:id"
  | none => ""

section Generation

variable {id : Option String} {words : List String}

theorem plain_wordStem (h : ∀ a ∈ words, isWord a = true) : ':' ∉ (wordStem words).text := by
  intro hmem
  obtain ⟨_, hstep, hmem⟩ := List.mem_flatMap.mp hmem
  obtain ⟨_, hword, rfl⟩ := List.mem_map.mp hstep
  obtain ⟨a, ha, rfl⟩ := List.mem_map.mp hword
  rcases List.mem_cons.mp hmem with heq | hmem
  · exact absurd heq (by simp)
  · exact colon_not_mem_of_isWord (h a ha) hmem

/-- A named route is empty or starts with a slash. -/
theorem head_linkPath (id : Option String) (words : List String) :
    ∀ c ∈ ((idPath id).toList ++ (wordStem words).text).head?, c = '/' := by
  cases id with
  | some v => simp [idPath]
  | none => cases words with
    | nil => nofun
    | cons a words => exact fun c hc => (Option.some.inj hc).symm

/-- What follows a named route does not go on with its last placeholder. -/
theorem closed_linkPath (id : Option String) (words : List String) :
    Closed ((idPath id).toList ++ (wordStem words).text) := by
  intro c hc
  obtain rfl := head_linkPath id words c hc
  decide

theorem tokens_idPath (id : Option String) : Segment.tokens (idPath id).toList = idTokens id := by
  cases id with
  | some v => exact ResourcePath.tokens_member
  | none => exact Segment.tokens_eq_nil.mpr rfl

theorem inr_mem_idTokens {name : Option (List Char)} :
    .inr name ∈ idTokens id ↔ name = some "id".toList ∧ id.isSome = true := by
  cases id <;> simp [idTokens]

/-- The tokens of the path of a named route. -/
theorem tokens_linkPath (hw : isWord w = true) (hwords : ∀ a ∈ words, isWord a = true) :
    Segment.tokens ('/' :: w.toList ++ ((idPath id).toList ++ (wordStem words).text)) =
      ('/' :: w.toList).map .inl ++ (idTokens id ++ ((wordStem words).text.map .inl)) := by
  have hclosed : Closed (wordStem words).text := closed_linkPath none words
  rw [Segment.tokens_append (Segment.not_continues_of_closed (closed_linkPath id words) _),
    ResourcePath.tokens_word hw,
    Segment.tokens_append (Segment.not_continues_of_closed hclosed _),
    tokens_idPath, Segment.tokens_of_plain (plain_wordStem hwords)]

/-- Filled with an identifier, the path of a named route is that of its stem. -/
theorem filled_linkPath {value? : String → Option String} (h : ∀ v ∈ id, value? "id" = some v)
    (cs ds : List Char) :
    filled (encoded value?) (cs.map .inl ++ (idTokens id ++ ds.map .inl)) =
      cs ++ ((idStem id).text ++ ds) := by
  have hfilled : filled (encoded value?) (ds.map .inl) = ds := by
    have hall := filled_map_inl (encoded value?) ds []
    rwa [List.append_nil, filled, List.append_nil] at hall
  rw [filled_map_inl]
  congr 1
  cases id with
  | none => exact hfilled
  | some v =>
    have hvalue := encoded_of_eq_some (h v rfl)
    rw [idTokens, List.cons_append, List.singleton_append, filled, filled, hvalue, hfilled, idStem]
    simp [Stem.text]

/-- A named route generates the path that its stem says, and takes nothing else into it. -/
theorem Table.Offers.generate_link (h : OffersResource t w member collection)
    (hchecks : ResourceChecks w member collection) {l : ResourceLink}
    (hl : l ∈ resourceLinks w (singularize w) member collection)
    (hpath : l.path.toList = (idPath id).toList ++ (wordStem words).text)
    (hwords : ∀ a ∈ words, isWord a = true) (fallback : Params) :
    t.generate l.name (.params ((∅ : Params).insertSome "id" id)) fallback =
      .ok (String.ofList (Stem.text (('/', w.toList) :: (idStem id ++ wordStem words)))) := by
  have hfs := @ResourceLink.isLiteral_frames _ w l (isLiteral_resourceFrames w)
  have hbuild := ResourceLink.build_route (isLiteral_resourceFrames w)
    (plainParams_resourceFrames w) (isPlain_of_isWord hchecks.name) (hchecks.isWord_links _ _ l hl)
  have hpattern := Route.hasPattern_of_build hfs hbuild
  have htext : Chain.pathText (l.frames (resourceFrames w) w) =
      '/' :: w.toList ++ ((idPath id).toList ++ (wordStem words).text) := by
    rw [ResourceLink.frames, resourceFrames, Chain.rootFrame, Chain.pathText, Chain.pathText,
      Chain.pathText, Chain.pathText, Chain.pathText, Frame.text_of_params, Frame.text_of_params,
      Frame.text_literal, Frame.text_literal, literalText_of_slash (by simp),
      literalText_of_slash (hpath ▸ head_linkPath id words), hpath]
    simp
  -- The segments of the route are the collection, perhaps the placeholder, and words.
  have hsegments := Route.segments_of_build hfs hbuild
  rw [htext, if_neg (by simp), Segment.split, tokens_linkPath hchecks.name hwords]
    at hsegments
  have hmem : ∀ {name}, .inr name ∈ ('/' :: w.toList).map .inl ++
      (idTokens id ++ (wordStem words).text.map .inl) ↔
        name = some "id".toList ∧ id.isSome = true := by
    intro name
    rw [← inr_mem_idTokens]
    simp
  have hnamed : .inr none ∉ ('/' :: w.toList).map .inl ++
      (idTokens id ++ (wordStem words).text.map .inl) := by
    intro h
    obtain ⟨hname, -⟩ := hmem.mp h
    cases hname
  have hvalue : ∀ v ∈ id, ((∅ : Params).insertSome "id" id)["id"]? = some v := by
    rintro v rfl
    exact Std.ExtTreeMap.getElem?_insert_self
  -- The only parameter is the one that the placeholder asks for, so nothing is left over for the
  -- query.
  have hgenerate := @Route.generate_of_values
    { l.route (resourceFrames w) w with name := some l.name } _
    ((∅ : Params).insertSome "id" id) fallback hpattern hsegments hnamed
    (fun name hname => ?_) fun name hname => ?_
  · rw [Table.generate, h.named _ (List.mem_map_of_mem hl)]
    dsimp only
    rw [hgenerate, filled_linkPath fun v hv => by rw [hvalue v hv, Option.some_or]]
    simp [Stem.text, Except.mapError]
  · refine hmem.mpr ?_
    cases id with
    | none => exact absurd hname Std.ExtTreeMap.not_mem_empty
    | some v =>
      rcases Std.ExtTreeMap.mem_insert.mp hname with heq | hname
      · exact ⟨by rw [Std.compare_eq_iff_eq.mp heq], rfl⟩
      · exact absurd hname Std.ExtTreeMap.not_mem_empty
  · obtain ⟨heq, hid⟩ := hmem.mp hname
    obtain rfl := String.toList_inj.mp (Option.some.inj heq)
    obtain ⟨v, rfl⟩ := Option.isSome_iff_exists.mp hid
    rw [hvalue v rfl]
    rfl

end Generation

/-! ### Answers -/

/-- If one of the first matchers has an answer, and none of them another one, that is the answer. -/
theorem Table.exists_firstMatch?_append {q : Request} {ps : Params} {ms : List Matcher}
    (hsome : ∃ m ∈ ms, (m q).isSome = true) (hall : ∀ m ∈ ms, ∀ ps', m q = some ps' → ps' = ps)
    (ms' : List Matcher) (n : Nat) : ∃ k, firstMatch? q n (ms ++ ms') = some (k, ps) := by
  induction ms generalizing n with
  | nil =>
    obtain ⟨m, hm, -⟩ := hsome
    cases hm
  | cons m ms ih =>
    obtain ⟨hhead, htail⟩ := List.forall_mem_cons.mp hall
    rw [List.cons_append, firstMatch?]
    cases hm : m q with
    | some ps' =>
      obtain rfl := hhead ps' hm
      exact ⟨n, rfl⟩
    | none =>
      -- A matcher without an answer is passed over, so another one has it.
      refine ih ?_ htail (n + 1)
      obtain ⟨m', hmem, hsome⟩ := hsome
      rcases List.mem_cons.mp hmem with rfl | hmem
      · rw [hm] at hsome
        cases hsome
      · exact ⟨m', hmem, hsome⟩

/-- Let one of the first routes cover a path and accept the method. If all others among them that do
so have the same action and identifier, these are in the answer. -/
theorem Table.Offers.match?_of_stem (h : OffersResource t w member collection)
    (hchecks : ResourceChecks w member collection) {first last : List ResourceRoute}
    (hsplit : resourceRoutes member collection = first ++ last) {e : ResourceRoute}
    (he : e ∈ first) {id : Option (List Char)} {s : Stem} (hstem : e.path.HasStem id s)
    {q : Request} (hpath : q.path.toList = Stem.text (('/', w.toList) :: s))
    (hmethod : (e.method.tested .method).accepts (q.subject true .method) = true)
    (honly : ∀ e' ∈ first, ∀ id', e'.path.HasStem id' s →
      (e'.method.tested .method).accepts (q.subject true .method) = true →
        e'.action = e.action ∧ id' = id) :
    ∃ n, t.match? q = some (n, answer w e.action (id.map String.ofList) none) := by
  have haccepted : ∀ e' ∈ first, e'.Accepted := fun e' he' =>
    hchecks.accepted_routes e' (hsplit ▸ List.mem_append_left last he')
  have hpath' : q.path.toList = Stem.text (('/', w.toList) :: s) ++ formatText none := by
    rw [hpath]
    exact (List.append_nil _).symm
  have hcovers : e.path.Covers id none s := .of_stem hstem
  rw [Table.match?, h.matchers, hsplit, List.map_append, List.map_append]
  refine exists_firstMatch?_append ?_ ?_ _ 0
  · refine ⟨_, List.mem_map_of_mem (List.mem_map_of_mem he), ?_⟩
    exact (ResourceRoute.isSome_match?_iff hchecks.name (haccepted e he)).mpr
      ⟨⟨_, _, ResourcePath.reaches_of_covers hcovers hpath'⟩, hmethod⟩
  -- A path has one stem, so whatever else matches it has that stem, too.
  · intro m hm ps' hps'
    obtain ⟨_, hroute, rfl⟩ := List.mem_map.mp hm
    obtain ⟨e', he', rfl⟩ := List.mem_map.mp hroute
    obtain ⟨id', fmt', hreaches, rfl⟩ :=
      ResourceRoute.exists_reaches_of_match? hchecks.name (haccepted e' he') hps'
    obtain ⟨hcovers, hformat⟩ := hreaches.covers hchecks.name (haccepted e' he').path
      (hstem.proper (haccepted e he).path) hpath'
    obtain ⟨haction, rfl⟩ := honly e' he' _ hcovers.stem
      ((ResourceRoute.isSome_match?_iff hchecks.name (haccepted e' he')).mp
        (by rw [hps']; rfl)).2
    obtain rfl : fmt' = none := Option.map_eq_none_iff.mp hformat
    rw [haction]
    cases id' <;> simp

/-! ### Routes on a path -/

namespace ResourcePath.HasStem

variable {p : ResourcePath} {id : Option (List Char)} {c d : Char} {i a : List Char}

theorem eq_collection (h : p.HasStem id []) : p = .collection ∧ id = none := by
  cases h
  exact ⟨rfl, rfl⟩

/-- One step leads to a word or to a member. -/
theorem of_step (h : p.HasStem id [(c, i)]) (hi : i ≠ []) :
    (∃ b, (p = .only b ∨ p = .word b) ∧ b.toList = i ∧ id = none) ∨ p = .member ∧ id = some i := by
  cases h with
  | slash => exact absurd rfl hi
  | only b => exact .inl ⟨b, .inl rfl, rfl, rfl⟩
  | word b => exact .inl ⟨b, .inr rfl, rfl, rfl⟩
  | member => exact .inr ⟨rfl, rfl⟩

/-- Two steps lead to a word below a member. -/
theorem of_steps (h : p.HasStem id [(c, i), (d, a)]) :
    (∃ b, p.word? = some b ∧ b.toList = a) ∧ id = some i := by
  cases h with
  | below hi b => exact ⟨⟨b, rfl, rfl⟩, rfl⟩
  | either hi hc b => exact ⟨⟨b, rfl, rfl⟩, rfl⟩

end ResourcePath.HasStem

/-- The routes before those of the members: the further actions, and the first standard ones. -/
def firstRoutes (member collection : List (String × MethodSet)) : List ResourceRoute :=
  furtherRoutes .below member ++ furtherRoutes .word collection ++
    (standardActions.take 2).map standardRoute

theorem resourceRoutes_eq (member collection : List (String × MethodSet)) :
    resourceRoutes member collection =
      firstRoutes member collection ++ (standardActions.drop 2).map standardRoute := by
  rw [firstRoutes, List.append_assoc, ← List.map_append, List.take_append_drop]
  rfl

theorem mem_resourceRoutes {e : ResourceRoute} : e ∈ resourceRoutes member collection ↔
    (∃ a ∈ member, furtherRoute .below a = e) ∨ (∃ a ∈ collection, furtherRoute .word a = e) ∨
      ∃ a ∈ standardActions, standardRoute a = e := by
  simp [resourceRoutes, furtherRoutes]

namespace ResourceRoute

variable {e : ResourceRoute} {id : Option (List Char)} {c d : Char} {i a : List Char}

/-- A route that has a word on its path has it as its action. -/
theorem action_eq_of_word (he : e ∈ resourceRoutes member collection) {b : String}
    (hb : e.path.word? = some b) : e.action = b := by
  have hstandard : ∀ a ∈ standardActions, ∀ b ∈ a.1.word?, a.2.2 = b := by decide
  rcases mem_resourceRoutes.mp he with ⟨a, ha, rfl⟩ | ⟨a, ha, rfl⟩ | ⟨a, ha, rfl⟩
  · exact Option.some.inj hb
  · exact Option.some.inj hb
  · exact hstandard a ha b hb

/-- A route without a word on its path is a standard one, and a request to read finds the index or a
member there. -/
theorem action_of_get (he : e ∈ resourceRoutes member collection)
    (hget : (e.method.tested .method).accepts Method.get.token = true) :
    (e.path = .collection → e.action = "index") ∧ (e.path = .member → e.action = "show") := by
  have hstandard : ∀ a ∈ standardActions, Method.get.token = a.2.1.token →
      (a.1 = .collection → a.2.2 = "index") ∧ (a.1 = .member → a.2.2 = "show") := by decide
  rcases mem_resourceRoutes.mp he with ⟨a, ha, rfl⟩ | ⟨a, ha, rfl⟩ | ⟨a, ha, rfl⟩
  · exact ⟨nofun, nofun⟩
  · exact ⟨nofun, nofun⟩
  · exact hstandard a ha ((Condition.accepts_ofMethod a.2.1 _).mp hget)

/-- Directly below the collection there are the form to create a member and the further actions. -/
theorem word_below_collection (he : e ∈ resourceRoutes member collection) {b : String}
    (hb : e.path = .only b ∨ e.path = .word b) : b = "new" ∨ ∃ a ∈ collection, a.1 = b := by
  have hstandard : ∀ a ∈ standardActions, ∀ b ∈ a.1.word?, a.1 = .only b ∨ a.1 = .word b →
      b = "new" := by decide
  rcases mem_resourceRoutes.mp he with ⟨a, ha, rfl⟩ | ⟨a, ha, rfl⟩ | ⟨a, ha, rfl⟩
  · rcases hb with hb | hb <;> cases hb
  · rcases hb with hb | hb
    · cases hb
    · exact .inr ⟨a, ha, ResourcePath.word.inj hb⟩
  · exact .inl (hstandard a ha b (by rcases hb with hb | hb <;> exact congrArg _ hb) hb)

theorem path_ne_member (he : e ∈ firstRoutes member collection) : e.path ≠ .member := by
  have hstandard : ∀ a ∈ standardActions.take 2, a.1 ≠ .member := by decide
  rcases List.mem_append.mp he with he | he
  · rcases List.mem_append.mp he with he | he
    · obtain ⟨a, -, rfl⟩ := List.mem_map.mp he
      nofun
    · obtain ⟨a, -, rfl⟩ := List.mem_map.mp he
      nofun
  · obtain ⟨a, ha, rfl⟩ := List.mem_map.mp he
    exact hstandard a ha

/-- Only the index can be read at the path of the collection. -/
theorem eq_index_of_stem (he : e ∈ resourceRoutes member collection)
    (hget : (e.method.tested .method).accepts Method.get.token = true) (h : e.path.HasStem id []) :
    e.action = "index" ∧ id = none :=
  ⟨(action_of_get he hget).1 h.eq_collection.1, h.eq_collection.2⟩

/-- Only a member can be read one step below the collection, if no other route has the step as its
word. -/
theorem eq_show_of_stem (he : e ∈ resourceRoutes member collection)
    (hget : (e.method.tested .method).accepts Method.get.token = true) (hi : i ≠ [])
    (hnew : i ≠ "new".toList) (hcollection : ∀ a ∈ collection, i ≠ a.1.toList)
    (h : e.path.HasStem id [(c, i)]) : e.action = "show" ∧ id = some i := by
  rcases h.of_step hi with ⟨b, hb, rfl, -⟩ | ⟨hmember, hid⟩
  · rcases word_below_collection he hb with rfl | ⟨a, ha, rfl⟩
    · exact absurd rfl hnew
    · exact absurd rfl (hcollection a ha)
  · exact ⟨(action_of_get he hget).2 hmember, hid⟩

/-- Before the members, a step below the collection is an action. -/
theorem eq_word_of_stem (he : e ∈ firstRoutes member collection) {b : String}
    (hb : b.toList ≠ []) (h : e.path.HasStem id [(c, b.toList)]) : e.action = b ∧ id = none := by
  have hall : e ∈ resourceRoutes member collection :=
    resourceRoutes_eq member collection ▸ List.mem_append_left _ he
  rcases h.of_step hb with ⟨b', hpath, heq, hid⟩ | ⟨hmember, -⟩
  · obtain rfl := String.toList_inj.mp heq
    exact ⟨action_eq_of_word hall (by rcases hpath with hp | hp <;> rw [hp] <;> rfl), hid⟩
  · exact absurd hmember (path_ne_member he)

/-- A step below a member is an action. -/
theorem eq_word_of_stems (he : e ∈ resourceRoutes member collection) {b : String}
    (h : e.path.HasStem id [(c, i), (d, b.toList)]) : e.action = b ∧ id = some i := by
  obtain ⟨⟨b', hpath, heq⟩, hid⟩ := h.of_steps
  obtain rfl := String.toList_inj.mp heq
  exact ⟨action_eq_of_word he hpath, hid⟩

end ResourceRoute

/-! ### From a name back to its action -/

/-- An identifier as it stands in a path. -/
def idChars (id : Option String) : Option (List Char) :=
  id.map fun v => (percentEncode reservedInSegment v).toList

/-- A word is the encoding of nothing but itself. -/
theorem eq_of_percentEncode_eq_word {v a : String} (ha : isWord a = true)
    (h : (percentEncode reservedInSegment v).toList = a.toList) : v = a := by
  have hpercent : '%' ∉ a.toList := fun hmem =>
    absurd (List.all_eq_true.mp (Bool.and_eq_true_iff.mp ha).2 '%' hmem) (by decide)
  have hself : percentEncode reservedInSegment v = v := percentEncode_eq_of_not_mem (h ▸ hpercent)
  exact hself.symm.trans (String.toList_inj.mp h)

/-- A URL can be generated by a name, whatever the fallback, and every request for it that has one
of some methods, in any case, is answered by an action. The identifier in the URL is encoded. -/
def Table.LeadsBack (t : Table) (controller name action : String) (id : Option String)
    (methods : MethodSet) : Prop :=
  ∃ url, (∀ fallback,
      t.generate name (.params ((∅ : Params).insertSome "id" id)) fallback = .ok url) ∧
    ∀ (q : Request) (m : Method), m ∈ methods →
      String.ofList (q.method.toList.map Char.toLower) = m.token → q.path = url →
      ∃ n, t.match? q =
        some (n, answer controller action (id.map (percentEncode reservedInSegment)) none)

/-- A named route leads back to an action, if one of the first routes is for that action and covers
the path, and all others among them that do so are for it, too. -/
theorem Table.Offers.leadsBack (h : OffersResource t w member collection)
    (hchecks : ResourceChecks w member collection) {l : ResourceLink}
    (hl : l ∈ resourceLinks w (singularize w) member collection) {id : Option String}
    {words : List String} (hpath : l.path.toList = (idPath id).toList ++ (wordStem words).text)
    (hwords : ∀ a ∈ words, isWord a = true) {first last : List ResourceRoute}
    (hsplit : resourceRoutes member collection = first ++ last) {e : ResourceRoute} (he : e ∈ first)
    (hstem : e.path.HasStem (idChars id) (idStem id ++ wordStem words)) {methods : MethodSet}
    (hmethods : ∀ m ∈ methods, (e.method.tested .method).accepts m.token = true)
    (honly : ∀ m ∈ methods, ∀ e' ∈ first, ∀ id',
      (e'.method.tested .method).accepts m.token = true →
        e'.path.HasStem id' (idStem id ++ wordStem words) →
          e'.action = e.action ∧ id' = idChars id) :
    t.LeadsBack w l.name e.action id methods := by
  refine ⟨_, h.generate_link hchecks hl hpath hwords, fun q m hm hmethod hq => ?_⟩
  have hsubject : q.subject true .method = m.token := hmethod
  have hanswer := h.match?_of_stem hchecks hsplit he hstem (by rw [hq, String.toList_ofList])
    (by rw [hsubject]; exact hmethods m hm)
    fun e' he' id' hstem' haccepts => honly m hm e' he' id' (hsubject ▸ haccepts) hstem'
  rw [idChars, Option.map_map] at hanswer
  have hencoded : (String.ofList ∘ fun v => (percentEncode reservedInSegment v).toList) =
      percentEncode reservedInSegment := by
    funext v
    exact String.ofList_toList
  rwa [hencoded] at hanswer

theorem mem_resourceLinks {plural singular : String} {l : ResourceLink} :
    l ∈ resourceLinks plural singular member collection ↔
      (∃ a ∈ member, furtherLink "/:id" singular a = l) ∨
        (∃ a ∈ collection, furtherLink "" plural a = l) ∨
          ∃ a ∈ Behavior.pluralNames ":id" plural singular, standardLink a = l := by
  simp [resourceLinks, furtherLinks, standardLinks]

/-- A name of a standard action that is read leads back to it, under the same conditions. -/
theorem Table.Offers.leadsBack_standard (h : OffersResource t w member collection)
    (hchecks : ResourceChecks w member collection) {path action name : String}
    (hlink : (path, action, name) ∈ Behavior.pluralNames ":id" w (singularize w))
    {id : Option String} {words : List String}
    (hpath : path.toList = (idPath id).toList ++ (wordStem words).text)
    (hwords : ∀ a ∈ words, isWord a = true) {first last : List ResourceRoute}
    (hsplit : resourceRoutes member collection = first ++ last) {p : ResourcePath}
    (hroute : standardRoute (p, .get, action) ∈ first)
    (hstem : p.HasStem (idChars id) (idStem id ++ wordStem words))
    (honly : ∀ e ∈ first, ∀ id', (e.method.tested .method).accepts Method.get.token = true →
      e.path.HasStem id' (idStem id ++ wordStem words) → e.action = action ∧ id' = idChars id) :
    t.LeadsBack w name action id (.single .get) := by
  have hmem : standardLink (path, action, name) ∈
      resourceLinks w (singularize w) member collection :=
    mem_resourceLinks.mpr (.inr (.inr ⟨_, hlink, rfl⟩))
  refine h.leadsBack hchecks hmem hpath hwords hsplit hroute hstem (fun m hm => ?_)
    fun m hm e he id' hmethod => ?_
  · obtain rfl := MethodSet.mem_single.mp hm
    exact (Condition.accepts_ofMethod .get _).mpr rfl
  · obtain rfl := MethodSet.mem_single.mp hm
    exact honly e he id' hmethod

namespace Router

/-- URLs of named routes lead back to their actions. Let a pass declare a resource with further
actions and nothing else, and let it succeed on a default router. For an identifier that is not
empty and has no dot, every named route has a URL that is answered by the action of the name, with
the encoded identifier where the path has one. The only exception is the URL of a member whose
identifier is the word of a route on the collection. -/
theorem resource_urls {v : String}
    (hyields : Yields { options := {} } [(.replace, .resources w { member, collection } .skip)] t)
    (hne : v ≠ "") (hdot : '.' ∉ v.toList) {name action : String} {id : Option String}
    {methods : MethodSet} (hname : NamesAction w member collection v name action id methods)
    (hmember : name = singularize w → v ≠ "new" ∧ ∀ a ∈ collection, v ≠ a.1) :
    t.LeadsBack w name action id methods := by
  have hchecks : ResourceChecks w member collection := by
    have hrun := runPass_of_succeeds (hyields.1 _ List.mem_cons_self)
    obtain ⟨a, ha⟩ := (Declaration.runPass_resources_iff _).mp ⟨_, hrun, rfl⟩
    exact Declaration.resourceChecks_of_resources ha
  obtain ⟨-, hoffers⟩ := offers_of_yields (Behavior.declares_resources hchecks)
    Declaration.runPass_resources_iff hyields
  have hpart := isPart_percentEncode hne hdot
  have hwordOn := ResourceOptions.isWord_of_checkActions hchecks.collection
  -- An action one step below the collection has to be found before the members, because their path
  -- covers that step. For all others it does not matter in which order the routes are asked.
  have hall : resourceRoutes member collection = resourceRoutes member collection ++ [] :=
    (List.append_nil _).symm
  have hfirst := resourceRoutes_eq member collection
  have hstandard : ∀ a ∈ standardActions, standardRoute a ∈ resourceRoutes member collection :=
    fun a ha => mem_resourceRoutes.mpr (.inr (.inr ⟨a, ha, rfl⟩))
  cases hname with
  | index =>
    have hpath : "".toList = (idPath none).toList ++ (wordStem []).text := rfl
    refine hoffers.leadsBack_standard hchecks (by simp [Behavior.pluralNames]) hpath
      (List.forall_mem_nil _) hall (hstandard (.collection, .get, "index") (by decide)) .collection
      fun e he id' hget hstem => ?_
    exact ResourceRoute.eq_index_of_stem he hget hstem
  | «show» =>
    have hpath : ("/" ++ ":id").toList = (idPath (some v)).toList ++ (wordStem []).text := by
      simp [idPath, wordStem, Stem.slashed, Stem.text]
    obtain ⟨hnew, hcollection⟩ := hmember rfl
    refine hoffers.leadsBack_standard hchecks (by simp [Behavior.pluralNames]) hpath
      (List.forall_mem_nil _) hall (hstandard (.member, .get, "show") (by decide)) (.member hpart)
      fun e he id' hget hstem => ?_
    exact ResourceRoute.eq_show_of_stem he hget hpart.1
      (fun heq => hnew (eq_of_percentEncode_eq_word (by decide) heq))
      (fun a ha heq => hcollection a ha (eq_of_percentEncode_eq_word (hwordOn a ha) heq)) hstem
  | new =>
    have hpath : "/new".toList = (idPath none).toList ++ (wordStem ["new"]).text := by
      simp [idPath, wordStem, Stem.slashed, Stem.text]
    have hform : standardRoute (.only "new", .get, "new") ∈ firstRoutes member collection :=
      List.mem_append_right _ (List.mem_map_of_mem (by decide))
    refine hoffers.leadsBack_standard hchecks (by simp [Behavior.pluralNames]) hpath (by decide)
      hfirst hform (.only "new") fun e he id' _ hstem => ?_
    exact ResourceRoute.eq_word_of_stem he (by decide) hstem
  | edit =>
    have hpath : ("/" ++ ":id" ++ "/edit").toList =
        (idPath (some v)).toList ++ (wordStem ["edit"]).text := by
      simp [idPath, wordStem, Stem.slashed, Stem.text]
    refine hoffers.leadsBack_standard hchecks (by simp [Behavior.pluralNames]) hpath (by decide)
      hall (hstandard (.either "edit", .get, "edit") (by decide))
      (.either hpart (.inr rfl) "edit") fun e he id' _ hstem => ?_
    exact ResourceRoute.eq_word_of_stems he hstem
  | delete =>
    have hpath : ("/" ++ ":id" ++ "/delete").toList =
        (idPath (some v)).toList ++ (wordStem ["delete"]).text := by
      simp [idPath, wordStem, Stem.slashed, Stem.text]
    refine hoffers.leadsBack_standard hchecks (by simp [Behavior.pluralNames]) hpath (by decide)
      hall (hstandard (.either "delete", .get, "delete") (by decide))
      (.either hpart (.inr rfl) "delete") fun e he id' _ hstem => ?_
    exact ResourceRoute.eq_word_of_stems he hstem
  | member h =>
    have hword := ResourceOptions.isWord_of_checkActions hchecks.member _ h
    have hpath : ("/:id" ++ "/" ++ action).toList =
        (idPath (some v)).toList ++ (wordStem [action]).text := by
      simp [idPath, wordStem, Stem.slashed, Stem.text]
    exact hoffers.leadsBack hchecks (mem_resourceLinks.mpr (.inl ⟨_, h, rfl⟩)) hpath
      (List.forall_mem_singleton.mpr hword) hall (mem_resourceRoutes.mpr (.inl ⟨_, h, rfl⟩))
      (.below hpart action) (fun m hm => MethodSet.accepts_of_mem hm)
      fun m hm e he _ _ => ResourceRoute.eq_word_of_stems he
  | collection h =>
    have hword := hwordOn _ h
    have hpath : ("" ++ "/" ++ action).toList =
        (idPath none).toList ++ (wordStem [action]).text := by
      simp [idPath, wordStem, Stem.slashed, Stem.text]
    have hroute : furtherRoute .word (action, methods) ∈ firstRoutes member collection :=
      List.mem_append_left _ (List.mem_append_right _ (List.mem_map_of_mem h))
    exact hoffers.leadsBack hchecks (mem_resourceLinks.mpr (.inr (.inl ⟨_, h, rfl⟩))) hpath
      (List.forall_mem_singleton.mpr hword) hfirst hroute (.word action)
      (fun m hm => MethodSet.accepts_of_mem hm)
      fun m hm e he _ _ => ResourceRoute.eq_word_of_stem he (isPart_of_isWord hword).1

/-- A further action on a post. -/
def postMember : List (String × MethodSet) := [("publish", .single .post)]

/-- A further action on all posts. -/
def postCollection : List (String × MethodSet) := [("search", .single .get)]

/-- A member of the posts can be shown, although its identifier has a space. -/
theorem resource_urls_posts :
    ∃ t, Yields { options := {} }
        [(.replace,
          .resources "posts" { member := postMember, collection := postCollection } .skip)] t ∧
      "a b" ≠ "" ∧ '.' ∉ "a b".toList ∧
      NamesAction "posts" postMember postCollection "a b" (singularize "posts") "show" (some "a b")
        (.single .get) ∧
      ("a b" ≠ "new" ∧ ∀ a ∈ postCollection, "a b" ≠ a.1) ∧
      t.LeadsBack "posts" (singularize "posts") "show" (some "a b") (.single .get) := by
  have hchecks : ResourceChecks "posts" postMember postCollection :=
    ⟨by decide, by decide +kernel, by decide +kernel⟩
  have hnames : ((resourceLinks "posts" (singularize "posts") postMember postCollection).map
        (·.name)).Nodup ∧
      ∀ name ∈ (resourceLinks "posts" (singularize "posts") postMember postCollection).map (·.name),
        name ≠ "" := by
    decide +kernel
  obtain ⟨t, hyields, -⟩ := exists_yields_of_declares (Behavior.declares_resources hchecks)
    Declaration.runPass_resources_iff (by rw [List.map_map]; exact hnames.1)
    (by rw [List.map_map]; exact hnames.2)
  have hne : "a b" ≠ "new" ∧ ∀ a ∈ postCollection, "a b" ≠ a.1 := by decide
  exact ⟨t, hyields, by decide, by decide, .show, hne,
    resource_urls hyields (by decide) (by decide) .show fun _ => hne⟩

end Router

end HttpRouting
