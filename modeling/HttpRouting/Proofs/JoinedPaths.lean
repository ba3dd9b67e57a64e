import HttpRouting.Proofs.MatchedParams
import HttpRouting.Proofs.OptionChecks
import HttpRouting.Proofs.PlainPattern
import HttpRouting.Proofs.SyntaxColons

/-!
# Literal paths below a pattern

The path of a step is written behind the path of the steps around it, without the anchors where
they meet. The anchors are found by their character alone. So a pattern that keeps its meaning
between other texts is joined with a literal text as it should be, and the route answers exactly the
texts of the one in front of the other, unless the pattern ends in a dollar sign that is escaped.
That dollar sign is no anchor, but it is dropped all the same, and its backslash is left in front of
the literal text.

## Main definitions

* `Shape.Spelled` — a text that stands for its characters at the end of a pattern
* `Router.ServesBelow` — the paths that are answered by a literal text below a pattern

## Main results

* `Shape.spelled_escapeMeta`, `Shape.spelled_backslash` — how a literal text is written
* `Movable.exists_parse?_joined` — what the joined pattern matches
* `Router.joined_path_serves` — the paths that are served below a pattern
-/

namespace HttpRouting

open Placeholder Regex Shape

/-! ### Characters -/

namespace Shape

theorem expanded_chars (cs : List Char) :
    (ofTokens true (cs.map .inl)).expanded = escapeMeta cs := by
  induction cs with
  | nil => rfl
  | cons c cs ih =>
    rw [List.map_cons, ofTokens, Bool.true_and, expanded, ih, escapeMeta, escapeMeta,
      List.flatMap_cons]
    split <;> rfl

theorem parts_chars (cs : List Char) (n : Nat) :
    (ofTokens true (cs.map .inl)).parts n = cs.map .char := by
  induction cs with
  | nil => rfl
  | cons c cs ih => rw [List.map_cons, parts_ofTokens_inl, ih, List.map_cons]

/-- A text stands for some characters at the end of a pattern, behind whatever else there is. -/
structure Spelled (text cs : List Char) : Prop where
  /-- What stands in front of the text comes to its end there. -/
  stops : Stops false (text ++ ['$'])
  /-- The tokens of the text are read, and the characters are built from them. -/
  reads : ∃ ls, Lexes [] (text ++ ['$']) ls [] ['$'] ∧ ∀ b : Builder, b.flags = {} →
    (ls.map (·.token)).foldlM Builder.step? b = some (add b (cs.map .char) 0)

theorem exists_lexemes_escapeMeta (cs : List Char) :
    ∃ ls, Lexes [] (escapeMeta cs ++ ['$']) ls [] ['$'] ∧ ∀ b : Builder, b.flags = {} →
      (ls.map (·.token)).foldlM Builder.step? b = some (add b (cs.map .char) 0) := by
  have htidy : (ofTokens true (cs.map .inl)).Tidy := tidy_ofTokens (.inl rfl)
  refine ⟨_, expanded_chars cs ▸ lexes_shape htidy (by simp) [], fun b hflags => ?_⟩
  have hgroups : (ofTokens true (cs.map .inl)).groups = 0 := by
    rw [groups_ofTokens, List.countP_map]
    exact List.countP_eq_zero.mpr fun c _ => Bool.false_ne_true
  rw [foldlM_step? htidy b hflags, parts_chars, hgroups]

theorem not_mem_escapeMeta {c : Char} (hc : c ≠ '\\') {cs : List Char} (h : c ∉ cs) :
    c ∉ escapeMeta cs := by
  intro hmem
  obtain ⟨d, hd, hmem⟩ := List.mem_flatMap.mp hmem
  split at hmem
  · rcases List.mem_cons.mp hmem with heq | hmem
    · exact hc heq
    · exact h (List.mem_singleton.mp hmem ▸ hd)
  · exact h (List.mem_singleton.mp hmem ▸ hd)

theorem spelled_escapeMeta {cs : List Char} (hcolon : ':' ∉ cs) : Spelled (escapeMeta cs) cs where
  stops := by
    refine ⟨rfl, ?_, .inr ?_⟩
    · cases cs with
      | nil => exact ⟨'$', [], rfl, by decide⟩
      | cons c cs =>
        rw [escapeMeta, List.flatMap_cons]
        split
        · exact ⟨'\\', _, rfl, by decide⟩
        · next hmeta =>
          refine ⟨c, _, rfl, fun hmem => ?_⟩
          have hc : c ≠ ':' := fun heq => hcolon (heq ▸ List.mem_cons_self)
          simp only [List.mem_cons, List.not_mem_nil, or_false] at hmem
          simp only [isMeta, List.mem_cons, List.not_mem_nil, or_false, decide_eq_true_eq] at hmeta
          tauto
    · have := not_mem_escapeMeta (by decide) hcolon
      simpa using this
  reads := exists_lexemes_escapeMeta cs

/-- A backslash in front of a slash does not matter. -/
theorem spelled_backslash {cs : List Char} (hcolon : ':' ∉ '/' :: cs) :
    Spelled ('\\' :: escapeMeta ('/' :: cs)) ('/' :: cs) where
  stops := by
    refine ⟨rfl, ⟨'\\', _, rfl, by decide⟩, .inr ?_⟩
    have := not_mem_escapeMeta (by decide) hcolon
    simpa using this
  reads := by
    obtain ⟨ls, hlexes, hfold⟩ := exists_lexemes_escapeMeta cs
    have hslash : Lexes [] ('\\' :: '/' :: (escapeMeta cs ++ ['$']))
        [⟨.atom (.char '/'), ['\\', '/']⟩] [] (escapeMeta cs ++ ['$']) :=
      .one (l := ⟨.atom (.char '/'), ['\\', '/']⟩) rfl (List.cons_ne_nil _ _) rfl
    refine ⟨_, hslash.trans hlexes, fun b hflags => ?_⟩
    have hrest : (ls.map (·.token)).foldlM Builder.step? (b.push (.char '/')) =
        some (add b (('/' :: cs).map .char) 0) := by
      rw [hfold (b.push (.char '/')) hflags]
      simp [add, Builder.push]
    rw [List.map_append, List.map_singleton, List.singleton_append, List.foldlM_cons,
      step?_char hflags]
    exact hrest

end Shape

/-! ### Matching -/

namespace Regex

variable {pre mid post cs : List Char} {c c' : Captures} {rs : List Regex}

theorem spans_concat_chars :
    Spans (concat (cs.map .char)) pre mid post c c' ↔ mid = cs ∧ c' = c := by
  induction cs generalizing pre mid with
  | nil => exact spans_concat_nil
  | cons d cs ih =>
    rw [List.map_cons, spans_concat_cons]
    constructor
    · rintro ⟨m₁, m₂, c₁, rfl, hd, hcs⟩
      obtain ⟨rfl, rfl⟩ := spans_char.mp hd
      obtain ⟨rfl, rfl⟩ := ih.mp hcs
      exact ⟨rfl, rfl⟩
    · rintro ⟨rfl, rfl⟩
      exact ⟨[d], cs, c', rfl, spans_char.mpr ⟨rfl, rfl⟩, ih.mpr ⟨rfl, rfl⟩⟩

/-- Parts that do not look around, with some characters behind them, match the texts of the parts
with the characters behind them. -/
theorem whole_append_chars (hrs : (concat rs).lookFree = true) {v u : String} :
    (concat (rs ++ v.toList.map .char)).Whole u ↔ ∃ w, u = w ++ v ∧ (concat rs).Whole w := by
  rw [whole_iff]
  constructor
  · rintro ⟨c', hspans⟩
    obtain ⟨m₁, m₂, c₁, hu, hparts, hchars⟩ := spans_concat_append.mp hspans
    obtain ⟨rfl, -⟩ := spans_concat_chars.mp hchars
    obtain ⟨d, hd⟩ := hparts.move hrs [] [] (({} : Captures).openAt 0 0)
    refine ⟨String.ofList m₁, ?_, whole_iff.mpr ⟨d, by rwa [String.toList_ofList]⟩⟩
    rw [← String.ofList_toList (s := u), hu, String.ofList_append, String.ofList_toList]
  · rintro ⟨w, rfl, hw⟩
    obtain ⟨c', hspans⟩ := whole_iff.mp hw
    obtain ⟨d, hd⟩ := hspans.move hrs [] (v.toList ++ []) (({} : Captures).openAt 0 0)
    exact ⟨d, spans_concat_append.mpr ⟨w.toList, v.toList, d, String.toList_append, hd,
      spans_concat_chars.mpr ⟨rfl, rfl⟩⟩⟩

end Regex

namespace Movable

variable {body : String} {ls : List Lexeme} {r : Regex}

/-- A pattern in front of a literal text, between anchors, matches the texts of the pattern with the
literal text behind them. -/
theorem exists_parse?_joined (h : Movable body ls r) {text : List Char} {v : String}
    (htext : Spelled text v.toList) : ∃ x,
      parse? (String.ofList ('^' :: (body.toList ++ text) ++ ['$'])) = some x ∧
        ∀ p : String, (x.captures? p).isSome = true ↔ ∃ u, p = u ++ v ∧ r.Whole u := by
  obtain ⟨ls', hlexes, hfold⟩ := htext.reads
  obtain ⟨ps, rfl, hparse⟩ := h.parse?_joined hlexes htext.stops hfold
  exact ⟨_, hparse, fun p => (isSome_captures?_anchored.trans whole_iff.symm).trans
    (whole_append_chars h.lookFree)⟩

/-- An escaped dollar sign behind a pattern stands for itself. -/
theorem exists_escapedDollar (h : Movable body ls r) : ∃ ls' r', Movable (body ++ "\\$") ls' r' ∧
    ∀ u, r'.Whole u ↔ ∃ w, u = w ++ "$" ∧ r.Whole w := by
  obtain ⟨parts, rfl, hfree, hparts⟩ := h.exists_parts
  obtain ⟨b, hb, hbparts, hflags, hbranches, houter⟩ := hparts []
  have hsource : (body ++ "\\$").toList = body.toList ++ ['\\', '$'] := String.toList_append
  have hstops : Stops false ['\\', '$'] := ⟨rfl, ⟨'\\', _, rfl, by decide⟩, .inr (by decide)⟩
  have hdollar : Lexes [] ['\\', '$'] [⟨.atom (.char '$'), ['\\', '$']⟩] [] [] :=
    .one (l := ⟨.atom (.char '$'), ['\\', '$']⟩) rfl (List.cons_ne_nil _ _) rfl
  refine ⟨ls ++ [⟨.atom (.char '$'), ['\\', '$']⟩],
    concat (parts.reverse.filterMap id ++ [.char '$']), ⟨⟨?_, ?_⟩, ?_, ?_, ?_⟩, fun u => ?_⟩
  · have hall := (h.lexes_append hstops).trans hdollar
    have hend : lexemesFrom? false [] [] = some [] := by rw [lexemesFrom?]; rfl
    unfold Lexes at hall
    rw [lexemes?, hsource, hall, hend]
    simp
  · refine ⟨b.push (.char '$'), ?_, houter, ?_⟩
    · rw [List.map_append, List.foldlM_append, hb]
      exact congrArg (Option.bind · pure) (step?_char hflags '$')
    · simp [Builder.alternatives, Builder.sequence, Builder.push, choice, hbranches, hbparts]
  · rw [hsource]
    simpa using h.colonless
  · intro before after hts
    rw [List.map_append, List.map_singleton] at hts
    -- The last token is no bar, so the bar stands in the pattern.
    rcases List.eq_nil_or_concat' after with rfl | ⟨after, t, rfl⟩
    · cases (List.append_inj' hts rfl).2
    · rw [← List.cons_append, ← List.append_assoc] at hts
      exact h.undivided before after (List.append_inj' hts rfl).1
  · exact List.forall_mem_append.mpr ⟨h.plain, List.forall_mem_singleton.mpr rfl⟩
  · exact whole_append_chars (v := "$") hfree

end Movable

/-! ### Declarations -/

/-- A text without colons has no placeholders. -/
theorem Placeholder.expand_of_not_mem {source : String} (h : ':' ∉ source.toList)
    (pattern : String) : expand source pattern = ⟨source, []⟩ := by
  have hcut : Cut .plain source.toList _ := cut_iff.mpr rfl
  rw [hcut.eq_map_inl fun u w hu => absurd (hu ▸ by simp) h] at hcut
  exact expand_of_cut_map_inl hcut

namespace Node

variable {c : Condition}

/-- A condition on the path that has no colons is added as it is, and brings no parameters. -/
theorem ofPath_of_not_mem (hcolon : ':' ∉ c.source.toList) (hc : c.isEmptyPath = false) :
    (Node.ofConditions {} (.ofPath c) ∅).conditions =
        (∅ : Std.ExtTreeMap Key String).insert .path c.source ∧
      (Node.ofConditions {} (.ofPath c) ∅).params = ∅ := by
  have hsource : (if (Key.path = .method && ({} : Options).caseInsensitiveMethod) = true
    then c.foldCase else c) = c := if_neg (by decide)
  rw [ofConditions_ofPath, hc, if_neg Bool.false_ne_true, addCondition]
  dsimp only
  rw [hsource, expand_of_not_mem hcolon]
  exact ⟨rfl, rfl⟩

end Node

namespace Chain

/-- The chain below some conditions on the path, the outermost first. -/
def ofPaths (paths : List Condition) : Chain :=
  (paths.map fun c => Node.ofConditions {} (.ofPath c) ∅).reverse ++ (Behavior.root {}).chain

variable {a b : Condition} (ha : ':' ∉ a.source.toList) (hb : ':' ∉ b.source.toList)
  (hane : a.isEmptyPath = false) (hbne : b.isEmptyPath = false)
include ha hb hane hbne

/-- Two conditions without colons are joined, and there is no other condition. -/
theorem getElem?_conditions_ofPaths (k : Key) : (ofPaths [a, b]).conditions[k]? =
    if k = .path then some (joinFragments a.source b.source) else none := by
  have hchain : (ofPaths [a, b]).conditions =
      merge (merge ∅ (Node.ofConditions {} (.ofPath a) ∅).conditions)
        (Node.ofConditions {} (.ofPath b) ∅).conditions := rfl
  rw [hchain, (Node.ofPath_of_not_mem ha hane).1, (Node.ofPath_of_not_mem hb hbne).1]
  by_cases hk : k = .path
  · subst hk
    have houter : (merge ∅ ((∅ : Std.ExtTreeMap Key String).insert .path a.source))[Key.path]? =
        some a.source := by
      rw [getElem?_merge_path_of_none (.inl Std.ExtTreeMap.getElem?_empty),
        Std.ExtTreeMap.getElem?_insert_self, Option.some_or]
    rw [getElem?_merge_path_of_some houter Std.ExtTreeMap.getElem?_insert_self, if_pos rfl]
  · have hnone : ∀ s : String, ((∅ : Std.ExtTreeMap Key String).insert .path s)[k]? = none := by
      intro s
      rw [Std.ExtTreeMap.getElem?_insert, if_neg (by simpa using Ne.symm hk)]
      exact Std.ExtTreeMap.getElem?_empty
    rw [getElem?_merge_of_ne hk, getElem?_merge_of_ne hk, hnone, hnone, if_neg hk,
      Std.ExtTreeMap.getElem?_empty]
    rfl

/-- There is no parameter but the default action. -/
theorem eq_index_of_params_ofPaths {name value : String}
    (h : (ofPaths [a, b]).params[name]? = some value) : value = "index" := by
  have hchain : (ofPaths [a, b]).allParams =
      (∅ ∪ (∅ : Params).insert "action" "index") ∪ (Node.ofConditions {} (.ofPath a) ∅).params ∪
        (Node.ofConditions {} (.ofPath b) ∅).params := rfl
  rw [params, Std.ExtTreeMap.getElem?_filter', Option.filter_eq_some_iff, hchain,
    (Node.ofPath_of_not_mem ha hane).2, (Node.ofPath_of_not_mem hb hbne).2] at h
  simp only [Std.ExtTreeMap.getElem?_union, Std.ExtTreeMap.getElem?_empty, Option.none_or,
    Option.or_none, Std.ExtTreeMap.getElem?_insert] at h
  have hvalue := h.1
  split at hvalue
  · exact (Option.some.inj hvalue).symm
  · cases hvalue

end Chain

namespace Route

variable {a b : Condition}

/-- Two conditions without colons make a route if what they are joined to compiles, and the route
asks for nothing else. -/
theorem exists_build_ofPaths (ha : ':' ∉ a.source.toList) (hb : ':' ∉ b.source.toList)
    (hane : a.isEmptyPath = false) (hbne : b.isEmptyPath = false) {x : Regex}
    (hx : parse? (joinFragments a.source b.source) = some x) :
    ∃ r, build (Chain.ofPaths [a, b]) none false = .ok r ∧
      ∀ q : Request, (r.match? {} q).isSome = true ↔ (x.captures? q.path).isSome = true := by
  have hconditions := Chain.getElem?_conditions_ofPaths ha hb hane hbne
  have honly : ∀ (k : Key) source, (Chain.ofPaths [a, b]).conditions[k]? = some source →
      k = .path ∧ parse? source = some x := by
    intro k source hsource
    rw [hconditions] at hsource
    split at hsource
    · next hk => exact ⟨hk, Option.some.inj hsource ▸ hx⟩
    · cases hsource
  obtain ⟨r, hr⟩ : ∃ r, build (Chain.ofPaths [a, b]) none false = .ok r := by
    refine exists_build_iff.mpr
      ⟨fun k source hsource => ?_, fun name value hvalue reference href => ?_⟩
    · rw [(honly k source hsource).2]
      rfl
    · obtain rfl := Chain.eq_index_of_params_ofPaths ha hb hane hbne hvalue
      exact absurd href (Template.inr_not_mem_references (by decide) reference)
  refine ⟨r, hr, fun q => (isSome_match?_iff hr).trans
    ⟨fun h => ?_, fun h k source regex hsource hregex => ?_⟩⟩
  · exact h .path _ x ((hconditions .path).trans (if_pos rfl)) hx
  · obtain ⟨rfl, hx'⟩ := honly k source hsource
    obtain rfl := Option.some.inj (hx'.symm.trans hregex)
    exact h

end Route

namespace Router

open Declaration

/-- The table of one route below some conditions on the path. -/
theorem exists_yields_ofPaths {paths : List Condition} {r : Route}
    (hr : Route.build (Chain.ofPaths paths) none false = .ok r) :
    ∃ t, Yields { options := {} } [(.replace, matchPaths paths (.route {}))] t ∧
      ∀ q, (t.match? q).isSome = (r.match? {} q).isSome := by
  obtain ⟨b, s, hchain, hroutes, ho, hrun⟩ := @run_matchPaths paths (route {}) (Behavior.root {})
    { registry := { options := {} } } rfl
  obtain ⟨g, hg, hroute⟩ := exists_run_route_eq ∅ b ho
  have hown : ownChain ∅ b.chain = Chain.ofPaths paths := by
    rw [hchain]
    rfl
  rw [hown, hr] at hroute
  have hpass : (matchPaths paths (.route {})).runPass {} = _ := hrun.trans hroute
  refine ⟨_, yields_replace hpass, fun q => ?_⟩
  have hregistered : (g.register r).routes = [{ r with index := some 0 }] := by
    rw [Registry.register, hg, hroutes]
    rfl
  have hmatch : Table.match? (.compile {} (reindex 0 (g.register r).routes) (g.register r).named
      (g.register r).metrics) q = Table.firstMatch? q 0 [r.match? {}] := by
    rw [Table.match?, Table.compile, hregistered]
    rfl
  rw [hmatch, Table.firstMatch?]
  cases r.match? {} q <;> rfl

/-- One route below a pattern and a literal text, the text behind the pattern, is all that a default
router has. It answers exactly the paths that consist of a text with some property and the literal
text. -/
def ServesBelow (source v : String) (P : String → Prop) : Prop :=
  ∃ t, Yields { options := {} }
      [(.replace, .matchPath (.pattern source) (.matchPath (.literal v) (.route {})))] t ∧
    ∀ q : Request, (t.match? q).isSome = true ↔ ∃ u, q.path = u ++ v ∧ P u

/-- Which texts may stand in front of the literal text is determined. -/
theorem ServesBelow.congr {source v : String} {P Q : String → Prop} (h : ServesBelow source v P)
    (h' : ServesBelow source v Q) (u : String) : P u ↔ Q u := by
  obtain ⟨t, hyields, ht⟩ := h
  obtain ⟨t', hyields', ht'⟩ := h'
  obtain rfl : t = t' := Except.ok.inj (hyields.2.symm.trans hyields'.2)
  have hfront : ∀ P : String → Prop, (∃ w, u ++ v = w ++ v ∧ P w) ↔ P u := by
    intro P
    constructor
    · rintro ⟨w, hw, hP⟩
      exact String.append_left_inj v |>.mp hw ▸ hP
    · exact fun hP => ⟨u, rfl, hP⟩
  have hsame := (ht { method := "GET", path := u ++ v }).symm.trans (ht' _)
  rwa [hfront P, hfront Q] at hsame

/-- If any text may stand in front of the literal text, then the texts that may are not those same
texts with one more text behind each of them. -/
theorem ServesBelow.not_of_longer {source v s : String} {P Q : String → Prop}
    (h : ServesBelow source v P) (hs : s ≠ "") (hQ : ∀ u, Q u ↔ ∃ w, u = w ++ s ∧ P w)
    (hP : ∃ u, P u) : ¬ServesBelow source v Q := by
  intro h'
  -- A text that may stand there is a shorter one that may, with the rest behind it.
  have hnone : ∀ n, ∀ u : String, u.length = n → ¬P u := by
    intro n
    induction n using Nat.strong_induction_on with
    | _ n ih =>
      rintro u rfl hu
      obtain ⟨w, rfl, hw⟩ := (hQ u).mp ((h.congr h' u).mp hu)
      have hlength : s.length ≠ 0 := fun heq => hs (String.length_eq_zero_iff.mp heq)
      exact ih w.length (by rw [String.length_append]; omega) w rfl hw
  obtain ⟨u, hu⟩ := hP
  exact hnone u.length u rfl hu

variable {body v : String} {ls : List Lexeme} {r : Regex}

/-- A route is served below a pattern, if what the two conditions are joined to is the pattern
behind a caret, and behind it something that stands for the literal text. -/
theorem servesBelow_of_spelled (h : Movable body ls r) (hv : v ≠ "" ∧ v ≠ "^$")
    (hcolon : ':' ∉ v.toList) {source : String} (hsource : ':' ∉ source.toList)
    (hne : (Condition.pattern source).isEmptyPath = false) {text : List Char}
    (htext : Spelled text v.toList)
    (hjoin : joinFragments source (Condition.literal v).source =
      String.ofList ('^' :: (body.toList ++ text) ++ ['$'])) :
    ServesBelow source v r.Whole := by
  obtain ⟨x, hparse, hx⟩ := h.exists_parse?_joined htext
  have hliteral : ':' ∉ (Condition.literal v).source.toList := by
    have := not_mem_escapeMeta (by decide) hcolon
    simpa [Condition.source] using this
  have hdemands : (Condition.literal v).isEmptyPath = false := by
    simpa [Condition.isEmptyPath, Condition.text] using hv
  obtain ⟨route, hroute, hmatch⟩ := Route.exists_build_ofPaths (a := .pattern source)
    (b := .literal v) hsource hliteral hne hdemands (hjoin ▸ hparse)
  obtain ⟨t, hyields, ht⟩ := exists_yields_ofPaths hroute
  refine ⟨t, hyields, fun q => ?_⟩
  rw [ht, hmatch, hx]

theorem isEmptyPath_pattern (h : body ≠ "$") :
    (Condition.pattern ("^" ++ body)).isEmptyPath = false := by
  have hempty : "^" ++ body ≠ "" := fun heq => by simpa using congrArg String.length heq
  have hanchors : "^" ++ body ≠ "^$" := fun heq => h (String.append_right_inj "^" |>.mp heq)
  simp [Condition.isEmptyPath, Condition.text, hempty, hanchors]

/-- What a literal text is joined to loses a dollar sign at its end. -/
theorem joinFragments_literal (left v : String) :
    joinFragments left (Condition.literal v).source =
      String.ofList (dropDollar left.toList ++ (escapeMeta v.toList ++ ['$'])) := by
  have hcaret : dropCaret ('^' :: (escapeMeta v.toList ++ ['$'])) = escapeMeta v.toList ++ ['$'] :=
    if_pos rfl
  rw [joinFragments, Condition.source, String.toList_ofList, List.cons_append, hcaret]

theorem joinFragments_of_getLast?_ne (hlast : body.toList.getLast? ≠ some '$') :
    joinFragments ("^" ++ body) (Condition.literal v).source =
      String.ofList ('^' :: (body.toList ++ escapeMeta v.toList) ++ ['$']) := by
  have hleft : ("^" ++ body).toList = '^' :: body.toList := String.toList_append
  have hlast' : ('^' :: body.toList).getLast? ≠ some '$' := by
    rw [List.getLast?_cons]
    cases hbody : body.toList.getLast? with
    | none => decide
    | some c => rwa [hbody] at hlast
  rw [joinFragments_literal, hleft, dropDollar, if_neg hlast']
  simp

/-- Of an escaped dollar sign the backslash is left. -/
theorem joinFragments_escapedDollar :
    joinFragments ("^" ++ (body ++ "\\$")) (Condition.literal v).source =
      String.ofList ('^' :: (body.toList ++ '\\' :: escapeMeta v.toList) ++ ['$']) := by
  have hleft : ("^" ++ (body ++ "\\$")).toList = ('^' :: (body.toList ++ ['\\'])) ++ ['$'] := by
    simp
  rw [joinFragments_literal, hleft, dropDollar, if_pos List.getLast?_concat, List.dropLast_concat]
  simp

/-- Literal texts below a pattern. Let a pattern have no colon, no bar outside of its groups, no
flags, and nothing that looks around, and let a literal text be not empty, have no colon, and be
more than the two anchors. On a default router, a route is declared below the pattern, which is
written behind a caret, and below the literal text. If the pattern does not end in a dollar sign,
the route is registered and answers exactly the paths that consist of a text that the pattern
matches as a whole and of the literal text. An escaped dollar sign behind the pattern stands for
itself; but in front of a slash it is dropped, so the route answers as if it were not there, and it
does not answer what it should. -/
theorem joined_path_serves (h : Movable body ls r) (hv : v ≠ "" ∧ v ≠ "^$")
    (hcolon : ':' ∉ v.toList) :
    (body.toList.getLast? ≠ some '$' → ServesBelow ("^" ++ body) v r.Whole) ∧
    ∃ ls' r', Movable (body ++ "\\$") ls' r' ∧
      (∀ u, r'.Whole u ↔ ∃ w, u = w ++ "$" ∧ r.Whole w) ∧
      (v.toList.head? = some '/' → ServesBelow ("^" ++ (body ++ "\\$")) v r.Whole ∧
        ((∃ u, r.Whole u) → ¬ServesBelow ("^" ++ (body ++ "\\$")) v r'.Whole)) := by
  refine ⟨fun hlast => ?_, ?_⟩
  · have hsource : ':' ∉ ("^" ++ body).toList := by simpa using h.colonless
    have hne : (Condition.pattern ("^" ++ body)).isEmptyPath = false := by
      refine isEmptyPath_pattern fun hbody => hlast ?_
      rw [hbody]
      rfl
    exact servesBelow_of_spelled h hv hcolon hsource hne (spelled_escapeMeta hcolon)
      (joinFragments_of_getLast?_ne hlast)
  · obtain ⟨ls', r', hmovable, hwhole⟩ := h.exists_escapedDollar
    refine ⟨ls', r', hmovable, hwhole, fun hslash => ?_⟩
    have hsource : ':' ∉ ("^" ++ (body ++ "\\$")).toList := by simpa using h.colonless
    have hne : (Condition.pattern ("^" ++ (body ++ "\\$"))).isEmptyPath = false := by
      refine isEmptyPath_pattern fun hbody => ?_
      have hlength := congrArg (·.toList.length) hbody
      simp at hlength
    obtain ⟨cs, hcs⟩ := List.head?_eq_some_iff.mp hslash
    have htext : Spelled ('\\' :: escapeMeta v.toList) v.toList := by
      rw [hcs] at hcolon ⊢
      exact spelled_backslash hcolon
    have hlost := servesBelow_of_spelled h hv hcolon hsource hne htext joinFragments_escapedDollar
    exact ⟨hlost, hlost.not_of_longer (by decide) hwhole⟩

/-- A number, or a dollar sign, below a version. -/
def versionPattern : String := "/v(1|2)[0-9$]"

/-- A group with two alternatives and a class with a dollar sign: nothing is lost. -/
theorem joined_path_serves_version : ∃ ls r, Movable versionPattern ls r ∧
    ("/users" ≠ "" ∧ "/users" ≠ "^$") ∧ ':' ∉ "/users".toList ∧
      versionPattern.toList.getLast? ≠ some '$' ∧
      ∃ t, Yields { options := {} } [(.replace, .matchPath (.pattern ("^" ++ versionPattern))
          (.matchPath (.literal "/users") (.route {})))] t ∧
        (t.match? { method := "GET", path := "/v2$/users" }).isSome = true := by
  have hsome : (parse? versionPattern).isSome = true := by decide +kernel
  obtain ⟨r, hr⟩ := Option.isSome_iff_exists.mp hsome
  obtain ⟨ls, h⟩ := exists_compiles hr
  have hchecks : ((lexemes? versionPattern.toList).all fun ls =>
      decide (Undivided (ls.map (·.token)) ∧ ∀ l ∈ ls, l.token.isPlain = true)) = true := by
    decide +kernel
  rw [h.lexes, Option.all_some, decide_eq_true_eq] at hchecks
  have hmovable : Movable versionPattern ls r := ⟨h, by decide, hchecks.1, hchecks.2⟩
  have hwhole : ((parse? versionPattern).all fun r => decide (r.Whole "/v2$")) = true := by
    decide +kernel
  rw [hr, Option.all_some, decide_eq_true_eq] at hwhole
  have hv : "/users" ≠ "" ∧ "/users" ≠ "^$" := by decide
  have hlast : versionPattern.toList.getLast? ≠ some '$' := by decide
  obtain ⟨t, hyields, ht⟩ := (joined_path_serves hmovable hv (by decide)).1 hlast
  exact ⟨ls, r, hmovable, hv, by decide, hlast, t, hyields, (ht _).mpr ⟨"/v2$", rfl, hwhole⟩⟩

/-- A pattern that ends in an escaped dollar sign matches a text with the dollar sign, but the paths
that are served are those without it. -/
theorem joined_path_loses_dollar : ∃ ls r, Movable "a\\$" ls r ∧ r.Whole "a$" ∧
    ¬ServesBelow "^a\\$" "/b" r.Whole ∧ ServesBelow "^a\\$" "/b" (Regex.char 'a').Whole := by
  have hplain : Movable "a" [⟨.atom (.char 'a'), ['a']⟩] (.char 'a') :=
    ⟨⟨by decide +kernel, ({} : Builder).push (.char 'a'), rfl, rfl, rfl⟩, by decide, by decide,
      List.forall_mem_singleton.mpr rfl⟩
  obtain ⟨ls, r, hmovable, hwhole⟩ := hplain.exists_escapedDollar
  have hbody : "a" ++ "\\$" = "a\\$" := by decide
  have hsource : "^" ++ ("a" ++ "\\$") = "^a\\$" := by decide
  have hjoin := @joinFragments_escapedDollar "a" "/b"
  rw [hsource] at hjoin
  have hlost : ServesBelow "^a\\$" "/b" (Regex.char 'a').Whole :=
    servesBelow_of_spelled hplain (by decide) (by decide) (by decide) (by decide)
      (@spelled_backslash ['b'] (by decide)) hjoin
  have hdollar : r.Whole "a$" := (hwhole "a$").mpr ⟨"a", by decide, by decide +kernel⟩
  refine ⟨ls, r, hbody ▸ hmovable, hdollar, fun hserves => ?_, hlost⟩
  exact absurd ((hserves.congr hlost "a$").mp hdollar) (by decide +kernel)

end Router

end HttpRouting
