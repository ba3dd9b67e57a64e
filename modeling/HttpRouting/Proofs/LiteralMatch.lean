import HttpRouting.Proofs.RoundTrip
import HttpRouting.Proofs.RouteAnswer
import Mathlib.Data.List.Forall2

/-!
# Matches of literal paths

Below literal conditions on the path a route can always be registered, whatever characters they
have: a character that means something in a pattern stands for itself, and only the placeholders of
each condition are open. The path of a request is matched exactly if it can be cut into one part
for each condition, each of which spells its condition with something for every placeholder.

## Main results

* `admits_flatMap` — texts that are admitted one after the other
* `Route.exists_build_of_literal` — literal chains describe routes
* `Declaration.match_literal_iff` — the paths that literal conditions match
-/

namespace HttpRouting

open Placeholder Shape

/-! ### Parts of a text -/

theorem admits_append {xs ys : Tokens} {t : List Char} :
    Admits (xs ++ ys) t ↔ ∃ u v, t = u ++ v ∧ Admits xs u ∧ Admits ys v := by
  constructor
  · intro h
    induction xs generalizing t with
    | nil => exact ⟨[], t, rfl, .nil, h⟩
    | cons x xs ih =>
      cases h with
      | char c h =>
        obtain ⟨u, v, rfl, hu, hv⟩ := ih h
        exact ⟨c :: u, v, rfl, .char c hu, hv⟩
      | @placeholder name w _ _ hne hw h =>
        obtain ⟨u, v, rfl, hu, hv⟩ := ih h
        exact ⟨w ++ u, v, (List.append_assoc w u v).symm, .placeholder name hne hw hu, hv⟩
  · rintro ⟨u, v, rfl, hu, hv⟩
    induction hu with
    | nil => exact hv
    | char c _ ih => exact .char c ih
    | placeholder name hne hw _ ih =>
      rw [List.append_assoc]
      exact .placeholder name hne hw ih

/-- Texts that are admitted one after the other make a text that is admitted as a whole. -/
theorem admits_flatMap {α : Type} {f : α → Tokens} {as : List α} {t : List Char} :
    Admits (as.flatMap f) t ↔
      ∃ ts : List (List Char), t = ts.flatten ∧ List.Forall₂ (fun a u => Admits (f a) u) as ts := by
  induction as generalizing t with
  | nil =>
    constructor
    · rintro ⟨⟩
      exact ⟨[], rfl, .nil⟩
    · rintro ⟨_, rfl, ⟨⟩⟩
      exact .nil
  | cons a as ih =>
    rw [List.flatMap_cons, admits_append]
    constructor
    · rintro ⟨u, v, rfl, hu, hv⟩
      obtain ⟨ts, rfl, hts⟩ := ih.mp hv
      exact ⟨u :: ts, rfl, .cons hu hts⟩
    · rintro ⟨_, rfl, h⟩
      cases h with
      | cons hu hts => exact ⟨_, _, rfl, hu, ih.mpr ⟨_, rfl, hts⟩⟩

theorem literalText_of_empty {p : String} (h : ¬(p ≠ "" ∧ p ≠ "^$")) : literalText p = [] := by
  have hempty : (Condition.literal p).isEmptyPath = true := by
    simpa [Condition.isEmptyPath, Condition.text, imp_iff_not_or] using h
  rw [literalText, if_pos hempty]

theorem literalText_of_ne {p : String} (h : p ≠ "" ∧ p ≠ "^$") : literalText p = p.toList := by
  have hkept : (Condition.literal p).isEmptyPath = false := by
    simpa [Condition.isEmptyPath, Condition.text] using h
  rw [literalText, if_neg (by simp [hkept])]

/-- A path that is empty or starts with a slash demands what it says. -/
theorem literalText_of_slash {p : String} (h : ∀ c ∈ p.toList.head?, c = '/') :
    literalText p = p.toList := by
  by_cases hne : p ≠ "" ∧ p ≠ "^$"
  · exact literalText_of_ne hne
  · rw [literalText_of_empty hne]
    rw [not_and_or, not_not, not_not] at hne
    rcases hne with rfl | rfl
    · rfl
    · exact absurd (h '^' rfl) (by decide)

/-- Conditions that demand nothing have no placeholders and no characters. -/
theorem flatMap_tokens_literalText (paths : List String) :
    (paths.flatMap fun p => Segment.tokens (literalText p)) =
      (paths.filter fun p => p ≠ "" ∧ p ≠ "^$").flatMap fun p => Segment.tokens p.toList := by
  induction paths with
  | nil => rfl
  | cons p paths ih =>
    rw [List.flatMap_cons, ih]
    by_cases hp : p ≠ "" ∧ p ≠ "^$"
    · rw [literalText_of_ne hp, List.filter_cons_of_pos (by simpa using hp), List.flatMap_cons]
    · rw [literalText_of_empty hp, Segment.tokens_eq_nil.mpr rfl,
        List.filter_cons_of_neg (by simpa using hp)]
      rfl

/-- A literal chain describes a route, if the parameters of its steps refer to nothing. -/
theorem Route.exists_build_of_literal {fs : List Frame} (hfs : ∀ f ∈ fs, f.IsLiteral)
    (hparams : ∀ f ∈ fs, ∀ name value : String, f.params[name]? = some value →
      ∀ reference, .inr reference ∉ Template.references value.toList)
    (decision : Option Decision) (isDefault : Bool) :
    ∃ r, build (Chain.ofFrames fs) decision isDefault = .ok r := by
  refine exists_build_of_regular (fun f hf => (hfs f hf).regular) (fun k source hk hsource => ?_)
    hparams decision isDefault
  rw [Chain.getElem?_conditions_of_ne hfs hk] at hsource
  cases hsource

/-- Literal conditions bring no parameters but those that read their placeholders. -/
theorem plainParams_literalFrames {paths : List String} {own : Params}
    (hown : ∀ name value : String, own[name]? = some value → Template.IsPlain value) :
    PlainParams (Chain.literalFrames paths own ++ [Chain.rootFrame]) := by
  refine List.forall_mem_append.mpr ⟨fun f hf name value h => ?_, plainParams_rootFrame⟩
  rcases Chain.mem_literalFrames hf with rfl | ⟨p, -, rfl⟩
  · exact hown name value h
  · rw [Frame.literal, Std.ExtTreeMap.getElem?_empty] at h
    cases h

/-! ### Declarations -/

namespace Declaration

/-- A route whose own parameters refer to nothing can be registered below any literal conditions. -/
theorem exists_runPass_plain (paths : List String) {own : Params}
    (hown : ∀ name value : String, own[name]? = some value → Template.IsPlain value) :
    ∃ s, (matchPaths (paths.map .literal) (route { params := own })).runPass {} = (.ok (), s) := by
  have hplain := @plainParams_literalFrames paths own hown
  obtain ⟨r, hr⟩ := Route.exists_build_of_literal Chain.isLiteral_literalFrames
    (fun f hf name value hvalue => Template.inr_not_mem_references (hplain f hf name value hvalue))
    none false
  obtain ⟨b, s, hframes, -, ho, hrun⟩ := runPass_matchPaths paths own
  rw [hframes] at hr
  obtain ⟨g, -, hroute⟩ := exists_run_route_eq own b ho
  rw [hr] at hroute
  exact ⟨_, hrun.trans hroute⟩

/-- A route without parameters of its own can be registered below any literal conditions. -/
theorem exists_runPass_literal (paths : List String) :
    ∃ s, (matchPaths (paths.map .literal) (route {})).runPass {} = (.ok (), s) := by
  refine exists_runPass_plain paths fun name value h => ?_
  rw [Std.ExtTreeMap.getElem?_empty] at h
  cases h

/-- Literal paths accept what they spell. Let one route be declared below literal conditions on the
path, of which at least one demands something. The route is registered, and it matches a request
exactly if the path of the request consists of one part for each condition that demands something:
the characters of the condition as they are, with some characters other than separators for each
of its placeholders. -/
theorem match_literal_iff {paths : List String} (h : ∃ p ∈ paths, p ≠ "" ∧ p ≠ "^$") :
    ∃ s r, (matchPaths (paths.map .literal) (route {})).runPass {} = (.ok (), s) ∧
      s.registry.routes = [r] ∧
      ∀ q : Request, (r.match? {} q).isSome = true ↔
        ∃ ts : List (List Char), q.path.toList = ts.flatten ∧
          List.Forall₂ (fun p t => Admits (Segment.tokens p.toList) t)
            (paths.filter fun p => p ≠ "" ∧ p ≠ "^$") ts := by
  obtain ⟨s, hrun⟩ := exists_runPass_literal paths
  obtain ⟨r, hr, hroutes⟩ := build_of_runPass hrun
  refine ⟨s, _, hrun, hroutes, fun q => ?_⟩
  have hfs := @Chain.isLiteral_literalFrames paths ∅
  have hpieces := @Chain.pathPieces_literalFrames_flatMap paths ∅
  rw [flatMap_tokens_literalText] at hpieces
  have hne : (ofTokens true ((paths.filter fun p => p ≠ "" ∧ p ≠ "^$").flatMap fun p =>
      Segment.tokens p.toList)).pieces ≠ [] := by
    rw [Ne, pieces_ofTokens_eq_nil, List.flatMap_eq_nil_iff]
    intro hnil
    obtain ⟨p, hp, hkept⟩ := h
    have htokens := hnil p (List.mem_filter.mpr ⟨hp, by simpa using hkept⟩)
    exact hkept.1 (String.toList_eq_nil_iff.mp (Segment.tokens_eq_nil.mp htokens))
  have htests := Route.tests_of_build hfs hr (tidy_ofTokens (.inl rfl)) hpieces hne
  have hdecision : r.decision = none := by
    obtain ⟨tests, params, -, -, rfl⟩ := Route.build_eq_ok_iff.mp hr
    rfl
  -- The path is the only test, and it is about the conditions one after the other.
  rw [Route.match?_of_tests (r := { r with index := some 0 }) htests hdecision, Option.isSome_map,
    ← String.ofList_toList (s := q.path), isSome_captures?_ofTokens, admits_flatMap,
    String.toList_ofList]

/-- Conditions whose characters mean something in a pattern, one of which demands nothing. -/
def metaPaths : List String := ["^$", "/^:x$", "(::"]

/-- Anchors and an opening are matched as they are, next to a value for each placeholder. -/
theorem match_literal_iff_metaPaths : (∃ p ∈ metaPaths, p ≠ "" ∧ p ≠ "^$") ∧
    ∃ s r, (matchPaths (metaPaths.map .literal) (route {})).runPass {} = (.ok (), s) ∧
      s.registry.routes = [r] ∧
      ∀ q : Request, q.path = "/^1$(2" → (r.match? {} q).isSome = true := by
  have hkept : ∃ p ∈ metaPaths, p ≠ "" ∧ p ≠ "^$" := by decide
  obtain ⟨s, r, hrun, hroutes, hmatch⟩ := match_literal_iff hkept
  refine ⟨hkept, s, r, hrun, hroutes, fun q hq => (hmatch q).mpr ?_⟩
  have hname : Segment.tokens "/^:x$".toList =
      [.inl '/', .inl '^', .inr (some ['x']), .inl '$'] := by decide +kernel
  have hanonymous : Segment.tokens "(::".toList = [.inl '(', .inr none] := by decide +kernel
  have hfirst : Admits (Segment.tokens "/^:x$".toList) "/^1$".toList := by
    rw [hname]
    exact .char '/' (.char '^' (.placeholder (v := ['1']) _ (by decide)
      (List.forall_mem_singleton.mpr (by decide)) (.char '$' .nil)))
  have hsecond : Admits (Segment.tokens "(::".toList) "(2".toList := by
    rw [hanonymous]
    exact .char '(' (.placeholder (v := ['2']) _ (by decide)
      (List.forall_mem_singleton.mpr (by decide)) .nil)
  rw [hq]
  exact ⟨["/^1$".toList, "(2".toList], by decide, .cons hfirst (.cons hsecond .nil)⟩

end Declaration

end HttpRouting
