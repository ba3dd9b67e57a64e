import HttpRouting.Proofs.MethodCase
import HttpRouting.Proofs.PlaceholderParams

/-!
# Routes for sets of methods

A set of methods becomes a pattern that lists their names between anchors. While case counts, it
accepts the names and nothing else. While case is ignored, the method of a request is put into small
letters, which changes the capital letters of ASCII, and the pattern gets a flag under which a
letter stands for all of its case variants. One letter of the names has a variant beyond ASCII: the
long s stays what it is in the request, and the pattern reads it as an s. A literal condition on the
method knows no variants.

## Main definitions

* `readLetter`, `readMethod` — a letter and a method as the pattern of a set reads them

## Main results

* `Method.mem_variantsOf_iff` — the letters that are read as a letter of a name
* `MethodSet.isSome_captures?_readMethod` — the methods that the pattern of a set accepts
* `Route.methodSet_accepts` — the requests that a route for a set of methods matches
-/

namespace HttpRouting

open Placeholder Regex

/-! ### Letters -/

/-- A letter of a method while case is ignored: a capital letter of ASCII is a small one, and the
long s is an s. -/
def readLetter (c : Char) : Char := if c = 'ſ' then 's' else c.toLower

/-- A method as the pattern of a set reads it. -/
def readMethod (ignored : Bool) (method : String) : String :=
  if ignored then String.ofList (method.toList.map readLetter) else method

theorem toLower_not_mem_capitals (c : Char) : c.toLower ∉ Unicode.capitals := by
  intro h
  have hsmall : c.toLower.toLower = c.toLower := by
    rcases Unicode.toLower_eq_or_mem_capitals c with hc | hc
    · rw [hc, hc]
    · exact (Unicode.toLower_of_mem_capitals hc).2.1
  exact (Unicode.toLower_of_mem_capitals h).1 hsmall

theorem toLower_eq_longS_iff {c : Char} : c.toLower = 'ſ' ↔ c = 'ſ' := by
  constructor
  · intro h
    rcases Unicode.toLower_eq_or_mem_capitals c with hc | hc
    · exact hc.symm.trans h
    · exact absurd h (Unicode.toLower_of_mem_capitals hc).2.2
  · rintro rfl
    decide

namespace Method

/-- The letters in the names of methods have their capital letters as case variants, and the s has
the long s as well. -/
theorem variantsOf_of_mem (m : Method) {d : Char} (hd : d ∈ m.token.toList) :
    CharSet.variantsOf true d = .ofList (d :: d.toUpper :: if d = 's' then ['ſ'] else []) ∧
      d.toUpper ∈ Unicode.capitals ∧ d ≠ 'ſ' :=
  (of_decide_eq_true (List.all_eq_true.mp m.all_token.2 d hd)).2.2

theorem mem_variantsOf_iff {m : Method} {d : Char} (hd : d ∈ m.token.toList) (c : Char) :
    c.toLower ∈ CharSet.variantsOf true d ↔ readLetter c = d := by
  obtain ⟨hvariants, hcapital, hother⟩ := m.variantsOf_of_mem hd
  have hupper : c.toLower ≠ d.toUpper := fun h =>
    toLower_not_mem_capitals c (h ▸ hcapital)
  have hmem : c.toLower ∈ CharSet.variantsOf true d ↔
      c.toLower = d ∨ d = 's' ∧ c = 'ſ' := by
    rw [hvariants, CharSet.mem_ofList, List.mem_cons, List.mem_cons, or_iff_right hupper]
    by_cases hs : d = 's'
    · rw [if_pos hs, List.mem_singleton, toLower_eq_longS_iff, and_iff_right hs]
    · simp [hs]
  rw [hmem, readLetter]
  by_cases hc : c = 'ſ'
  · have hlower : c.toLower ≠ d := by
      rw [toLower_eq_longS_iff.mpr hc]
      exact Ne.symm hother
    rw [if_pos hc, or_iff_right hlower, and_iff_left hc, eq_comm]
  · rw [if_neg hc, or_iff_left fun h => hc h.2]

/-- A method is read letter by letter as a name. -/
theorem forall₂_readsLetter_iff {m : Method} {w : List Char} (hw : ∀ d ∈ w, d ∈ m.token.toList)
    {cs : List Char} :
    List.Forall₂ (ReadsLetter true) (cs.map Char.toLower) w ↔ cs.map readLetter = w := by
  induction w generalizing cs with
  | nil => rw [List.forall₂_nil_right_iff, List.map_eq_nil_iff, List.map_eq_nil_iff]
  | cons d w ih =>
    obtain ⟨hd, hw⟩ := List.forall_mem_cons.mp hw
    cases cs with
    | nil => simp
    | cons c cs =>
      rw [List.map_cons, List.map_cons, List.forall₂_cons, List.cons.injEq, ih hw]
      exact and_congr_left' (mem_variantsOf_iff hd c)

end Method

/-! ### Sets -/

namespace MethodSet

variable {s : MethodSet}

/-- The condition of a set has the pattern of the set, behind the flag for case if it is ignored. -/
theorem toList_source_ofMethods (s : MethodSet) (ignored : Bool) :
    (if ignored then (Condition.ofMethods s).foldCase else .ofMethods s).source.toList =
      (if ignored then "(?i)".toList else []) ++ s.source.toList := by
  cases ignored with
  | false => rfl
  | true =>
    have hfold : (Condition.ofMethods s).foldCase =
        .pattern (String.ofList ("(?i)".toList ++ s.source.toList)) := tested_ofMethods s
    rw [if_pos rfl, hfold, Condition.source, String.toList_ofList, if_pos rfl]

/-- The pattern of a set accepts the methods that it reads as the name of a member. -/
theorem isSome_captures?_readMethod (hs : s.isEmpty = false) (ignored : Bool) (pattern : String) :
    ∃ regex, parse? (expand (if ignored then (Condition.ofMethods s).foldCase else
        .ofMethods s).source pattern).source = some regex ∧
      ∀ q : Request, (regex.captures? (q.subject ignored .method)).isSome = true ↔
        ∃ m ∈ s, readMethod ignored q.method = m.token := by
  have hsource := toList_source_ofMethods s ignored
  have hne : s.toList ≠ [] := by
    obtain ⟨m, hm⟩ := exists_mem hs
    exact List.ne_nil_of_mem (mem_toList.mpr hm)
  have hplain : ':' ∉ (if ignored then (Condition.ofMethods s).foldCase else
      .ofMethods s).source.toList := by
    rw [hsource, List.mem_append, not_or]
    exact ⟨by cases ignored <;> decide, s.plain_source⟩
  obtain ⟨regex, hregex, haccepts⟩ := isSome_captures?_source hne ignored hsource
  rw [expand_of_plain hplain]
  refine ⟨regex, hregex, fun q => (haccepts _).trans (exists_congr fun m => and_congr_right' ?_)⟩
  rw [← String.toList_inj]
  cases ignored with
  | true =>
    have hsubject : (q.subject true .method).toList = q.method.toList.map Char.toLower :=
      String.toList_ofList
    rw [hsubject, readMethod, if_pos rfl, String.toList_ofList]
    exact Method.forall₂_readsLetter_iff fun _ => id
  | false => exact List.forall₂_eq_eq_eq ▸ Iff.rfl

end MethodSet

/-! ### Routes -/

namespace Chain

variable {o : Options} {fs : List Frame}

/-- Without a condition of a step on a key, a chain has none on it. -/
theorem getElem?_conditions_eq_none {c : Chain} {k : Key}
    (h : ∀ n ∈ c, n.conditions[k]? = none) : c.conditions[k]? = none := by
  induction c with
  | nil => exact Std.ExtTreeMap.getElem?_empty
  | cons n outer ih =>
    obtain ⟨hn, houter⟩ := List.forall_mem_cons.mp h
    have hmerge : (merge (conditions outer) n.conditions)[k]? =
        n.conditions[k]?.or (conditions outer)[k]? := by
      by_cases hk : k = .path
      · subst hk
        exact getElem?_merge_path_of_none (.inr hn)
      · exact getElem?_merge_of_ne hk
    rw [conditions, hmerge, hn, Option.none_or, ih houter]

theorem getElem?_conditions_root (o : Options) : ∀ n ∈ (Behavior.root o).chain, ∀ k : Key,
    n.conditions[k]? = none := by
  refine List.forall_mem_singleton.mpr fun k => ?_
  exact Std.ExtTreeMap.getElem?_empty

/-- Below the root the innermost condition on the method counts. -/
theorem getElem?_conditions_method_root {c : Condition} (h : method? fs = some c) :
    (ofFramesWith o fs ++ (Behavior.root o).chain).conditions[Key.method]? =
      some (expand (if o.caseInsensitiveMethod then c.foldCase else c).source
        o.placeholderPattern).source := by
  have hsteps := getElem?_conditions_method o o.caseInsensitiveMethod fs
  rw [h, getElem?_conditions_innermost (by decide)] at hsteps
  rw [getElem?_conditions_innermost (by decide), List.findSome?_append]
  exact (congrArg (Option.or · _) hsteps).trans Option.some_or

/-- Steps with conditions on the method only make no others. -/
theorem getElem?_conditions_of_only (h : ∀ f ∈ fs, ∀ k, k ≠ Key.method → f.conditions[k]? = none)
    {k : Key} (hk : k ≠ .method) :
    (ofFramesWith o fs ++ (Behavior.root o).chain).conditions[k]? = none := by
  refine getElem?_conditions_eq_none (List.forall_mem_append.mpr
    ⟨List.forall_mem_map.mpr fun f hf => ?_, fun n hn => getElem?_conditions_root o n hn k⟩)
  have hkept : f.conditions.kept[k]? = none := by
    by_cases hpath : k = .path
    · subst hpath
      rw [Conditions.getElem?_kept_path, h f hf _ hk]
      rfl
    · rw [Conditions.getElem?_kept hpath, h f hf k hk]
  rw [Frame.getElem?_conditions_nodeWith, hkept, Option.map_none]

end Chain

namespace Route

/-- Steps whose only condition is a set of methods describe a route, if the parameters are plain. It
matches the requests whose method is the name of a member. While case is ignored, the small letters
of the method have to be the name of a member, where the long s counts as an s. -/
theorem methodSet_accepts {o : Options} {fs : List Frame} {s : MethodSet} (hs : s.isEmpty = false)
    (hmethod : Chain.method? fs = some (.ofMethods s))
    (honly : ∀ f ∈ fs, ∀ k, k ≠ Key.method → f.conditions[k]? = none) (isDefault : Bool) :
    (PlainParams fs → Template.IsPlain o.defaultAction →
      ∃ r, build (Chain.ofFramesWith o fs ++ (Behavior.root o).chain) none isDefault = .ok r) ∧
    ∀ r, build (Chain.ofFramesWith o fs ++ (Behavior.root o).chain) none isDefault = .ok r →
      ∀ q : Request, (r.match? o q).isSome = true ↔
        ∃ m ∈ s, readMethod o.caseInsensitiveMethod q.method = m.token := by
  obtain ⟨regex, hregex, haccepts⟩ :=
    MethodSet.isSome_captures?_readMethod hs o.caseInsensitiveMethod o.placeholderPattern
  have hsource := Chain.getElem?_conditions_method_root (o := o) hmethod
  have hother := fun k => @Chain.getElem?_conditions_of_only o fs honly k
  constructor
  · intro hplain haction
    cases hbuild : build (Chain.ofFramesWith o fs ++ (Behavior.root o).chain) none isDefault with
    | ok r => exact ⟨r, rfl⟩
    | error e =>
      -- Only a condition that is no expression could refuse the route.
      obtain ⟨k, source, hinvalid, -⟩ :=
        (build_eq_error_iff hplain haction none isDefault e).mp hbuild
      have hcondition := Std.ExtTreeMap.mem_toList_iff_getElem?_eq_some.mp
        (List.mem_of_find?_eq_some hinvalid)
      have hnone := List.find?_some hinvalid
      by_cases hk : k = .method
      · subst hk
        obtain rfl := Option.some.inj (hsource.symm.trans hcondition)
        rw [hregex] at hnone
        cases hnone
      · rw [hother k hk] at hcondition
        cases hcondition
  · intro r hr q
    rw [isSome_match?_iff hr, ← haccepts q]
    constructor
    · exact fun h => h .method _ _ hsource hregex
    · intro h k source regex' hcondition hregex'
      by_cases hk : k = .method
      · subst hk
        obtain rfl := Option.some.inj (hsource.symm.trans hcondition)
        obtain rfl := Option.some.inj (hregex.symm.trans hregex')
        exact h
      · rw [hother k hk] at hcondition
        cases hcondition

/-- A step with a condition on the method. -/
def methodFrame (c : Condition) : Frame := { conditions := (∅ : Conditions).insert .method c }

/-- A set with two methods. -/
def postOrDelete : MethodSet := .ofList [.post, .delete]

/-- Any capital letters do for a member, and another method is not accepted. -/
theorem methodSet_accepts_postOrDelete :
    (postOrDelete.isEmpty = false ∧
        Chain.method? [methodFrame (.ofMethods postOrDelete)] = some (.ofMethods postOrDelete) ∧
        (∀ f ∈ [methodFrame (.ofMethods postOrDelete)], ∀ k, k ≠ Key.method →
          f.conditions[k]? = none) ∧
        PlainParams [methodFrame (.ofMethods postOrDelete)] ∧
        Template.IsPlain ({} : Options).defaultAction) ∧
      ∃ r, build (Chain.ofFramesWith {} [methodFrame (.ofMethods postOrDelete)] ++
          (Behavior.root {}).chain) none false = .ok r ∧
        (r.match? {} { method := "Delete", path := "/" }).isSome = true ∧
        ¬(r.match? {} { method := "GET", path := "/" }).isSome = true := by
  have hmethod : Chain.method? [methodFrame (.ofMethods postOrDelete)] =
      some (.ofMethods postOrDelete) := by
    rw [Chain.method?, List.findSome?_singleton, methodFrame, Std.ExtTreeMap.getElem?_insert_self]
  have honly : ∀ f ∈ [methodFrame (.ofMethods postOrDelete)], ∀ k, k ≠ Key.method →
      f.conditions[k]? = none := by
    refine List.forall_mem_singleton.mpr fun k hk => ?_
    rw [methodFrame, Std.ExtTreeMap.getElem?_insert, if_neg (by simpa using Ne.symm hk),
      Std.ExtTreeMap.getElem?_empty]
  have hplain : PlainParams [methodFrame (.ofMethods postOrDelete)] :=
    plainParams_conditions (List.forall_mem_nil _)
  have hempty : postOrDelete.isEmpty = false := by decide
  obtain ⟨hbuild, hmatch⟩ := methodSet_accepts (o := {}) hempty hmethod honly false
  obtain ⟨r, hr⟩ := hbuild hplain (by decide)
  refine ⟨⟨hempty, hmethod, honly, hplain, by decide⟩, r, hr, ?_, ?_⟩
  · exact (hmatch r hr _).mpr ⟨.delete, by decide, by decide⟩
  · rw [hmatch r hr]
    rintro ⟨m, hmem, hm⟩
    revert hmem hm
    cases m <;> decide

/-- A route for the set with one method accepts a method with a long s, whose small letters are not
the name of the method. A route for the method alone does not. -/
theorem methodSet_accepts_longS :
    (∃ r, build (Chain.ofFramesWith {} [methodFrame (.ofMethods (.single .post))] ++
          (Behavior.root {}).chain) none false = .ok r ∧
        (r.match? {} { method := "poſt", path := "/" }).isSome = true) ∧
      (¬∃ m ∈ MethodSet.single .post,
        String.ofList ("poſt".toList.map Char.toLower) = m.token) ∧
      ∃ r, build (Chain.ofFramesWith {} [methodFrame (.ofMethod .post)] ++
          (Behavior.root {}).chain) none false = .ok r ∧
        (r.match? {} { method := "poſt", path := "/" }).isNone = true := by
  refine ⟨?_, ?_, ?_⟩
  · refine exists_of_any_toOption ?_
    decide +kernel
  · rintro ⟨m, -, hm⟩
    revert hm
    cases m <;> decide
  · refine exists_of_any_toOption ?_
    decide +kernel

end Route

end HttpRouting
