import HttpRouting.Proofs.CaselessReading
import HttpRouting.Proofs.MethodConditions
import HttpRouting.Proofs.OptionChecks
import HttpRouting.Proofs.PlaceholderParams

/-!
# Methods without regard to case

With the option that ignores the case of methods, requests are put into small letters, literal
conditions on the method as well, and patterns ignore case. A condition has to read small letters
wherever it reads any letters, for what it has accepted to be accepted still.

The placeholders of a literal condition are put into small letters with it. The parameters that read
them follow, and so does everything that has been taken away with them. The values that the steps
give do not follow. A value that refers to the old name of a placeholder no longer finds it, and one
that has been hidden behind that name comes to light. So a route is still there exactly if what its
given values refer to is there. Values that neither refer to such a name nor stand under one find
what they did.

## Main definitions

* `Condition.ReadsSmall` — a condition on the method that reads small letters
* `Condition.Renames` — a name that it takes from a placeholder or gives to one
* `Chain.AvoidsRenamed` — the given values have nothing to do with such names
* `Chain.method?` — the condition on the method that counts
* `Chain.LowersMethod` — two chains that differ in the condition on the method

## Main results

* `Condition.ReadsSmall.foldLowers` — the two expressions of a condition on the method
* `Condition.readsSmall_pattern`, `Options.readsSmall_default` — conditions that read small letters
* `Chain.lowersMethod_methodCase` — what changes in the conditions of a chain
* `Chain.getElem?_placeholders_methodCase`, `Chain.getElem?_params_methodCase` — what stays the same
  in its placeholders and parameters
* `Route.exists_build_methodCase_iff` — when a route is still there
* `Route.accepts_methodCase` — what is accepted is still accepted
-/

namespace HttpRouting

open Placeholder Regex Shape

theorem getElem?_foldl_insert_congr {x : String} (l : List (String × Nat)) (k : Key)
    {m m' : Std.ExtTreeMap String (Key × Nat)} (hm : m'[x]? = m[x]?) :
    (l.foldl (fun m p => m.insert p.1 (k, p.2)) m')[x]? =
      (l.foldl (fun m p => m.insert p.1 (k, p.2)) m)[x]? := by
  induction l generalizing m m' with
  | nil => exact hm
  | cons p l ih =>
    refine ih ?_
    rw [Std.ExtTreeMap.getElem?_insert, Std.ExtTreeMap.getElem?_insert, hm]

/-! ### Conditions -/

/-- The options with another answer to whether the case of methods counts. -/
def Options.methodCase (o : Options) (ignored : Bool) : Options :=
  { o with caseInsensitiveMethod := ignored }

/-- The placeholder pattern may stand in parentheses, does not capture, and reads small letters
wherever it reads any letters. -/
structure Options.ReadsSmall (o : Options) : Prop where
  /-- In parentheses the pattern compiles. -/
  parens : (parse? ("(" ++ o.placeholderPattern ++ ")")).isSome = true
  /-- No group of the pattern captures. -/
  plain : ∀ ls, lexemes? o.placeholderPattern.toList = some ls →
    ∀ l ∈ ls, l.token.opensGroup = false
  /-- Every token of the pattern reads small letters. -/
  lowers : ∀ ls, lexemes? o.placeholderPattern.toList = some ls →
    Builder.LowersAlong (ls.map (·.token)) {} {}

namespace Condition

/-- The builder with which a pattern that has been made to ignore case starts. -/
def foldStart (s : String) : Builder :=
  if "(?i)".toList.isPrefixOf s.toList then {}
  else { flags := { ignoreCase := true }, parts := [none] }

/-- A condition on the method reads small letters, once case is ignored, wherever it reads any
letters. A text does so except for its placeholders. A pattern has to compile with the flag that
ignores case, and each of its tokens has to read small letters. -/
def ReadsSmall (o : Options) : Condition → Prop
  | literal t => (∀ name, .inr name ∉ Segment.tokens t.toList) ∨ o.ReadsSmall
  | pattern s =>
    (parse? (expand (pattern s).foldCase.source o.placeholderPattern).source).isSome = true ∧
      ∀ ls, lexemes? (expand s o.placeholderPattern).source.toList = some ls →
        Builder.LowersAlong (ls.map (·.token)) {} (foldStart s)

/-- A name that a text loses or gains when it is put into small letters: that of a placeholder with
capital letters, before or after. -/
def Renames (x : String) : Condition → Prop
  | literal t => ∃ name, .inr (some name) ∈ Segment.tokens t.toList ∧
      name.map Char.toLower ≠ name ∧ (x.toList = name ∨ x.toList = name.map Char.toLower)
  | pattern _ => False

variable {o : Options} {c : Condition}

/-- The tokens of a text in small letters. -/
abbrev lowerToken : Char ⊕ Option (List Char) → Char ⊕ Option (List Char) :=
  Sum.map Char.toLower (Option.map (·.map Char.toLower))

/-- Small letters change the numbered placeholders under the names that they change, before and
after, only. -/
theorem getElem?_foldl_named_lowerToken {x : String} {xs : Tokens}
    (hxs : ∀ name, .inr (some name) ∈ xs → name.map Char.toLower ≠ name →
      x.toList ≠ name ∧ x.toList ≠ name.map Char.toLower) (k : Key) (n : Nat)
    {m m' : Std.ExtTreeMap String (Key × Nat)} (hm : m'[x]? = m[x]?) :
    ((Node.named ⟨"", numbered (xs.map lowerToken) n⟩).foldl
        (fun m p => m.insert p.1 (k, p.2)) m')[x]? =
      ((Node.named ⟨"", numbered xs n⟩).foldl (fun m p => m.insert p.1 (k, p.2)) m)[x]? := by
  induction xs generalizing n m m' with
  | nil => exact hm
  | cons y xs ih =>
    have ih := @ih fun name hname => hxs name (List.mem_cons_of_mem _ hname)
    cases y with
    | inl c => exact ih n hm
    | inr token =>
      cases token with
      | none => exact ih (n + 1) hm
      | some name =>
        have hinsert :
            (m'.insert (String.ofList (name.map Char.toLower)) (k, n + 1))[x]? =
              (m.insert (String.ofList name) (k, n + 1))[x]? := by
          rw [Std.ExtTreeMap.getElem?_insert, Std.ExtTreeMap.getElem?_insert, hm]
          by_cases hname : name.map Char.toLower = name
          · rw [hname]
          · -- Neither of the two names is the one that is looked up.
            obtain ⟨hold, hnew⟩ := hxs name List.mem_cons_self hname
            have hne : ∀ cs, x.toList ≠ cs → ¬compare (String.ofList cs) x = .eq := by
              intro cs hcs heq
              exact hcs (Std.compare_eq_iff_eq.mp heq ▸ String.toList_ofList)
            rw [if_neg (hne _ hnew), if_neg (hne _ hold)]
        exact ih (n + 1) hinsert

/-- Ignoring case changes the placeholders of a condition under the names that it renames only. -/
theorem getElem?_foldl_named_foldCase {x : String} (h : ¬c.Renames x) (pattern : String) (k : Key)
    {m m' : Std.ExtTreeMap String (Key × Nat)} (hm : m'[x]? = m[x]?) :
    ((Node.named (expand c.foldCase.source pattern)).foldl (fun m p => m.insert p.1 (k, p.2))
        m')[x]? =
      ((Node.named (expand c.source pattern)).foldl (fun m p => m.insert p.1 (k, p.2)) m)[x]? := by
  cases c with
  | literal t =>
    rw [foldCase, expand_literal, expand_literal, String.toList_ofList, tokens_toLower]
    refine getElem?_foldl_named_lowerToken (fun name hname hlower => ?_) k 0 hm
    exact not_or.mp fun hx => h ⟨name, hname, hlower, hx⟩
  | pattern s =>
    rw [foldCase]
    split
    · exact getElem?_foldl_insert_congr _ k hm
    · rw [source, expand_ignoringCase]
      exact getElem?_foldl_insert_congr _ k hm

/-! ### Expressions -/

theorem lowers_spliced {x : Regex} {xs : Tokens} (h : (∃ name, .inr name ∈ xs) → x.Lowers x)
    (n : Nat) : List.Forall₂ Regex.Lowers (spliced x xs n) (spliced x (xs.map lowerToken) n) := by
  induction xs generalizing n with
  | nil => exact .nil
  | cons y xs ih =>
    have hrest := ih fun ⟨name, hname⟩ => h ⟨name, List.mem_cons_of_mem _ hname⟩
    cases y with
    | inl d =>
      refine .cons (.chars fun a ha => ?_) (hrest n)
      rw [CharSet.mem_single.mp ha]
      exact CharSet.mem_single.mpr rfl
    | inr name => exact .cons (.group _ (h ⟨name, List.mem_cons_self⟩)) (hrest (n + 1))

theorem lowers_splicedRegex {x : Regex} {xs : Tokens} (h : (∃ name, .inr name ∈ xs) → x.Lowers x) :
    (splicedRegex x xs).Lowers (splicedRegex x (xs.map lowerToken)) :=
  .concat (.cons (.look _) (List.rel_append (lowers_spliced h 0) (.cons (.look _) .nil)))

/-- Without placeholders it does not matter what they would be expanded into. -/
theorem splicedText_of_plain {xs : Tokens} (h : ∀ name, .inr name ∉ xs) (p q : List Char) :
    splicedText p xs = splicedText q xs := by
  induction xs with
  | nil => rfl
  | cons x xs ih =>
    have hrest := ih fun name hname => h name (List.mem_cons_of_mem _ hname)
    cases x with
    | inl c => rw [splicedText_inl, splicedText_inl, hrest]
    | inr name => exact absurd List.mem_cons_self (h name)

theorem compiles_empty : Compiles "" [] .empty :=
  ⟨by rw [String.toList_empty, lexemes?, lexemesFrom?]; rfl, {}, rfl, rfl, rfl⟩

theorem encloses_empty : Encloses "".toList [] := fun o tail =>
  (lexes_open (by simp) o).trans (lexes_close tail o)

/-- The placeholder pattern reads small letters. -/
theorem lowers_self {source : String} {ls : List Lexeme} {x : Regex} (h : Compiles source ls x)
    (hls : Builder.LowersAlong (ls.map (·.token)) {} {}) : x.Lowers x := by
  obtain ⟨b, hb, -, rfl⟩ := h.builds
  have hstart : ({} : Builder).Lowers {} := ⟨.inl rfl, .nil, .nil, .nil, rfl, rfl⟩
  exact (hstart.foldlM hls hb hb).alternatives

/-- The flag in front of a pattern is read first. -/
theorem parse?_ignoringCase {cs : List Char} {ls : List Lexeme} (h : lexemes? cs = some ls) :
    parse? (String.ofList ("(?i)".toList ++ cs)) = ((ls.map (·.token)).foldlM Builder.step?
      { flags := { ignoreCase := true }, parts := [none] }).bind Builder.finish? := by
  have hflag : Lexes [] ("(?i)".toList ++ cs) [ignoreCaseLexeme] [] cs :=
    .one (l := ignoreCaseLexeme) rfl (List.cons_ne_nil _ _) rfl
  unfold Lexes at hflag
  rw [lexemes?] at h
  rw [parse?, String.toList_ofList, lexemes?, hflag, h]
  rfl

/-- The expression of a condition still compiles when case is ignored, and then reads the small
letters of what it read before. -/
def FoldLowers (o : Options) (c : Condition) : Prop :=
  ∀ r, parse? (expand c.source o.placeholderPattern).source = some r →
    ∃ r', parse? (expand c.foldCase.source o.placeholderPattern).source = some r' ∧ r.Lowers r'

theorem foldLowers_of_plain {t : String} (h : ∀ name, .inr name ∉ Segment.tokens t.toList) :
    (literal t).FoldLowers o := by
  -- Nothing is expanded, so the placeholder pattern may as well be empty.
  have hnil : ∀ l ∈ ([] : List Lexeme), l.token.opensGroup = false := List.forall_mem_nil _
  have hlower : ∀ name, .inr name ∉ (Segment.tokens t.toList).map lowerToken := by
    intro name hname
    obtain ⟨x, hx, hxname⟩ := List.mem_map.mp hname
    cases x with
    | inl d => cases hxname
    | inr name' => exact h name' hx
  intro r hr
  rw [expand_literal, splicedText_of_plain h _ "".toList,
    parse?_spliced compiles_empty encloses_empty hnil] at hr
  rw [foldCase, expand_literal, String.toList_ofList, tokens_toLower,
    splicedText_of_plain hlower _ "".toList]
  refine ⟨_, parse?_spliced compiles_empty encloses_empty hnil _, ?_⟩
  rw [← Option.some.inj hr]
  exact lowers_splicedRegex fun _ => .empty

theorem foldLowers_literal (h : o.ReadsSmall) (hvalid : o.validate = .ok ()) (t : String) :
    (literal t).FoldLowers o := by
  obtain ⟨ls, x, hcompiles⟩ := Options.exists_compiles_of_validate hvalid
  have hplain := h.plain ls hcompiles.lexes
  have hencloses : Encloses o.placeholderPattern.toList ls := by
    refine hcompiles.encloses_or_trails.resolve_right fun htrails => ?_
    have hparens := h.parens
    rw [hcompiles.parse?_parens_of_trails htrails] at hparens
    cases hparens
  intro r hr
  rw [expand_literal, parse?_spliced hcompiles hencloses hplain] at hr
  rw [foldCase, expand_literal, String.toList_ofList, tokens_toLower]
  refine ⟨_, parse?_spliced hcompiles hencloses hplain _, ?_⟩
  rw [← Option.some.inj hr]
  exact lowers_splicedRegex fun _ => lowers_self hcompiles (h.lowers ls hcompiles.lexes)

theorem foldLowers_pattern {s : String} (h : (pattern s).ReadsSmall o) :
    (pattern s).FoldLowers o := by
  intro r hr
  obtain ⟨hsome, hlowers⟩ := h
  obtain ⟨r', hr'⟩ := Option.isSome_iff_exists.mp hsome
  refine ⟨r', hr', ?_⟩
  obtain ⟨ls, hls, hr⟩ := Option.bind_eq_some_iff.mp hr
  obtain ⟨b, hb, hr⟩ := Option.bind_eq_some_iff.mp hr
  have hlowers := hlowers ls hls
  rw [foldStart] at hlowers
  rw [foldCase] at hr'
  split at hr'
  · next hflag =>
    -- The pattern starts with the flag, so folding leaves it alone.
    rw [if_pos hflag] at hlowers
    obtain ⟨ls', hls', hr'⟩ := Option.bind_eq_some_iff.mp hr'
    obtain rfl := Option.some.inj (hls.symm.trans hls')
    obtain ⟨b', hb', hr'⟩ := Option.bind_eq_some_iff.mp hr'
    have hstart : ({} : Builder).Lowers {} := ⟨.inl rfl, .nil, .nil, .nil, rfl, rfl⟩
    exact (hstart.foldlM hlowers hb hb').finish hr hr'
  · next hflag =>
    -- The flag is set by the token that folding puts in front.
    rw [if_neg hflag] at hlowers
    rw [source, expand_ignoringCase] at hr'
    obtain ⟨b', hb', hr'⟩ := Option.bind_eq_some_iff.mp
      ((parse?_ignoringCase hls).symm.trans hr')
    have hstart : ({} : Builder).Lowers { flags := { ignoreCase := true }, parts := [none] } :=
      ⟨.inr rfl, .nil, .start, .nil, rfl, rfl⟩
    exact (hstart.foldlM hlowers hb hb').finish hr hr'

/-- A condition on the method that reads small letters still compiles when case is ignored, and its
expression reads the small letters of what it read before. -/
theorem ReadsSmall.foldLowers (h : c.ReadsSmall o) (hvalid : o.validate = .ok ()) :
    c.FoldLowers o := by
  cases c with
  | literal t =>
    exact h.elim foldLowers_of_plain fun hsmall => foldLowers_literal hsmall hvalid t
  | pattern s => exact foldLowers_pattern h

/-- A pattern that compiles with the flag that ignores case, and in which ignoring case only lets
more be read, reads small letters. -/
theorem readsSmall_pattern {s : String}
    (hcompiles : (parse? (expand (pattern s).foldCase.source o.placeholderPattern).source).isSome =
      true)
    (hgrows : ∀ ls, lexemes? (expand s o.placeholderPattern).source.toList = some ls →
      ∀ l ∈ ls, l.token.grows = true) : (pattern s).ReadsSmall o := by
  refine ⟨hcompiles, fun ls hls => ?_⟩
  have htokens : ∀ t ∈ ls.map (·.token), t.grows = true :=
    List.forall_mem_map.mpr (hgrows ls hls)
  have hcase : ({ flags := { ignoreCase := true }, parts := [none] } : Builder).IgnoresCase :=
    ⟨rfl, List.forall_mem_nil _⟩
  unfold foldStart
  split
  · next hflag =>
    -- The pattern itself starts with the flag, so it is in force behind the first token.
    obtain ⟨cs, hcs⟩ := List.isPrefixOf_iff_prefix.mp hflag
    have hs : s = String.ofList ("(?i)".toList ++ (String.ofList cs).toList) := by
      refine String.toList_inj.mp (hcs.symm.trans (Eq.trans ?_ String.toList_ofList.symm))
      rw [String.toList_ofList (l := cs)]
    have hread : Lexes [] ("(?i)".toList ++
        (expand (String.ofList cs) o.placeholderPattern).source.toList) [ignoreCaseLexeme] []
        (expand (String.ofList cs) o.placeholderPattern).source.toList :=
      .one (l := ignoreCaseLexeme) rfl (List.cons_ne_nil _ _) rfl
    unfold Lexes at hread
    rw [hs, expand_ignoringCase, String.toList_ofList, lexemes?, hread] at hls
    obtain ⟨ls', -, rfl⟩ := Option.map_eq_some_iff.mp hls
    refine ⟨trivial, fun c c' hc hc' => ?_⟩
    obtain rfl := Option.some.inj hc
    obtain rfl := Option.some.inj hc'
    exact Builder.lowersAlong_of_grows ⟨.inl rfl, .nil, .flags .nil, .nil, rfl, rfl⟩ hcase
      (List.forall_mem_cons.mp htokens).2
  · exact Builder.lowersAlong_of_grows ⟨.inr rfl, .nil, .start, .nil, rfl, rfl⟩ hcase htokens

end Condition

/-- What a placeholder matches by default does not depend on case. -/
theorem Options.readsSmall_default {o : Options} (h : o.placeholderPattern = defaultPlaceholder) :
    o.ReadsSmall := by
  have hlexemes : lexemes? defaultPlaceholder.toList =
      some [⟨.bracket placeholderClass, "[^/.,;?]".toList⟩, ⟨.times 1 none false, ['+']⟩] := by
    decide +kernel
  have hset : placeholderClass.toSet? {} = some placeholderSet := rfl
  refine ⟨by rw [h]; decide +kernel, fun ls hls => ?_, fun ls hls => ?_⟩
  · rw [h, hlexemes] at hls
    obtain rfl := Option.some.inj hls
    simp [Token.opensGroup]
  · rw [h, hlexemes] at hls
    obtain rfl := Option.some.inj hls
    refine ⟨fun s s' hs hs' c hc => ?_, fun _ _ _ _ => ⟨trivial, fun _ _ _ _ => trivial⟩⟩
    obtain rfl := Option.some.inj (hset.symm.trans hs)
    obtain rfl := Option.some.inj (hset.symm.trans hs')
    have hseparator := Unicode.toLower_invariant (fun c => decide (IsSeparator c))
      (by decide +kernel) c
    exact mem_placeholderSet.mpr fun hlower => mem_placeholderSet.mp hc
      (of_decide_eq_true (hseparator.symm.trans (decide_eq_true hlower)))

/-! ### Nodes and chains -/

/-- Two nodes differ in the text of the condition on a key at most, placeholders aside. -/
structure Node.AgreesOff (k : Key) (n n' : Node) : Prop where
  /-- The same conditions on other keys. -/
  conditions : ∀ k' ≠ k, n'.conditions[k']? = n.conditions[k']?
  /-- A condition on the key, if the other node has one. -/
  contains : n'.conditions.contains k = n.conditions.contains k

/-- Two nodes have the same under a name. -/
structure Node.AgreesAt (x : String) (n n' : Node) : Prop where
  /-- The same parameter. -/
  params : n'.params[x]? = n.params[x]?
  /-- The same placeholder. -/
  placeholders : n'.placeholders[x]? = n.placeholders[x]?

/-- The placeholder of a node under a name is made by its conditions one by one. -/
theorem Node.getElem?_placeholders_congr {o o' : Options} {cs : Conditions} {x : String}
    (h : ∀ p ∈ cs.kept.toList, ∀ n n' : Node, n'.placeholders[x]? = n.placeholders[x]? →
      (n'.addCondition o' p.1 p.2).placeholders[x]? = (n.addCondition o p.1 p.2).placeholders[x]?)
    (ps : Params) :
    (ofConditions o' cs ps).placeholders[x]? = (ofConditions o cs ps).placeholders[x]? := by
  have hfold : ∀ (l : List (Key × Condition)) (n n' : Node), (∀ p ∈ l, ∀ n n' : Node,
      n'.placeholders[x]? = n.placeholders[x]? →
      (n'.addCondition o' p.1 p.2).placeholders[x]? =
        (n.addCondition o p.1 p.2).placeholders[x]?) →
      n'.placeholders[x]? = n.placeholders[x]? →
      (l.foldl (fun n p => n.addCondition o' p.1 p.2) n').placeholders[x]? =
        (l.foldl (fun n p => n.addCondition o p.1 p.2) n).placeholders[x]? := by
    intro l
    induction l with
    | nil => exact fun n n' _ hn => hn
    | cons p l ih =>
      intro n n' hl hn
      obtain ⟨hp, hl⟩ := List.forall_mem_cons.mp hl
      exact ih _ _ hl (hp n n' hn)
  exact hfold cs.kept.toList { params := ps } { params := ps } h rfl

theorem Node.expanded_of_ne {o : Options} {k : Key} (hk : k ≠ .method) (ignored : Bool)
    (c : Condition) :
    expanded (o.methodCase ignored) k c = expand c.source o.placeholderPattern := by
  rw [expanded, decide_eq_false hk, Bool.false_and, if_neg Bool.false_ne_true]
  rfl

namespace Frame

variable {o : Options} {f : Frame} {x : String}

/-- Ignoring the case of methods changes the text of the condition on the method only. -/
theorem agreesOff_methodCase :
    (f.nodeWith (o.methodCase false)).AgreesOff .method (f.nodeWith (o.methodCase true)) := by
  refine ⟨fun k hk => ?_, ?_⟩
  · rw [getElem?_conditions_nodeWith, getElem?_conditions_nodeWith]
    simp only [Node.expanded_of_ne hk]
  · rw [Std.ExtTreeMap.contains_eq_isSome_getElem?, Std.ExtTreeMap.contains_eq_isSome_getElem?,
      getElem?_conditions_nodeWith, getElem?_conditions_nodeWith, Option.isSome_map,
      Option.isSome_map]

/-- It changes parameters and placeholders under the names that the condition renames only. -/
theorem agreesAt_methodCase
    (h : ∀ c, f.conditions[Key.method]? = some c → ¬c.Renames x) :
    (f.nodeWith (o.methodCase false)).AgreesAt x (f.nodeWith (o.methodCase true)) := by
  have hplaceholders : (f.nodeWith (o.methodCase true)).placeholders[x]? =
      (f.nodeWith (o.methodCase false)).placeholders[x]? := by
    refine Node.getElem?_placeholders_congr (fun ⟨k, c⟩ hp n n' hn => ?_) f.params
    have hadd : ∀ (o : Options) (n : Node), (n.addCondition o k c).placeholders =
        (Node.named (Node.expanded o k c)).foldl (fun m q => m.insert q.1 (k, q.2))
          n.placeholders := fun _ _ => rfl
    rw [hadd, hadd]
    by_cases hk : k = .method
    · subst hk
      have hc := Std.ExtTreeMap.mem_toList_iff_getElem?_eq_some.mp hp
      rw [Conditions.getElem?_kept (by decide)] at hc
      exact Condition.getElem?_foldl_named_foldCase (h c hc) o.placeholderPattern .method hn
    · rw [Node.expanded_of_ne hk, Node.expanded_of_ne hk]
      exact getElem?_foldl_insert_congr _ k hn
  refine ⟨?_, hplaceholders⟩
  rw [getElem?_params_nodeWith, getElem?_params_nodeWith, hplaceholders]

end Frame

namespace Chain

variable {k : Key} {c c' : Chain}

section AgreesOff

variable (hk : k ≠ .path) (h : List.Forall₂ (Node.AgreesOff k) c c')
include hk h

theorem pathGroups_of_agrees : pathGroups c' = pathGroups c := by
  induction h with
  | nil => rfl
  | cons hn _ ih =>
    rw [pathGroups, pathGroups, ih, Node.pathGroups, Node.pathGroups, hn.conditions _ hk.symm]

theorem getElem?_placeholders_of_agrees {x : String} (hx : List.Forall₂ (Node.AgreesAt x) c c') :
    (placeholders c')[x]? = (placeholders c)[x]? := by
  induction h with
  | nil => rfl
  | @cons n n' outer outer' hn houter ih =>
    obtain ⟨hname, hnames⟩ := List.forall₂_cons.mp hx
    have hcontains : ∀ k', n'.conditions.contains k' = n.conditions.contains k' := by
      intro k'
      by_cases hkey : k' = k
      · rw [hkey]
        exact hn.contains
      · rw [Std.ExtTreeMap.contains_eq_isSome_getElem?, hn.conditions k' hkey,
          ← Std.ExtTreeMap.contains_eq_isSome_getElem?]
    rw [getElem?_placeholders_cons, getElem?_placeholders_cons, ih hnames, hname.placeholders,
      pathGroups_of_agrees hk houter]
    simp only [keeps, hcontains]

omit hk h in
theorem getElem?_allParams_of_agrees {x : String} (hx : List.Forall₂ (Node.AgreesAt x) c c') :
    (allParams c')[x]? = (allParams c)[x]? := by
  induction hx with
  | nil => rfl
  | cons hn _ ih =>
    rw [getElem?_allParams_cons_node, getElem?_allParams_cons_node, ih, hn.params]

theorem getElem?_params_of_agrees {x : String} (hx : List.Forall₂ (Node.AgreesAt x) c c') :
    (params c')[x]? = (params c)[x]? := by
  refine getElem?_params_congr (getElem?_allParams_of_agrees hx) ?_
    (getElem?_placeholders_of_agrees hk h hx)
  clear h
  induction hx with
  | nil => rfl
  | cons hn _ ih =>
    rw [List.any_cons, List.any_cons, ih, Std.ExtTreeMap.contains_eq_isSome_getElem?,
      hn.placeholders, ← Std.ExtTreeMap.contains_eq_isSome_getElem?]

omit hk in
theorem conditions_of_agrees {k' : Key} (hkey : k' ≠ k) :
    (conditions c')[k']? = (conditions c)[k']? := by
  induction h with
  | nil => rfl
  | cons hn _ ih => exact getElem?_merge_congr ih (hn.conditions k' hkey)

end AgreesOff

/-- Of several conditions on a key other than the path, the innermost counts. -/
theorem getElem?_conditions_innermost (hk : k ≠ .path) (c : Chain) :
    c.conditions[k]? = c.findSome? (·.conditions[k]?) := by
  induction c with
  | nil => exact Std.ExtTreeMap.getElem?_empty
  | cons n outer ih =>
    rw [List.findSome?_cons, conditions, getElem?_merge_of_ne hk, ih]
    cases n.conditions[k]? <;> rfl

/-- The condition on the method that counts among those of some steps. -/
def method? (fs : List Frame) : Option Condition := fs.findSome? (·.conditions[Key.method]?)

variable {o : Options} {fs : List Frame}

theorem getElem?_conditions_method (o : Options) (ignored : Bool) (fs : List Frame) :
    (ofFramesWith (o.methodCase ignored) fs).conditions[Key.method]? = (method? fs).map fun c =>
      (expand (if ignored then c.foldCase else c).source o.placeholderPattern).source := by
  rw [getElem?_conditions_innermost (by decide), ofFramesWith, List.findSome?_map, method?]
  induction fs with
  | nil => rfl
  | cons f fs ih =>
    rw [List.findSome?_cons, List.findSome?_cons, Function.comp_apply,
      Frame.getElem?_conditions_nodeWith, Conditions.getElem?_kept (by decide)]
    cases f.conditions[Key.method]? with
    | none => exact ih
    | some c => rfl

theorem agreesOff_methodCase :
    List.Forall₂ (Node.AgreesOff .method) (ofFramesWith (o.methodCase false) fs)
      (ofFramesWith (o.methodCase true) fs) := by
  rw [ofFramesWith, ofFramesWith, List.forall₂_map_left_iff, List.forall₂_map_right_iff]
  exact List.forall₂_same.mpr fun f _ => f.agreesOff_methodCase

/-- A name that ignoring the case of methods takes from a placeholder of some steps, or gives to
one. -/
def Renames (fs : List Frame) (x : String) : Prop :=
  ∃ f ∈ fs, ∃ c, f.conditions[Key.method]? = some c ∧ c.Renames x

/-- The given values that refer to something neither refer to a renamed placeholder nor stand under
its name. -/
def AvoidsRenamed (o : Options) (fs : List Frame) : Prop :=
  ∀ x v : String, (ofFramesWith o fs).params[x]? = some v →
    (∃ f ∈ fs, f.params[x]? = some v) → ∀ reference,
      .inr reference ∈ Template.references v.toList → ¬Renames fs x ∧
        ∀ name, reference = .placeholder name → ¬Renames fs name

variable {x : String}

theorem agreesAt_methodCase (h : ¬Renames fs x) :
    List.Forall₂ (Node.AgreesAt x) (ofFramesWith (o.methodCase false) fs)
      (ofFramesWith (o.methodCase true) fs) := by
  rw [ofFramesWith, ofFramesWith, List.forall₂_map_left_iff, List.forall₂_map_right_iff]
  exact List.forall₂_same.mpr fun f hf => Frame.agreesAt_methodCase fun c hc hx =>
    h ⟨f, hf, c, hc, hx⟩

/-- Under a name that is not renamed, the placeholder stays the same. -/
theorem getElem?_placeholders_methodCase (h : ¬Renames fs x) :
    (ofFramesWith (o.methodCase true) fs).placeholders[x]? =
      (ofFramesWith (o.methodCase false) fs).placeholders[x]? :=
  getElem?_placeholders_of_agrees (by decide) agreesOff_methodCase (agreesAt_methodCase h)

/-- Under a name that is not renamed, the parameter stays the same. -/
theorem getElem?_params_methodCase (h : ¬Renames fs x) :
    (ofFramesWith (o.methodCase true) fs).params[x]? =
      (ofFramesWith (o.methodCase false) fs).params[x]? :=
  getElem?_params_of_agrees (by decide) agreesOff_methodCase (agreesAt_methodCase h)

/-- The second chain has the conditions of the first one, except that its condition on the method
reads the small letters of what the other one reads. -/
structure LowersMethod (c c' : Chain) : Prop where
  /-- The same conditions on other keys. -/
  conditions : ∀ k : Key, k ≠ .method → c'.conditions[k]? = c.conditions[k]?
  /-- Both have a condition on the method, or none has. -/
  contains : c'.conditions.contains Key.method = c.conditions.contains Key.method
  /-- The condition on the method still compiles, and reads small letters. -/
  method : ∀ source source' x, c.conditions[Key.method]? = some source →
    c'.conditions[Key.method]? = some source' → Regex.parse? source = some x →
      ∃ x', Regex.parse? source' = some x' ∧ x.Lowers x'

/-- Of the conditions, ignoring the case of methods changes the one on the method that counts
only. -/
theorem lowersMethod_methodCase (hvalid : o.validate = .ok ())
    (hmethod : ∀ c, method? fs = some c → c.ReadsSmall o) :
    LowersMethod (ofFramesWith (o.methodCase false) fs) (ofFramesWith (o.methodCase true) fs) := by
  refine ⟨fun k hk => conditions_of_agrees agreesOff_methodCase hk, ?_,
    fun source source' x hsource hsource' hx => ?_⟩
  · simp only [Std.ExtTreeMap.contains_eq_isSome_getElem?, getElem?_conditions_method,
      Option.isSome_map]
  · rw [getElem?_conditions_method] at hsource hsource'
    obtain ⟨c, hc, rfl⟩ := Option.map_eq_some_iff.mp hsource
    obtain rfl := Option.some.inj ((congrArg (Option.map _) hc).symm.trans hsource')
    exact (hmethod c hc).foldLowers hvalid x hx

namespace LowersMethod

variable {c c' : Chain} (h : LowersMethod c c')
include h

/-- Every condition comes from one that compiles to the same expression, or to one whose small
letters it reads. -/
theorem expressions {k : Key} {source' : String} (hsource' : c'.conditions[k]? = some source')
    (hcompiles : ∀ (k : Key) source, c.conditions[k]? = some source →
      (Regex.parse? source).isSome = true) :
    ∃ source x x', c.conditions[k]? = some source ∧ Regex.parse? source = some x ∧
      Regex.parse? source' = some x' ∧ (k = .method ∧ x.Lowers x' ∨ k ≠ .method ∧ x' = x) := by
  by_cases hk : k = .method
  · subst hk
    have hsome : (c.conditions[Key.method]?).isSome = true := by
      rw [← Std.ExtTreeMap.contains_eq_isSome_getElem?, ← h.contains,
        Std.ExtTreeMap.contains_eq_isSome_getElem?, hsource']
      rfl
    obtain ⟨source, hsource⟩ := Option.isSome_iff_exists.mp hsome
    obtain ⟨x, hx⟩ := Option.isSome_iff_exists.mp (hcompiles _ _ hsource)
    obtain ⟨x', hx', hlowers⟩ := h.method source source' x hsource hsource' hx
    exact ⟨source, x, x', hsource, hx, hx', .inl ⟨rfl, hlowers⟩⟩
  · have hsource := (h.conditions k hk).symm.trans hsource'
    obtain ⟨x, hx⟩ := Option.isSome_iff_exists.mp (hcompiles _ _ hsource)
    exact ⟨source', x, x, hsource, hx, hx, .inr ⟨hk, rfl⟩⟩

/-- No group is lost, so references to groups still find what they found. -/
theorem resolves_capture {k : Key} {i : Nat} (hresolves : Route.Resolves c (.capture k i)) :
    Route.Resolves c' (.capture k i) := by
  obtain ⟨source, x, hsource, hx, hle⟩ := hresolves
  by_cases hk : k = .method
  · subst hk
    have hsome : (c'.conditions[Key.method]?).isSome = true := by
      rw [← Std.ExtTreeMap.contains_eq_isSome_getElem?, h.contains,
        Std.ExtTreeMap.contains_eq_isSome_getElem?, hsource]
      rfl
    obtain ⟨source', hsource'⟩ := Option.isSome_iff_exists.mp hsome
    obtain ⟨x', hx', hlowers⟩ := h.method source source' x hsource hsource' hx
    exact ⟨source', x', hsource', hx', by rwa [hlowers.groupCount_eq]⟩
  · exact ⟨source, x, (h.conditions k hk).trans hsource, hx, hle⟩

/-- The conditions still compile. -/
theorem compiles (hcompiles : ∀ (k : Key) source, c.conditions[k]? = some source →
    (Regex.parse? source).isSome = true) {k : Key} {source' : String}
    (hsource' : c'.conditions[k]? = some source') : (Regex.parse? source').isSome = true := by
  obtain ⟨-, -, x', -, -, hx', -⟩ := h.expressions hsource' hcompiles
  rw [hx']
  rfl

/-- What is accepted while case counts is accepted while case is ignored. -/
theorem accepts {o : Options} {isDefault : Bool} {r r' : Route} {q : Request}
    (hr : Route.build c none isDefault = .ok r) (hr' : Route.build c' none isDefault = .ok r')
    (hq : (r.match? (o.methodCase false) q).isSome = true) :
    (r'.match? (o.methodCase true) q).isSome = true := by
  refine (Route.isSome_match?_iff hr').mpr fun k source' y hsource' hy => ?_
  have hcompiles := (Route.exists_build_iff.mp ⟨r, hr⟩).1
  obtain ⟨source, x, x', hsource, hx, hx', hrel⟩ := h.expressions hsource' hcompiles
  obtain rfl := Option.some.inj (hx'.symm.trans hy)
  have hfound := (Route.isSome_match?_iff hr).mp hq k source x hsource hx
  rcases hrel with ⟨rfl, hlowers⟩ | ⟨hk, rfl⟩
  · exact Regex.isSome_captures?_toLower hlowers hfound
  · -- Only methods are put into small letters.
    have hsubject : ∀ ignored, q.subject ignored k = (q.value? k).getD "" := by
      intro ignored
      rw [Request.subject, decide_eq_false hk, Bool.false_and, if_neg Bool.false_ne_true]
    rwa [hsubject] at hfound ⊢

end LowersMethod

end Chain

/-! ### Routes -/

namespace Route

variable {o : Options} {fs : List Frame} {isDefault : Bool} {r : Route} {q : Request}

/-- If some steps describe a route while case counts, and their condition on the method reads small
letters wherever it reads any letters, they describe a route while case is ignored exactly if what
their given values refer to is there. -/
theorem exists_build_methodCase_iff (hvalid : o.validate = .ok ())
    (hmethod : ∀ c, Chain.method? fs = some c → c.ReadsSmall o)
    (hr : build (Chain.ofFramesWith (o.methodCase false) fs) none isDefault = .ok r) :
    (∃ r', build (Chain.ofFramesWith (o.methodCase true) fs) none isDefault = .ok r') ↔
      Chain.FindsGiven (o.methodCase true) fs := by
  have hcompiles := (exists_build_ofFramesWith_iff.mp ⟨r, hr⟩).1
  rw [exists_build_ofFramesWith_iff, and_iff_right]
  exact fun _ _ => (Chain.lowersMethod_methodCase hvalid hmethod).compiles hcompiles

/-- Given values find what they found, as long as they neither refer to a renamed placeholder nor
stand under its name. -/
theorem findsGiven_methodCase (hvalid : o.validate = .ok ())
    (hmethod : ∀ c, Chain.method? fs = some c → c.ReadsSmall o)
    (hr : build (Chain.ofFramesWith (o.methodCase false) fs) none isDefault = .ok r)
    (havoids : Chain.AvoidsRenamed (o.methodCase true) fs) :
    Chain.FindsGiven (o.methodCase true) fs := by
  intro x v hv hgiven reference hmem
  obtain ⟨hname, hrefers⟩ := havoids x v hv hgiven reference hmem
  rw [Chain.getElem?_params_methodCase hname] at hv
  have hfound := (exists_build_iff.mp ⟨r, hr⟩).2 x v hv reference hmem
  cases reference with
  | placeholder name =>
    rwa [Resolves, Chain.getElem?_placeholders_methodCase (hrefers name rfl)]
  | capture k i => exact (Chain.lowersMethod_methodCase hvalid hmethod).resolves_capture hfound

/-- Ignoring the case of methods loses nothing. Let the condition on the method that counts read
small letters wherever it reads any letters, and let what the given values refer to be there. If
then a chain describes a route that accepts a request while case counts, it describes a route that
accepts the request while case is ignored. What the given values refer to is there unless one of
them refers to a placeholder that has been renamed, or stands under its name. -/
theorem accepts_methodCase (hvalid : o.validate = .ok ())
    (hmethod : ∀ c, Chain.method? fs = some c → c.ReadsSmall o)
    (hr : build (Chain.ofFramesWith (o.methodCase false) fs) none isDefault = .ok r)
    (hq : (r.match? (o.methodCase false) q).isSome = true) :
    (Chain.FindsGiven (o.methodCase true) fs →
      ∃ r', build (Chain.ofFramesWith (o.methodCase true) fs) none isDefault = .ok r' ∧
        (r'.match? (o.methodCase true) q).isSome = true) ∧
    (Chain.AvoidsRenamed (o.methodCase true) fs → Chain.FindsGiven (o.methodCase true) fs) := by
  refine ⟨fun hfinds => ?_, findsGiven_methodCase hvalid hmethod hr⟩
  obtain ⟨r', hr'⟩ := (exists_build_methodCase_iff hvalid hmethod hr).mpr hfinds
  exact ⟨r', hr', (Chain.lowersMethod_methodCase hvalid hmethod).accepts hr hr' hq⟩

/-- An item with a condition on the method. -/
def itemFrames (c : Condition) : List Frame :=
  [{ conditions := (Conditions.ofPath (.literal "/:id")).insert .method c }, Chain.rootFrame]

theorem method?_itemFrames (c : Condition) : Chain.method? (itemFrames c) = some c := by
  rw [Chain.method?, itemFrames, List.findSome?_cons, Std.ExtTreeMap.getElem?_insert_self]

/-- A request that changes the item is still accepted when case is ignored, both with a pattern for
its methods and with a placeholder that changes its name. -/
theorem accepts_methodCase_itemFrames :
    ({} : Options).validate = .ok () ∧
      ∀ c ∈ [Condition.pattern "^(GET|[P-R]UT)$", .literal ":Verb"], c.ReadsSmall {} ∧
        Chain.FindsGiven (({} : Options).methodCase true) (itemFrames c) ∧
        ∃ r', build (Chain.ofFramesWith (({} : Options).methodCase true) (itemFrames c)) none
            false = .ok r' ∧
          (r'.match? (({} : Options).methodCase true) { method := "PUT", path := "/5" }).isSome =
            true := by
  have hvalid : ({} : Options).validate = .ok () := by decide +kernel
  have hsmall : ∀ c ∈ [Condition.pattern "^(GET|[P-R]UT)$", .literal ":Verb"],
      c.ReadsSmall {} := by
    refine List.forall_mem_cons.mpr ⟨?_, List.forall_mem_singleton.mpr
      (.inr (Options.readsSmall_default rfl))⟩
    refine Condition.readsSmall_pattern (by decide +kernel) fun ls hls l hl => ?_
    have hgrows : (lexemes? (expand "^(GET|[P-R]UT)$" defaultPlaceholder).source.toList).all
      (·.all (·.token.grows)) = true := by decide +kernel
    rw [hls, Option.all_some, List.all_eq_true] at hgrows
    exact hgrows l hl
  have haccepted : ∀ c ∈ [Condition.pattern "^(GET|[P-R]UT)$", .literal ":Verb"],
      (build (Chain.ofFramesWith (({} : Options).methodCase false) (itemFrames c)) none
        false).toOption.any (fun r => (r.match? (({} : Options).methodCase false)
          { method := "PUT", path := "/5" }).isSome) = true := by decide +kernel
  refine ⟨hvalid, fun c hc => ⟨hsmall c hc, ?_⟩⟩
  obtain ⟨r, hr, hq⟩ := exists_of_any_toOption (haccepted c hc)
  have hmethod : ∀ c', Chain.method? (itemFrames c) = some c' → c'.ReadsSmall {} := by
    intro c' hc'
    rw [method?_itemFrames] at hc'
    exact Option.some.inj hc' ▸ hsmall c hc
  obtain ⟨hstill, hfinds⟩ := accepts_methodCase hvalid hmethod hr hq
  -- The only given value is the action of the root, which refers to nothing.
  have hplain : PlainParams (itemFrames c) := plainParams_conditions plainParams_rootFrame
  have hgiven := hfinds fun x v _ ⟨f, hf, hv⟩ reference hmem =>
    absurd hmem (Template.inr_not_mem_references (hplain f hf x v hv) reference)
  exact ⟨hgiven, hstill hgiven⟩

/-- A method that starts with anything but one small letter. -/
def negatedMethod : List Frame :=
  [{ conditions := (∅ : Conditions).insert .method (.pattern "^[^g]ET$") }, Chain.rootFrame]

/-- A value that reads the method. -/
def verbReader : List Frame :=
  [{ params := (∅ : Params).insert "v" ":Verb" },
    { conditions := (∅ : Conditions).insert .method (.literal ":Verb") }, Chain.rootFrame]

/-- A class that leaves out a small letter reads the capital one only as long as case counts. A
value that refers to a placeholder by a name with a capital letter finds it only as long as case
counts. -/
theorem methodCase_loses :
    ({} : Options).validate = .ok () ∧
      ((∃ r, build (Chain.ofFramesWith (({} : Options).methodCase false) negatedMethod) none
            false = .ok r ∧
          (r.match? (({} : Options).methodCase false) { method := "GET", path := "/" }).isSome =
            true) ∧
        ∃ r, build (Chain.ofFramesWith (({} : Options).methodCase true) negatedMethod) none
            false = .ok r ∧
          (r.match? (({} : Options).methodCase true) { method := "GET", path := "/" }).isNone =
            true) ∧
      (∃ r, build (Chain.ofFramesWith (({} : Options).methodCase false) verbReader) none
            false = .ok r ∧
          (r.match? (({} : Options).methodCase false) { method := "GET", path := "/" }).isSome =
            true) ∧
        ¬∃ r, build (Chain.ofFramesWith (({} : Options).methodCase true) verbReader) none
          false = .ok r := by
  refine ⟨by decide +kernel, ⟨?_, ?_⟩, ?_, ?_⟩
  · refine exists_of_any_toOption ?_
    decide +kernel
  · refine exists_of_any_toOption ?_
    decide +kernel
  · refine exists_of_any_toOption ?_
    decide +kernel
  · rintro ⟨r, hr⟩
    have hnone : (build (Chain.ofFramesWith (({} : Options).methodCase true) verbReader) none
        false).toOption.isNone = true := by decide +kernel
    rw [hr] at hnone
    cases hnone

end Route

end HttpRouting
