import HttpRouting.Route.Matching

/-!
# What a built route consists of

A route is built when every condition compiles and every parameter resolves. Both are read off a
whole chain, and nothing else enters the route.

## Main results

* `Route.build_eq_ok_iff` — the route that a chain describes
* `Route.exists_build_iff` — when a chain describes a route
* `Route.mem_tests`, `Route.mem_params` — its tests and its parameters
* `Route.getElem?_resolved` — the value of a parameter in a match
-/

namespace HttpRouting

section Except

variable {ε α β γ : Type}

theorem except_bind_eq_ok {x : Except ε α} {f : α → Except ε β} {b : β} :
    (x >>= f) = .ok b ↔ ∃ a, x = .ok a ∧ f a = .ok b := by
  cases x with
  | error e => simp [bind, Except.bind]
  | ok a => simp [bind, Except.bind]

theorem toOption_eq_some_iff {x : Except ε α} {a : α} : x.toOption = some a ↔ x = .ok a := by
  cases x with
  | error e => simp [Except.toOption]
  | ok b => simp [Except.toOption]

theorem exists_of_any_toOption {x : Except ε α} {p : α → Bool} (h : x.toOption.any p = true) :
    ∃ a, x = .ok a ∧ p a = true := by
  cases x with
  | error e => cases h
  | ok a => exact ⟨a, rfl, h⟩

theorem mapM_cons_eq_ok {f : α → Except ε β} {a : α} {as : List α} {bs : List β} :
    (a :: as).mapM f = .ok bs ↔ ∃ b bs', f a = .ok b ∧ as.mapM f = .ok bs' ∧ bs = b :: bs' := by
  rw [List.mapM_cons, except_bind_eq_ok]
  constructor
  · rintro ⟨b, hb, h⟩
    obtain ⟨bs', hbs', h⟩ := except_bind_eq_ok.mp h
    exact ⟨b, bs', hb, hbs', (Except.ok.inj h).symm⟩
  · rintro ⟨b, bs', hb, hbs', rfl⟩
    exact ⟨b, hb, except_bind_eq_ok.mpr ⟨bs', hbs', rfl⟩⟩

/-- A list is gone through to its end if every element is accepted. -/
theorem exists_mapM_eq_ok_iff {f : α → Except ε β} {as : List α} :
    (∃ bs, as.mapM f = .ok bs) ↔ ∀ a ∈ as, ∃ b, f a = .ok b := by
  induction as with
  | nil => exact ⟨fun _ => nofun, fun _ => ⟨[], rfl⟩⟩
  | cons a as ih =>
    rw [List.forall_mem_cons, ← ih]
    constructor
    · rintro ⟨_, h⟩
      obtain ⟨b, bs, hb, hbs, rfl⟩ := mapM_cons_eq_ok.mp h
      exact ⟨⟨b, hb⟩, bs, hbs⟩
    · rintro ⟨⟨b, hb⟩, bs, hbs⟩
      exact ⟨b :: bs, mapM_cons_eq_ok.mpr ⟨b, bs, hb, hbs, rfl⟩⟩

theorem mem_of_mapM_eq_ok {f : α → Except ε β} {as : List α} {bs : List β}
    (h : as.mapM f = .ok bs) {b : β} : b ∈ bs ↔ ∃ a ∈ as, f a = .ok b := by
  induction as generalizing bs with
  | nil =>
    obtain rfl : [] = bs := Except.ok.inj h
    simp
  | cons a as ih =>
    obtain ⟨b', bs', hb', hbs', rfl⟩ := mapM_cons_eq_ok.mp h
    have hhead : f a = .ok b ↔ b = b' := by rw [hb', Except.ok.injEq, eq_comm]
    simp only [List.mem_cons, ih hbs', ← hhead, exists_eq_or_imp]

theorem map_of_mapM_eq_ok {f : α → Except ε β} {g : α → γ} {g' : β → γ}
    (hf : ∀ a b, f a = .ok b → g' b = g a) {as : List α} {bs : List β}
    (h : as.mapM f = .ok bs) : bs.map g' = as.map g := by
  induction as generalizing bs with
  | nil =>
    obtain rfl : [] = bs := Except.ok.inj h
    rfl
  | cons a as ih =>
    obtain ⟨b', bs', hb', hbs', rfl⟩ := mapM_cons_eq_ok.mp h
    rw [List.map_cons, List.map_cons, hf a b' hb', ih hbs']

end Except

/-- Only characters are put together. -/
theorem inr_mem_runs {α : Type} {a : α} {xs : List (Char ⊕ α)} :
    .inr a ∈ runs xs ↔ .inr a ∈ xs := by
  have hpush : ∀ (c : Char) (rs : List (List Char ⊕ α)), .inr a ∈ pushChar c rs ↔ .inr a ∈ rs := by
    intro c rs
    unfold pushChar
    split <;> simp
  induction xs with
  | nil => simp [runs]
  | cons x xs ih =>
    cases x with
    | inl c => simp [runs, hpush, ih]
    | inr b => simp [runs, ih]

/-- An entry is found if no key comes twice. -/
theorem lookup_of_mem {α : Type} {xs : List (String × α)}
    (hxs : xs.Pairwise fun p q => p.1 ≠ q.1) {name : String} {a : α} (h : (name, a) ∈ xs) :
    xs.lookup name = some a := by
  induction xs with
  | nil => cases h
  | cons p xs ih =>
    obtain ⟨hp, hxs⟩ := List.pairwise_cons.mp hxs
    rcases List.mem_cons.mp h with rfl | h
    · exact List.lookup_cons_self
    · rw [List.lookup_cons, beq_eq_false_iff_ne.mpr (hp _ h).symm]
      exact ih hxs h

namespace Template

/-- A value is accepted if all of its references are. -/
theorem exists_parse_iff {param value : String} {placeholders : String → Option (Key × Nat)}
    {groups : Key → Option Nat} :
    (∃ t, parse param value placeholders groups = .ok t) ↔
      ∀ r, .inr r ∈ references value.toList → ∃ p, resolve param placeholders groups r = .ok p := by
  have hparts : (∃ t, parse param value placeholders groups = .ok t) ↔
      ∃ ps, (runs (references value.toList)).mapM (ofRun param placeholders groups) = .ok ps := by
    unfold parse
    constructor
    · rintro ⟨t, h⟩
      obtain ⟨ps, hps, -⟩ := except_bind_eq_ok.mp h
      exact ⟨ps, hps⟩
    · rintro ⟨ps, hps⟩
      rw [hps]
      cases ps with
      | nil => exact ⟨_, rfl⟩
      | cons p ps => exact ⟨_, rfl⟩
  rw [hparts, exists_mapM_eq_ok_iff]
  constructor
  · exact fun h r hr => h (.inr r) (inr_mem_runs.mpr hr)
  · intro h x hx
    cases x with
    | inl cs => exact ⟨_, rfl⟩
    | inr r => exact h r (inr_mem_runs.mp hx)

end Template

namespace Route

/-- The template of a parameter of a chain, given the tests of its conditions. -/
def paramTemplate (c : Chain) (tests : List ConditionTest) (p : String × String) :
    Except PatternError (String × Template) := do
  let t ← Template.parse p.1 p.2 (c.placeholders[·]?) (groups? tests)
  return (p.1, t)

variable {c : Chain} {decision : Option Decision} {isDefault : Bool} {r : Route}

/-- A chain describes a route exactly if its conditions compile and its parameters resolve. -/
theorem build_eq_ok_iff :
    build c decision isDefault = .ok r ↔
      ∃ tests params, (c.conditions.toList.mapM fun p => compileTest p.1 p.2) = .ok tests ∧
        c.params.toList.mapM (paramTemplate c tests) = .ok params ∧
        r = { isDefault, tests, params, decision
              hasPattern := c.hasPattern
              segments := c.spellings[Key.path]?.map Segment.ofPath
              spellings := c.spellings } := by
  unfold build
  rw [except_bind_eq_ok]
  refine exists_congr fun tests => ?_
  constructor
  · rintro ⟨htests, h⟩
    obtain ⟨params, hparams, h⟩ := except_bind_eq_ok.mp h
    exact ⟨params, htests, hparams, (Except.ok.inj h).symm⟩
  · rintro ⟨params, htests, hparams, rfl⟩
    exact ⟨htests, except_bind_eq_ok.mpr ⟨params, hparams, rfl⟩⟩

theorem compileTest_eq_ok {k : Key} {source : String} {t : ConditionTest} :
    compileTest k source = .ok t ↔
      t.key = k ∧ t.source = source ∧ Regex.parse? source = some t.regex := by
  unfold compileTest
  cases Regex.parse? source with
  | none => simp
  | some regex =>
    constructor
    · rintro ⟨⟩
      exact ⟨rfl, rfl, rfl⟩
    · rintro ⟨rfl, rfl, h⟩
      obtain rfl := Option.some.inj h
      rfl

/-- The tests are the compiled conditions. -/
theorem mem_tests {tests : List ConditionTest}
    (h : (c.conditions.toList.mapM fun p => compileTest p.1 p.2) = .ok tests)
    {t : ConditionTest} :
    t ∈ tests ↔ c.conditions[t.key]? = some t.source ∧ Regex.parse? t.source = some t.regex := by
  rw [mem_of_mapM_eq_ok h]
  constructor
  · rintro ⟨⟨k, source⟩, hmem, ht⟩
    obtain ⟨rfl, rfl, hregex⟩ := compileTest_eq_ok.mp ht
    exact ⟨Std.ExtTreeMap.mem_toList_iff_getElem?_eq_some.mp hmem, hregex⟩
  · rintro ⟨hcondition, hregex⟩
    exact ⟨(t.key, t.source), Std.ExtTreeMap.mem_toList_iff_getElem?_eq_some.mpr hcondition,
      compileTest_eq_ok.mpr ⟨rfl, rfl, hregex⟩⟩

/-- The number of groups of a condition is that of its expression. -/
theorem groups?_eq_some {tests : List ConditionTest}
    (h : (c.conditions.toList.mapM fun p => compileTest p.1 p.2) = .ok tests) {k : Key} {n : Nat} :
    groups? tests k = some n ↔
      ∃ source regex, c.conditions[k]? = some source ∧ Regex.parse? source = some regex ∧
        regex.groupCount = n := by
  unfold groups?
  rw [Option.map_eq_some_iff]
  constructor
  · rintro ⟨t, ht, rfl⟩
    have hkey : t.key = k := by simpa using List.find?_some ht
    obtain ⟨hcondition, hregex⟩ := (mem_tests h).mp (List.mem_of_find?_eq_some ht)
    exact ⟨t.source, t.regex, hkey ▸ hcondition, hregex, rfl⟩
  · rintro ⟨source, regex, hcondition, hregex, rfl⟩
    have hmem : (⟨k, source, regex⟩ : ConditionTest) ∈ tests :=
      (mem_tests h).mpr ⟨hcondition, hregex⟩
    obtain ⟨t, ht⟩ := Option.isSome_iff_exists.mp (List.find?_isSome.mpr
      ⟨_, hmem, decide_eq_true rfl⟩ : (tests.find? (·.key = k)).isSome = true)
    have hkey : t.key = k := by simpa using List.find?_some ht
    obtain ⟨hcondition', hregex'⟩ := (mem_tests h).mp (List.mem_of_find?_eq_some ht)
    rw [hkey, hcondition] at hcondition'
    obtain rfl := Option.some.inj hcondition'
    obtain rfl := Option.some.inj (hregex.symm.trans hregex')
    exact ⟨t, ht, rfl⟩

/-- A route has the parameters of its chain, with the templates for their values. -/
theorem mem_params {tests : List ConditionTest} {params : List (String × Template)}
    (h : c.params.toList.mapM (paramTemplate c tests) = .ok params) {name : String} {t : Template} :
    (name, t) ∈ params ↔ ∃ value, c.params[name]? = some value ∧
      Template.parse name value (c.placeholders[·]?) (groups? tests) = .ok t := by
  rw [mem_of_mapM_eq_ok h]
  constructor
  · rintro ⟨⟨name', value⟩, hmem, ht⟩
    obtain ⟨t', ht', hpair⟩ := except_bind_eq_ok.mp ht
    obtain ⟨rfl, rfl⟩ := Prod.mk.inj (Except.ok.inj hpair)
    exact ⟨value, Std.ExtTreeMap.mem_toList_iff_getElem?_eq_some.mp hmem, ht'⟩
  · rintro ⟨value, hvalue, ht⟩
    exact ⟨(name, value), Std.ExtTreeMap.mem_toList_iff_getElem?_eq_some.mpr hvalue,
      except_bind_eq_ok.mpr ⟨t, ht, rfl⟩⟩

/-- Every parameter of a chain is one of its route. -/
theorem exists_mem_params (hr : build c decision isDefault = .ok r) {name value : String}
    (h : c.params[name]? = some value) : ∃ t, (name, t) ∈ r.params := by
  obtain ⟨tests, params, -, hparams, rfl⟩ := build_eq_ok_iff.mp hr
  obtain ⟨⟨name', t⟩, ht⟩ := exists_mapM_eq_ok_iff.mp ⟨params, hparams⟩ (name, value)
    (Std.ExtTreeMap.mem_toList_iff_getElem?_eq_some.mpr h)
  obtain ⟨t', ht', hpair⟩ := except_bind_eq_ok.mp ht
  obtain ⟨rfl, rfl⟩ := Prod.mk.inj (Except.ok.inj hpair)
  exact ⟨t', (mem_params hparams).mpr ⟨value, h, ht'⟩⟩

/-- No parameter comes twice. -/
theorem pairwise_params {tests : List ConditionTest} {params : List (String × Template)}
    (h : c.params.toList.mapM (paramTemplate c tests) = .ok params) :
    params.Pairwise fun p q => p.1 ≠ q.1 := by
  have hnames : params.map (·.1) = c.params.toList.map (·.1) := by
    refine map_of_mapM_eq_ok (fun p q hq => ?_) h
    obtain ⟨t, -, hpair⟩ := except_bind_eq_ok.mp hq
    rw [← Except.ok.inj hpair]
  have hdistinct : (c.params.toList.map (·.1)).Pairwise (· ≠ ·) :=
    List.pairwise_map.mpr (c.params.distinct_keys_toList.imp fun h heq => h (by simpa using heq))
  rw [← hnames] at hdistinct
  exact List.pairwise_map.mp hdistinct

/-- A reference in a parameter of the chain finds something: a placeholder of the chain, or a group
that a condition has. -/
def Resolves (c : Chain) : Template.Reference → Prop
  | .placeholder name => c.placeholders[name]?.isSome = true
  | .capture k n => ∃ source regex, c.conditions[k]? = some source ∧
      Regex.parse? source = some regex ∧ n ≤ regex.groupCount

theorem exists_resolve_iff {tests : List ConditionTest}
    (h : (c.conditions.toList.mapM fun p => compileTest p.1 p.2) = .ok tests) {param : String}
    {reference : Template.Reference} :
    (∃ p, Template.resolve param (c.placeholders[·]?) (groups? tests) reference = .ok p) ↔
      Resolves c reference := by
  cases reference with
  | placeholder name =>
    rw [Resolves, Template.resolve]
    cases c.placeholders[name]? with
    | none => simp
    | some p => simp
  | capture k n =>
    have hgroups : Resolves c (.capture k n) ↔ ∃ g, groups? tests k = some g ∧ n ≤ g := by
      simp only [groups?_eq_some h]
      constructor
      · rintro ⟨source, regex, hcondition, hregex, hle⟩
        exact ⟨_, ⟨source, regex, hcondition, hregex, rfl⟩, hle⟩
      · rintro ⟨_, ⟨source, regex, hcondition, hregex, rfl⟩, hle⟩
        exact ⟨source, regex, hcondition, hregex, hle⟩
    rw [hgroups, Template.resolve]
    cases groups? tests k with
    | none => simp
    | some g =>
      by_cases hlt : g < n
      · simp [hlt]
      · simp [hlt, Nat.le_of_not_lt hlt]

/-- Conditions compile one by one. -/
theorem exists_tests_iff :
    (∃ tests, (c.conditions.toList.mapM fun p => compileTest p.1 p.2) = .ok tests) ↔
      ∀ (k : Key) source, c.conditions[k]? = some source →
        (Regex.parse? source).isSome = true := by
  rw [exists_mapM_eq_ok_iff]
  constructor
  · intro h k source hsource
    obtain ⟨t, ht⟩ := h (k, source) (Std.ExtTreeMap.mem_toList_iff_getElem?_eq_some.mpr hsource)
    rw [(compileTest_eq_ok.mp ht).2.2]
    rfl
  · rintro h ⟨k, source⟩ hmem
    obtain ⟨regex, hregex⟩ := Option.isSome_iff_exists.mp
      (h k source (Std.ExtTreeMap.mem_toList_iff_getElem?_eq_some.mp hmem))
    exact ⟨⟨k, source, regex⟩, compileTest_eq_ok.mpr ⟨rfl, rfl, hregex⟩⟩

theorem exists_paramTemplate_iff {tests : List ConditionTest}
    (h : (c.conditions.toList.mapM fun p => compileTest p.1 p.2) = .ok tests)
    {name value : String} :
    (∃ p, paramTemplate c tests (name, value) = .ok p) ↔
      ∀ reference, .inr reference ∈ Template.references value.toList → Resolves c reference := by
  have hparse : (∃ p, paramTemplate c tests (name, value) = .ok p) ↔
      ∃ t, Template.parse name value (c.placeholders[·]?) (groups? tests) = .ok t := by
    unfold paramTemplate
    constructor
    · rintro ⟨p, hp⟩
      obtain ⟨t, ht, -⟩ := except_bind_eq_ok.mp hp
      exact ⟨t, ht⟩
    · rintro ⟨t, ht⟩
      exact ⟨(name, t), except_bind_eq_ok.mpr ⟨t, ht, rfl⟩⟩
  rw [hparse, Template.exists_parse_iff]
  simp only [exists_resolve_iff h]

/-- Parameters resolve one by one. -/
theorem exists_params_iff {tests : List ConditionTest}
    (h : (c.conditions.toList.mapM fun p => compileTest p.1 p.2) = .ok tests) :
    (∃ params, c.params.toList.mapM (paramTemplate c tests) = .ok params) ↔
      ∀ (name value : String), c.params[name]? = some value →
        ∀ reference, .inr reference ∈ Template.references value.toList →
          Resolves c reference := by
  rw [exists_mapM_eq_ok_iff]
  constructor
  · intro hall name value hvalue
    exact (exists_paramTemplate_iff h).mp
      (hall (name, value) (Std.ExtTreeMap.mem_toList_iff_getElem?_eq_some.mpr hvalue))
  · rintro hall ⟨name, value⟩ hmem
    exact (exists_paramTemplate_iff h).mpr
      (hall name value (Std.ExtTreeMap.mem_toList_iff_getElem?_eq_some.mp hmem))

/-- A chain describes a route if its conditions compile and every reference finds something. -/
theorem exists_build_iff :
    (∃ r, build c decision isDefault = .ok r) ↔
      (∀ (k : Key) source, c.conditions[k]? = some source → (Regex.parse? source).isSome = true) ∧
      ∀ (name value : String), c.params[name]? = some value →
        ∀ reference, .inr reference ∈ Template.references value.toList →
          Resolves c reference := by
  -- Parameters are resolved against the tests, so the conditions have to compile first.
  constructor
  · rintro ⟨r, h⟩
    obtain ⟨tests, params, hok, hok', -⟩ := build_eq_ok_iff.mp h
    exact ⟨exists_tests_iff.mp ⟨tests, hok⟩, (exists_params_iff hok).mp ⟨params, hok'⟩⟩
  · rintro ⟨hconditions, hreferences⟩
    obtain ⟨tests, hok⟩ := exists_tests_iff.mpr hconditions
    obtain ⟨params, hok'⟩ := (exists_params_iff hok).mpr hreferences
    exact ⟨_, build_eq_ok_iff.mpr ⟨tests, params, hok, hok', rfl⟩⟩

/-! ### Values -/

/-- The parameters that have a value, with the value of one more. -/
def addValue (o : Options) (captured : Captured) (ps : Params) (p : String × Template) : Params :=
  match paramValue o captured p.1 p.2 with
  | some v => ps.insert p.1 v
  | none => ps

theorem getElem?_addValue_of_ne {o : Options} {captured : Captured} {ps : Params}
    {p : String × Template} {name : String} (h : p.1 ≠ name) :
    (addValue o captured ps p)[name]? = ps[name]? := by
  unfold addValue
  split
  · rw [Std.ExtTreeMap.getElem?_insert, if_neg (by simpa using h)]
  · rfl

theorem getElem?_foldl_addValue {o : Options} {captured : Captured} {l : List (String × Template)}
    {name : String} (h : ∀ t, (name, t) ∉ l) (ps : Params) :
    (l.foldl (addValue o captured) ps)[name]? = ps[name]? := by
  induction l generalizing ps with
  | nil => rfl
  | cons p l ih =>
    have hne : p.1 ≠ name := by
      rintro rfl
      exact h p.2 List.mem_cons_self
    rw [List.foldl_cons, ih (fun t ht => h t (List.mem_cons_of_mem _ ht)),
      getElem?_addValue_of_ne hne]

/-- What a match gives to a parameter does not depend on the other parameters. -/
theorem getElem?_resolved {o : Options} {captured : Captured}
    (hdistinct : r.params.Pairwise fun p q => p.1 ≠ q.1) {name : String} {t : Template}
    (h : (name, t) ∈ r.params) :
    (r.resolved o captured)[name]? = paramValue o captured name t := by
  have hfold : ∀ (l : List (String × Template)) (ps : Params),
      l.Pairwise (fun p q => p.1 ≠ q.1) → (name, t) ∈ l → ps[name]? = none →
      (l.foldl (addValue o captured) ps)[name]? = paramValue o captured name t := by
    intro l
    induction l with
    | nil => exact fun _ _ => nofun
    | cons p l ih =>
      intro ps hdistinct hmem hps
      obtain ⟨hp, hl⟩ := List.pairwise_cons.mp hdistinct
      rw [List.foldl_cons]
      rcases List.mem_cons.mp hmem with rfl | hmem
      · rw [getElem?_foldl_addValue fun t' ht' => hp _ ht' rfl]
        unfold addValue
        cases hvalue : paramValue o captured name t with
        | some v => exact Std.ExtTreeMap.getElem?_insert_self
        | none => exact hps
      · exact ih _ hl hmem ((getElem?_addValue_of_ne (hp _ hmem)).trans hps)
  exact hfold r.params ∅ hdistinct h Std.ExtTreeMap.getElem?_empty

end Route

end HttpRouting
