import HttpRouting.Proofs.PassEffects
import HttpRouting.Proofs.PathStems
import HttpRouting.Proofs.RoundTrip

/-!
# The default route

URLs in the form of the default route are put together from parameters, not from the path of the
route. What is written depends on which parameters are given: an action is needed as soon as there
is more than a controller, and a fallback stands in for what is missing. The path of the route reads
such a URL step by step, and finds in it what has been written.

## Main definitions

* `DefaultPath` — a path in the form of the default route
* `DefaultParts` — the parts of such a path, by name
* `usedController`, `usedAction`, `usedFormat` — what is written into a URL

## Main results

* `Shape.reads_defaultPath` — the paths that the default route reads
* `match?_defaultRoute_iff` — the requests that it answers, and the answers
* `generateDefault_eq_ok` — the URLs that are generated
* `Router.default_table_exact` — a default route alone serves the paths that have parts
* `Router.default_url_matches` — the generated URLs lead back to what has been written
-/

namespace HttpRouting

open Placeholder Shape

/-! ### Reading -/

/-- What the groups of the action and of the identifier read from the steps behind the controller,
of which there are at most two. -/
def stepGroups : List (List Char) → Groups
  | [] => [none, none, none, none]
  | [a] => [some ('/' :: a), some a, none, none]
  | a :: i :: _ => [some ('/' :: (a ++ '/' :: i)), some a, some ('/' :: i), some i]

/-- A path consists of a controller, at most two more steps, and perhaps a format. -/
structure DefaultPath (c : List Char) (vs : List (List Char)) (fmt : Option (List Char))
    (path : List Char) : Prop where
  /-- The controller is a part of a path. -/
  controller : IsPart c
  /-- The steps are parts of a path. -/
  steps : ∀ v ∈ vs, IsPart v
  /-- There are at most two more steps, for an action and an identifier. -/
  length : vs.length ≤ 2
  /-- A format is a part of a path. -/
  format : ∀ f ∈ fmt, IsPart f
  /-- The text of the path. -/
  text : path = (Stem.slashed (c :: vs)).text ++ formatText fmt

/-- A path can be read in one way only. -/
theorem DefaultPath.unique {c c' path : List Char} {steps steps' : List (List Char)}
    {fmt fmt' : Option (List Char)} (h : DefaultPath c steps fmt path)
    (h' : DefaultPath c' steps' fmt' path) : c = c' ∧ steps = steps' ∧ fmt = fmt' := by
  obtain ⟨hstem, hfmt⟩ := Stem.text_append_inj
    (Stem.proper_slashed (List.forall_mem_cons.mpr ⟨h.controller, h.steps⟩))
    (Stem.proper_slashed (List.forall_mem_cons.mpr ⟨h'.controller, h'.steps⟩))
    (h.text.symm.trans h'.text)
  obtain ⟨hcontroller, hsteps⟩ := List.cons.inj (Stem.slashed_inj hstem)
  exact ⟨hcontroller, hsteps, hfmt⟩

/-- A query cannot start inside such a path. -/
theorem DefaultPath.question_not_mem {c path : List Char} {vs : List (List Char)}
    {fmt : Option (List Char)} (h : DefaultPath c vs fmt path) : '?' ∉ path := by
  have hpart : ∀ {v : List Char}, IsPart v → '?' ∉ v := fun hv hmem => hv.2 '?' hmem (by decide)
  rw [h.text, List.mem_append, not_or]
  constructor
  · intro hmem
    obtain ⟨_, hstep, hmem⟩ := List.mem_flatMap.mp hmem
    obtain ⟨v, hv, rfl⟩ := List.mem_map.mp hstep
    rcases List.mem_cons.mp hmem with heq | hmem
    · exact absurd heq (by simp)
    · exact hpart (List.forall_mem_cons.mpr ⟨h.controller, h.steps⟩ v hv) hmem
  · cases fmt with
    | none => exact List.not_mem_nil
    | some f =>
      intro hmem
      rcases List.mem_cons.mp hmem with heq | hmem
      · exact absurd heq (by decide)
      · exact hpart (h.format f rfl) hmem

namespace Shape

variable {s : Shape} {t : List Char} {gs : Groups} {name : Option (List Char)}

theorem reads_slash : (seq (char '/') s).Reads t gs ↔ ∃ t', t = '/' :: t' ∧ s.Reads t' gs := by
  constructor
  · rintro ⟨_, t', _, _, rfl, rfl, ⟨rfl, rfl⟩, h⟩
    exact ⟨t', rfl, h⟩
  · rintro ⟨t', rfl, h⟩
    exact ⟨['/'], t', [], gs, rfl, rfl, ⟨rfl, rfl⟩, h⟩

theorem reads_seq_token : (seq (token name) s).Reads t gs ↔
    ∃ v t' gs', IsPart v ∧ t = v ++ t' ∧ gs = some v :: gs' ∧ s.Reads t' gs' := by
  constructor
  · rintro ⟨v, t', _, gs', rfl, rfl, ⟨hv, rfl⟩, h⟩
    exact ⟨v, t', gs', hv, rfl, rfl, h⟩
  · rintro ⟨v, t', gs', hv, rfl, rfl, h⟩
    exact ⟨v, t', [some v], gs', rfl, rfl, ⟨hv, rfl⟩, h⟩

/-- The step of an identifier in the default route. -/
def identifierStep : Shape := seq (char '/') (token (some "id".toList))

/-- The step of an action in the default route, and what may follow it. -/
def actionStep : Shape :=
  seq (char '/') (seq (token (some "action".toList)) (opt identifierStep))

theorem reads_identifierStep : identifierStep.Reads t gs ↔
    ∃ i, IsPart i ∧ t = '/' :: i ∧ gs = [some i] := by
  rw [identifierStep, reads_slash]
  constructor
  · rintro ⟨i, rfl, hi, rfl⟩
    exact ⟨i, hi, rfl, rfl⟩
  · rintro ⟨i, hi, rfl, rfl⟩
    exact ⟨i, rfl, hi, rfl⟩

theorem reads_actionStep : (opt actionStep).Reads t gs ↔
    ∃ steps : List (List Char), (∀ v ∈ steps, IsPart v) ∧ steps.length ≤ 2 ∧
      t = (Stem.slashed steps).text ∧ gs = stepGroups steps := by
  constructor
  · rintro (⟨_, hslash, rfl⟩ | ⟨rfl, rfl⟩)
    · obtain ⟨_, rfl, haction⟩ := reads_slash.mp hslash
      obtain ⟨a, _, _, ha, rfl, rfl, hrest⟩ := reads_seq_token.mp haction
      rcases hrest with ⟨_, hstep, rfl⟩ | ⟨rfl, rfl⟩
      · obtain ⟨i, hi, rfl, rfl⟩ := reads_identifierStep.mp hstep
        exact ⟨[a, i], by simp [ha, hi], Nat.le_refl 2, by simp [Stem.slashed, Stem.text], rfl⟩
      · exact ⟨[a], by simp [ha], by simp, by simp [Stem.slashed, Stem.text],
          by simp [stepGroups, groups, identifierStep]⟩
    · exact ⟨[], List.forall_mem_nil _, by simp, rfl, rfl⟩
  · rintro ⟨steps, hparts, hlength, rfl, rfl⟩
    rcases steps with - | ⟨a, - | ⟨i, - | ⟨_, rest⟩⟩⟩
    · exact .inr ⟨rfl, rfl⟩
    · have ha := hparts a List.mem_cons_self
      exact .inl ⟨_, reads_slash.mpr ⟨_, rfl, reads_seq_token.mpr ⟨a, [], _, ha, rfl, rfl,
        .inr ⟨rfl, rfl⟩⟩⟩, by simp [Stem.slashed, Stem.text, stepGroups, groups, identifierStep]⟩
    · obtain ⟨ha, hi⟩ := List.forall_mem_cons.mp hparts
      have hstep := reads_identifierStep.mpr ⟨i, hi i List.mem_cons_self, rfl, rfl⟩
      exact .inl ⟨_, reads_slash.mpr ⟨_, rfl, reads_seq_token.mpr ⟨a, '/' :: i, _, ha, by simp, rfl,
        .inl ⟨_, hstep, rfl⟩⟩⟩, by simp [Stem.slashed, Stem.text, stepGroups]⟩
    · simp at hlength

/-- The default route reads a controller, up to two more steps, and perhaps a format. -/
theorem reads_defaultPath : defaultPath.Reads t gs ↔
    ∃ controller steps fmt, DefaultPath controller steps fmt t ∧
      gs = some controller :: (stepGroups steps ++ formatGroups fmt) := by
  have hshape : defaultPath = seq (char '/') (seq (token (some "controller".toList))
      (seq (opt actionStep) format)) := rfl
  rw [hshape, reads_slash]
  constructor
  · rintro ⟨_, rfl, hcontroller⟩
    obtain ⟨c, _, _, hc, rfl, rfl, hrest⟩ := reads_seq_token.mp hcontroller
    obtain ⟨_, _, fmt, hfmt, rfl, rfl, haction⟩ := reads_seq_format.mp hrest
    obtain ⟨steps, hparts, hlength, rfl, rfl⟩ := reads_actionStep.mp haction
    exact ⟨c, steps, fmt, ⟨hc, hparts, hlength, hfmt, by simp [Stem.slashed, Stem.text]⟩, rfl⟩
  · rintro ⟨c, steps, fmt, ⟨hc, hparts, hlength, hfmt, rfl⟩, rfl⟩
    refine ⟨_, by rw [Stem.slashed, List.map_cons, Stem.text_cons, List.cons_append], ?_⟩
    refine reads_seq_token.mpr ⟨c, _, _, hc, List.append_assoc _ _ _, rfl, ?_⟩
    exact reads_seq_format.mpr ⟨_, _, fmt, hfmt, rfl, rfl,
      reads_actionStep.mpr ⟨steps, hparts, hlength, rfl, rfl⟩⟩

theorem token_mem_defaultPath {name : String} (h : .token (some name.toList) ∈ defaultPath.pieces) :
    name = "controller" ∨ name = "action" ∨ name = "id" ∨ name = "format" := by
  simp only [← String.toList_inj]
  simpa [defaultPath, format, Shape.pieces] using h

theorem value?_defaultPath (c : List Char) (steps : List (List Char)) (fmt : Option (List Char)) :
    (defaultPath.value? (some c :: (stepGroups steps ++ formatGroups fmt)) "controller".toList =
      some c) ∧
    (defaultPath.value? (some c :: (stepGroups steps ++ formatGroups fmt)) "action".toList =
      steps[0]?) ∧
    (defaultPath.value? (some c :: (stepGroups steps ++ formatGroups fmt)) "id".toList =
      steps[1]?) ∧
    (defaultPath.value? (some c :: (stepGroups steps ++ formatGroups fmt)) "format".toList =
      fmt) := by
  match steps, fmt with
  | [], none | [], some f | [a], none | [a], some f | a :: i :: _, none | a :: i :: _, some f =>
    exact ⟨rfl, rfl, rfl, rfl⟩

end Shape

/-! ### Answers -/

/-- The steps at a default route on the root. -/
def defaultFrames : List Frame := [{ conditions := .ofPath Behavior.defaultPath }, Chain.rootFrame]

theorem hasShape_defaultFrames : Chain.HasShape defaultFrames defaultPath where
  regular := List.forall_mem_cons.mpr ⟨Frame.regular_ofPath .default,
    List.forall_mem_singleton.mpr (Frame.regular_of_params _)⟩
  tidy := describes_defaultPath.tidy
  pieces := by
    have hpieces := @Frame.pieces_of_describes { conditions := .ofPath Behavior.defaultPath } _ _
      Std.ExtTreeMap.getElem?_insert_self describes_defaultPath (by decide)
    rw [defaultFrames, Chain.rootFrame, Chain.pathPieces, Chain.pathPieces, Chain.pathPieces,
      Frame.pieces_of_params, hpieces]
    rfl
  ne_nil := List.cons_ne_nil _ _

theorem getElem?_conditions_defaultFrames {k : Key} (hk : k ≠ .path) :
    (Chain.ofFrames defaultFrames).conditions[k]? = none := by
  have hroot : ∀ f ∈ [Chain.rootFrame], f.IsLiteral :=
    List.forall_mem_singleton.mpr (Frame.isLiteral_of_params _)
  rw [defaultFrames, Chain.getElem?_conditions_cons hk, Chain.getElem?_conditions_of_ne hroot hk,
    Conditions.ofPath, Std.ExtTreeMap.getElem?_insert, if_neg (by simpa using Ne.symm hk),
    Std.ExtTreeMap.getElem?_empty]
  rfl

theorem getElem?_allParams_defaultFrames (name : String) :
    (Chain.ofFrames defaultFrames).allParams[name]? =
      (if .token (some name.toList) ∈ defaultPath.pieces then some (Node.reading name)
        else none).or (if name = "action" then some "index" else none) := by
  obtain ⟨hpath, hroot⟩ := List.forall_mem_cons.mp hasShape_defaultFrames.regular
  have hpieces := @Frame.pieces_of_describes { conditions := .ofPath Behavior.defaultPath } _ _
    Std.ExtTreeMap.getElem?_insert_self describes_defaultPath (by decide)
  have hoff : (Chain.ofFrames []).allParams[name]? = none := Std.ExtTreeMap.getElem?_empty
  have haction : Chain.rootFrame.params[name]? =
      if name = "action" then some "index" else none := by
    rw [Chain.rootFrame, Std.ExtTreeMap.getElem?_insert, Std.ExtTreeMap.getElem?_empty]
    simp only [Std.compare_eq_iff_eq, eq_comm (a := "action")]
  rw [defaultFrames, Chain.getElem?_allParams_cons hpath,
    Chain.getElem?_allParams_cons (hroot _ List.mem_cons_self), hpieces, haction, hoff,
    Option.or_none, Std.ExtTreeMap.getElem?_empty, Option.none_or, Chain.rootFrame,
    Frame.pieces_of_params, if_neg List.not_mem_nil, Option.or_none]

theorem exists_build_defaultFrames :
    ∃ r, Route.build (Chain.ofFrames defaultFrames) none true = .ok r := by
  refine Route.exists_build_of_regular hasShape_defaultFrames.regular
    (fun k source hk hsource => ?_) (fun f hf name value hvalue => ?_) none true
  · rw [getElem?_conditions_defaultFrames hk] at hsource
    cases hsource
  · exact Template.inr_not_mem_references
      (plainParams_conditions plainParams_rootFrame f hf name value hvalue)

section Match

variable {r : Route} (hr : Route.build (Chain.ofFrames defaultFrames) none true = .ok r)
  {q : Request} {ps : Params}
include hr

/-- The default route answers with what its path has read, and with the default action where there
is no action. -/
theorem exists_defaultPath_of_match? (h : r.match? {} q = some ps) :
    ∃ controller steps fmt, DefaultPath controller steps fmt q.path.toList ∧
      ps = answer (String.ofList controller) ((steps[0]?.map String.ofList).getD "index")
        (steps[1]?.map String.ofList) (fmt.map String.ofList) := by
  obtain ⟨gs, hreads, hanswers⟩ := Route.exists_reads_of_match? hasShape_defaultFrames hr h
  obtain ⟨c, steps, fmt, hpath, rfl⟩ := reads_defaultPath.mp hreads
  obtain ⟨hc, ha, hi, hf⟩ := value?_defaultPath c steps fmt
  have hread : ∀ name : String, .token (some name.toList) ∈ defaultPath.pieces → ps[name]? =
      ((defaultPath.value? (some c :: (stepGroups steps ++ formatGroups fmt)) name.toList).map
        String.ofList).or (if name = "action" then some "index" else none) := by
    intro name htoken
    refine hanswers.reading name name ?_ htoken
    rw [getElem?_allParams_defaultFrames, if_pos htoken, Option.some_or]
  refine ⟨c, steps, fmt, hpath, Std.ExtTreeMap.ext_getElem? fun name => ?_⟩
  rw [getElem?_answer]
  by_cases haction : name = "action"
  · subst haction
    rw [if_pos rfl, hread _ (by decide), ha, if_pos rfl]
    cases steps[0]? <;> rfl
  by_cases hcontroller : name = "controller"
  · subst hcontroller
    rw [if_neg haction, if_pos rfl, hread _ (by decide), hc, if_neg haction]
    rfl
  rw [if_neg haction, if_neg hcontroller]
  by_cases hid : name = "id"
  · subst hid
    rw [if_pos rfl, hread _ (by decide), hi, if_neg haction, Option.or_none]
  rw [if_neg hid]
  by_cases hformat : name = "format"
  · subst hformat
    rw [if_pos rfl, hread _ (by decide), hf, if_neg haction, Option.or_none]
  rw [if_neg hformat]
  -- A name that is no placeholder has no value, because the root gives one to the action only.
  refine hanswers.absent name ?_
  rw [getElem?_allParams_defaultFrames, if_neg haction, Option.or_none, if_neg]
  intro htoken
  rcases token_mem_defaultPath htoken with h | h | h | h
  · exact hcontroller h
  · exact haction h
  · exact hid h
  · exact hformat h

/-- The default route matches the paths that it reads, and every path has one answer. -/
theorem match?_defaultRoute_iff : r.match? {} q = some ps ↔
    ∃ controller steps fmt, DefaultPath controller steps fmt q.path.toList ∧
      ps = answer (String.ofList controller) ((steps[0]?.map String.ofList).getD "index")
        (steps[1]?.map String.ofList) (fmt.map String.ofList) := by
  refine ⟨exists_defaultPath_of_match? hr, ?_⟩
  rintro ⟨c, steps, fmt, hpath, rfl⟩
  have hsome : (r.match? {} q).isSome = true := by
    refine (Route.isSome_match?_iff_reads hasShape_defaultFrames hr).mpr
      ⟨⟨_, reads_defaultPath.mpr ⟨c, steps, fmt, hpath, rfl⟩⟩, fun k source regex hk hsource => ?_⟩
    rw [getElem?_conditions_defaultFrames hk] at hsource
    cases hsource
  obtain ⟨ps, hps⟩ := Option.isSome_iff_exists.mp hsome
  obtain ⟨c', steps', fmt', hpath', rfl⟩ := exists_defaultPath_of_match? hr hps
  obtain ⟨rfl, rfl, rfl⟩ := hpath.unique hpath'
  exact hps

end Match

/-! ### The parts of a path -/

/-- The parts of a path in the form of the default route. -/
@[ext] structure DefaultParts where
  /-- The controller. -/
  controller : String
  /-- The action, if there is one. -/
  action : Option String
  /-- The identifier, if there is one. -/
  id : Option String
  /-- The format, if there is one. -/
  format : Option String
  /-- Each of them is a part of a path. -/
  isPart : ∀ v, some v ∈ [some controller, action, id, format] → IsPart v.toList
  /-- An identifier stands behind an action. -/
  action_of_id : id.isSome = true → action.isSome = true

namespace DefaultParts

/-- The steps behind the controller. -/
def steps (d : DefaultParts) : List String := d.action.toList ++ d.id.toList

/-- The path: a slash before each step, and a dot before the format. -/
def path (d : DefaultParts) : String :=
  "/" ++ d.controller ++ (d.action.map ("/" ++ ·)).getD "" ++ (d.id.map ("/" ++ ·)).getD "" ++
    (d.format.map ("." ++ ·)).getD ""

/-- The parameters: the parts by name, and the default action where there is none. -/
def params (d : DefaultParts) : Params :=
  answer d.controller (d.action.getD ({} : Options).defaultAction) d.id d.format

theorem getElem?_steps (d : DefaultParts) : d.steps[0]? = d.action ∧ d.steps[1]? = d.id := by
  have hneeds := d.action_of_id
  rw [steps]
  cases haction : d.action with
  | some a => cases d.id <;> exact ⟨rfl, rfl⟩
  | none =>
    cases hid : d.id with
    | none => exact ⟨rfl, rfl⟩
    | some i =>
      rw [haction, hid] at hneeds
      cases hneeds rfl

theorem toList_path (d : DefaultParts) : d.path.toList =
    (Stem.slashed (d.controller.toList :: d.steps.map String.toList)).text ++
      formatText (d.format.map String.toList) := by
  rw [path, steps]
  cases d.action <;> cases d.id <;> cases d.format <;> simp [Stem.slashed, Stem.text, formatText]

theorem defaultPath (d : DefaultParts) :
    DefaultPath d.controller.toList (d.steps.map String.toList) (d.format.map String.toList)
      d.path.toList where
  controller := d.isPart _ (by simp)
  steps := by
    refine List.forall_mem_map.mpr fun v hv => d.isPart v ?_
    rcases List.mem_append.mp hv with hv | hv
    · simp [Option.mem_toList.mp hv]
    · simp [Option.mem_toList.mp hv]
  length := by
    rw [List.length_map, steps, List.length_append]
    exact Nat.add_le_add Option.length_toList_le Option.length_toList_le
  format f hf := by
    obtain ⟨v, hv, rfl⟩ := Option.map_eq_some_iff.mp hf
    exact d.isPart v (by simp [hv])
  text := d.toList_path

/-- A path has its parts in one way only. -/
theorem path_injective : Function.Injective path := by
  intro d d' h
  have hpath' := d'.defaultPath
  rw [← h] at hpath'
  obtain ⟨hcontroller, hsteps, hformat⟩ := d.defaultPath.unique hpath'
  have hinj : Function.Injective String.toList := fun _ _ => String.toList_inj.mp
  have hsteps := List.map_injective_iff.mpr hinj hsteps
  refine DefaultParts.ext (hinj hcontroller) ?_ ?_ (Option.map_injective hinj hformat)
  · rw [← d.getElem?_steps.1, hsteps, d'.getElem?_steps.1]
  · rw [← d.getElem?_steps.2, hsteps, d'.getElem?_steps.2]

end DefaultParts

theorem toList_getElem?_zero_append {α : Type} {xs : List α} (h : xs.length ≤ 2) :
    xs[0]?.toList ++ xs[1]?.toList = xs := by
  match xs, h with
  | [], _ | [_], _ | [_, _], _ => rfl

/-- A path that consists of a controller, steps and a format has parts. -/
theorem DefaultPath.exists_parts {c path : List Char} {vs : List (List Char)}
    {fmt : Option (List Char)} (h : DefaultPath c vs fmt path) :
    ∃ d : DefaultParts, d.path.toList = path ∧
      d.params = answer (String.ofList c) ((vs[0]?.map String.ofList).getD "index")
        (vs[1]?.map String.ofList) (fmt.map String.ofList) := by
  have hchars : ∀ o : Option (List Char), (o.map String.ofList).map String.toList = o := by
    intro o
    cases o <;> simp
  have hpart : ∀ (o : Option (List Char)), (∀ v ∈ o, IsPart v) →
      ∀ w, some w = o.map String.ofList → IsPart w.toList := by
    intro o ho w hw
    obtain ⟨v, hv, rfl⟩ := Option.map_eq_some_iff.mp hw.symm
    rw [String.toList_ofList]
    exact ho v hv
  have hstep : ∀ n, ∀ v ∈ vs[n]?, IsPart v := fun n v hv => h.steps v (List.mem_of_getElem? hv)
  let d : DefaultParts :=
    { controller := String.ofList c
      action := vs[0]?.map String.ofList
      id := vs[1]?.map String.ofList
      format := fmt.map String.ofList
      isPart := by
        intro v hv
        simp only [List.mem_cons, List.not_mem_nil, or_false] at hv
        rcases hv with hv | hv | hv | hv
        · exact hpart (some c) (fun _ hc => Option.some.inj hc ▸ h.controller) v hv
        · exact hpart _ (hstep 0) v hv
        · exact hpart _ (hstep 1) v hv
        · exact hpart fmt h.format v hv
      action_of_id := by
        cases vs <;> simp }
  refine ⟨d, ?_, rfl⟩
  have hsteps : d.steps.map String.toList = vs := by
    rw [DefaultParts.steps, List.map_append, ← Option.toList_map, ← Option.toList_map,
      hchars, hchars, toList_getElem?_zero_append h.length]
  rw [d.toList_path, hsteps, hchars, h.text, String.toList_ofList]

/-! ### Generated URLs -/

/-- The controller in a URL in the form of the default route. -/
def usedController (ps fallback : Params) : Option String :=
  ps["controller"]?.or fallback["controller"]?

/-- The action in such a URL. It is written as soon as there is any parameter but the controller. -/
def usedAction (ps fallback : Params) : Option String :=
  if (ps.erase "controller").isEmpty then none else ps["action"]?.or fallback["action"]?

/-- The format in such a URL. The format `current` stands for that of the fallback, if this has
one. -/
def usedFormat (ps fallback : Params) : Option String :=
  ps["format"]?.map fun v => if v = "current" then fallback["format"]?.getD v else v

/-- The steps behind the controller in such a URL. -/
def usedSteps (ps fallback : Params) : List String :=
  (usedAction ps fallback).toList ++ (ps["id"]?.map (percentEncode reservedInSegment)).toList

/-- The path of such a URL. -/
def usedPath (controller : String) (ps fallback : Params) : List Char :=
  (Stem.slashed (controller.toList :: (usedSteps ps fallback).map String.toList)).text ++
    formatText ((usedFormat ps fallback).map String.toList)

section Generate

variable {ps fallback : Params} {url : String}

theorem isEmpty_erase_iff :
    (ps.erase "controller").isEmpty = true ↔ ∀ name ∈ ps, name = "controller" := by
  rw [Std.ExtTreeMap.isEmpty_iff, Std.ExtTreeMap.eq_empty_iff_forall_not_mem]
  refine forall_congr' fun name => ?_
  rw [Std.ExtTreeMap.mem_erase, Ne, Std.compare_eq_iff_eq, not_and', eq_comm]
  exact imp_congr_right fun _ => not_not

/-- An action is needed if there is a parameter other than the controller. -/
theorem needsAction_eq (ps : Params) :
    (["action", "id", "format"].any ps.contains ||
      !(ps.filter fun n _ => n ∉ Table.defaultNames).isEmpty) =
        !(ps.erase "controller").isEmpty := by
  have hfilter : (ps.filter fun n _ => n ∉ Table.defaultNames).isEmpty = true ↔
      ∀ name ∈ ps, name ∈ Table.defaultNames := by
    rw [Std.ExtTreeMap.isEmpty_iff, Std.ExtTreeMap.eq_empty_iff_forall_not_mem]
    refine forall_congr' fun name => ?_
    rw [Std.ExtTreeMap.mem_filter]
    simp
  rw [Bool.eq_iff_iff, Bool.or_eq_true, Bool.not_eq_true', ← Bool.not_eq_true, hfilter,
    Bool.not_eq_true', ← Bool.not_eq_true, isEmpty_erase_iff,
    List.any_eq_true]
  constructor
  · rintro (⟨name, hname, hmem⟩ | hother) hall
    · rw [hall name (Std.ExtTreeMap.mem_iff_contains.mpr hmem)] at hname
      exact absurd hname (by decide)
    · exact hother fun name hmem => by rw [hall name hmem]; decide
  · intro hnot
    by_contra hnone
    rw [not_or, not_not] at hnone
    refine hnot fun name hmem => ?_
    have hdefault := hnone.2 name hmem
    rw [Table.defaultNames, List.mem_cons] at hdefault
    rcases hdefault with rfl | hdefault
    · rfl
    · exact absurd ⟨name, hdefault, Std.ExtTreeMap.mem_iff_contains.mp hmem⟩ hnone.1

theorem getElem?_usedSteps
    (h : ps["id"]?.isSome = true → (usedAction ps fallback).isSome = true) :
    (usedSteps ps fallback)[0]? = usedAction ps fallback ∧
      (usedSteps ps fallback)[1]? = ps["id"]?.map (percentEncode reservedInSegment) := by
  rw [usedSteps]
  cases haction : usedAction ps fallback with
  | some a => cases ps["id"]? <;> exact ⟨rfl, rfl⟩
  | none =>
    cases hid : ps["id"]? with
    | none => exact ⟨rfl, rfl⟩
    | some i =>
      rw [haction, hid] at h
      cases h rfl

theorem takeWhile_appendTo {rest : Params} {path : String} (h : '?' ∉ path.toList) :
    (Params.appendTo rest path).toList.takeWhile (· ≠ '?') = path.toList := by
  have hall : ∀ c ∈ path.toList, (decide (c ≠ '?')) = true :=
    fun c hc => decide_eq_true fun heq => h (heq ▸ hc)
  rw [Params.appendTo]
  split
  · exact List.takeWhile_eq_self_iff.mpr hall
  · rw [String.toList_append, String.toList_append, List.append_assoc,
      List.takeWhile_append_of_pos hall]
    simp

/-- The path of a generated URL, as it is put together. -/
theorem ofList_used (controller : String) :
    String.ofList (usedPath controller ps fallback) =
      "/" ++ controller ++ (match usedAction ps fallback with
        | some a => "/" ++ a
        | none => "") ++ (match ps["id"]? with
        | some v => "/" ++ percentEncode reservedInSegment v
        | none => "") ++ (match ps["format"]? with
        | some v => "." ++ if v = "current" then fallback["format"]?.getD v else v
        | none => "") := by
  rw [← String.toList_inj, String.toList_ofList, usedPath, usedSteps, usedFormat]
  cases usedAction ps fallback <;> cases ps["id"]? <;> cases ps["format"]? <;>
    simp [Stem.slashed, Stem.text, formatText]

/-- A generated URL consists of what is written into it, and of a query. An identifier is never
written without an action. -/
theorem generateDefault_eq_ok (h : Table.generateDefault ps fallback = .ok url) :
    ∃ controller, usedController ps fallback = some controller ∧
      (ps["id"]?.isSome = true → (usedAction ps fallback).isSome = true) ∧
      url = Params.appendTo (ps.filter fun n _ => n ∉ Table.defaultNames)
        (String.ofList (usedPath controller ps fallback)) := by
  have horelse : ∀ o o' : Option String, (o <|> o') = o.or o' := fun _ _ => Option.orElse_eq_or
  unfold Table.generateDefault at h
  dsimp only at h
  rw [needsAction_eq, horelse, horelse] at h
  cases hcontroller : ps["controller"]?.or fallback["controller"]? with
  | none =>
    rw [hcontroller] at h
    cases h
  | some controller =>
    rw [hcontroller] at h
    refine ⟨controller, hcontroller, ?_⟩
    rw [ofList_used]
    -- A missing action is an error only if one is needed.
    cases hneeds : (ps.erase "controller").isEmpty with
    | true =>
      have haction : usedAction ps fallback = none := if_pos hneeds
      rw [hneeds] at h
      refine ⟨fun hid => ?_, ?_⟩
      · have hmem := Std.ExtTreeMap.mem_iff_isSome_getElem?.mpr hid
        exact absurd (isEmpty_erase_iff.mp hneeds "id" hmem) (by decide)
      · rw [haction]
        exact (Except.ok.inj h).symm
    | false =>
      have haction : usedAction ps fallback = ps["action"]?.or fallback["action"]? :=
        if_neg (by rw [hneeds]; exact Bool.false_ne_true)
      rw [hneeds] at h
      cases ha : ps["action"]?.or fallback["action"]? with
      | none =>
        rw [ha] at h
        cases h
      | some a =>
        rw [ha] at h haction
        rw [haction]
        exact ⟨fun _ => rfl, (Except.ok.inj h).symm⟩

end Generate

/-! ### Tables with a default route -/

theorem Behavior.declares_defaultRoutes {r : Route}
    (hr : Route.build (Chain.ofFrames defaultFrames) none true = .ok r) :
    ((Behavior.root {}).defaultRoutes ∅).Declares [r] [] fun _ => True := by
  refine Pass.declares_child.after fun b hb => Pass.declares_register (Pass.declares_route ?_)
  rw [← hr, hb, defaultFrames, Chain.ofFrames, List.map_cons, List.map_singleton, Chain.rootFrame,
    Frame.node_of_conditions, Frame.node_of_conditions]
  rfl

namespace Router

/-- The table of a default route is exact. On a default router whose only route is a default route,
a request is answered exactly if its path has the parts of a default path, and then with these parts
and nothing else. No path has two different sequences of parts. -/
theorem default_table_exact :
    ∃ t, Yields { options := {} } [(.replace, .route { kind := .default })] t ∧
      Function.Injective DefaultParts.path ∧
      ∀ (q : Request) (n : Nat) (ps : Params), t.match? q = some (n, ps) ↔
        n = 0 ∧ ∃ d : DefaultParts, q.path = d.path ∧ ps = d.params := by
  obtain ⟨r, hr⟩ := exists_build_defaultFrames
  obtain ⟨t, hyields, hoffers⟩ := exists_yields_of_declares (Behavior.declares_defaultRoutes hr)
    (@Declaration.run_route_iff ∅ .default (Behavior.root {}) { registry := { options := {} } })
    List.nodup_nil nofun
  refine ⟨t, hyields, DefaultParts.path_injective, fun q n ps => ?_⟩
  have hmatch : t.match? q = (r.match? {} q).map (0, ·) := by
    rw [Table.match?, hoffers.matchers, List.map_singleton, Table.firstMatch?]
    cases r.match? {} q <;> rfl
  rw [hmatch, Option.map_eq_some_iff]
  constructor
  · rintro ⟨ps, hps, heq⟩
    obtain ⟨rfl, rfl⟩ := Prod.mk.inj heq
    obtain ⟨c, steps, fmt, hpath, rfl⟩ := (match?_defaultRoute_iff hr).mp hps
    obtain ⟨d, hd, hparams⟩ := hpath.exists_parts
    exact ⟨rfl, d, String.toList_inj.mp hd.symm, hparams.symm⟩
  · rintro ⟨rfl, d, hq, rfl⟩
    refine ⟨_, (match?_defaultRoute_iff hr).mpr ⟨_, _, _, hq ▸ d.defaultPath, ?_⟩, rfl⟩
    rw [List.getElem?_map, List.getElem?_map, d.getElem?_steps.1, d.getElem?_steps.2,
      String.ofList_toList, Option.map_map, Option.map_map, Option.map_map]
    simp [DefaultParts.params, Function.comp_def]

/-- The default route and the generator for its form agree. On a default router whose only route is
a default route, let a URL be generated, let the controller, the action and the format in it be
parts of a path, and let an identifier not be empty and have no dot. The path of the URL is then
matched, and the parameters are exactly the controller, the action or else the default action, the
encoded identifier and the format, as they have been written. -/
theorem default_url_matches :
    ∃ t, Yields { options := {} } [(.replace, .route { kind := .default })] t ∧
      ∀ (ps fallback : Params) (url : String), Table.generateDefault ps fallback = .ok url →
        (∀ v ∈ usedController ps fallback, IsPart v.toList) →
        (∀ v ∈ usedAction ps fallback, IsPart v.toList) →
        (∀ v ∈ usedFormat ps fallback, IsPart v.toList) →
        (∀ v ∈ ps["id"]?, v ≠ "" ∧ '.' ∉ v.toList) →
        ∃ controller, usedController ps fallback = some controller ∧
          ∀ q : Request, q.path = String.ofList (url.toList.takeWhile (· ≠ '?')) →
            t.match? q = some (0, answer controller
              ((usedAction ps fallback).getD ({} : Options).defaultAction)
              (ps["id"]?.map (percentEncode reservedInSegment)) (usedFormat ps fallback)) := by
  obtain ⟨r, hr⟩ := exists_build_defaultFrames
  obtain ⟨t, hyields, hoffers⟩ := exists_yields_of_declares (Behavior.declares_defaultRoutes hr)
    (@Declaration.run_route_iff ∅ .default (Behavior.root {}) { registry := { options := {} } })
    List.nodup_nil nofun
  refine ⟨t, hyields, fun ps fallback url hurl hcontroller haction hformat hid => ?_⟩
  obtain ⟨controller, hused, hneeds, rfl⟩ := generateDefault_eq_ok hurl
  refine ⟨controller, hused, fun q hq => ?_⟩
  -- What has been written makes a path in the form of the default route.
  have hpath : DefaultPath controller.toList ((usedSteps ps fallback).map String.toList)
      ((usedFormat ps fallback).map String.toList) (usedPath controller ps fallback) := by
    refine ⟨hcontroller controller hused, List.forall_mem_map.mpr fun v hv => ?_, ?_,
      fun f hf => ?_, rfl⟩
    · rcases List.mem_append.mp hv with hv | hv
      · exact haction v (Option.mem_toList.mp hv)
      · obtain ⟨i, hi, rfl⟩ := Option.map_eq_some_iff.mp (Option.mem_toList.mp hv)
        obtain ⟨hne, hdot⟩ := hid i hi
        exact isPart_percentEncode hne hdot
    · have hle : ∀ o : Option String, o.toList.length ≤ 1 := by
        intro o
        cases o <;> simp
      have haction := hle (usedAction ps fallback)
      have hid := hle (ps["id"]?.map (percentEncode reservedInSegment))
      rw [List.length_map, usedSteps, List.length_append]
      omega
    · obtain ⟨v, hv, rfl⟩ := Option.map_eq_some_iff.mp hf
      exact hformat v hv
  -- Such a path has no question mark, so that the first one in the URL starts the query.
  rw [takeWhile_appendTo (by rw [String.toList_ofList]; exact hpath.question_not_mem),
    String.ofList_toList] at hq
  have hmatch := (match?_defaultRoute_iff hr).mpr
    ⟨_, _, _, by rw [hq, String.toList_ofList]; exact hpath, rfl⟩
  have hchars : ∀ o : Option String, (o.map String.toList).map String.ofList = o := by
    intro o
    cases o <;> simp
  obtain ⟨hfirst, hsecond⟩ := getElem?_usedSteps hneeds
  rw [String.ofList_toList, List.getElem?_map, List.getElem?_map, hchars, hchars, hchars, hfirst,
    hsecond] at hmatch
  have hmatchers : t.matchers = [r.match? {}] := hoffers.matchers
  rw [Table.match?, hmatchers, Table.firstMatch?, hmatch]

/-- A post in a page of its list, in the format of the request. -/
def pageParams : Params :=
  ((∅ : Params).insertSome "id" (some "a b")).insertSome "page" (some "2") |>.insertSome "format"
    (some "current")

/-- The parameters of a request for a post. -/
def pageFallback : Params := answer "posts" "show" none (some "json")

/-- The controller, the action and the format of the fallback are found again. -/
theorem default_url_matches_page :
    Table.generateDefault pageParams pageFallback = .ok "/posts/show/a%20b.json?page=2" ∧
      (∀ v ∈ usedController pageParams pageFallback, IsPart v.toList) ∧
      (∀ v ∈ usedAction pageParams pageFallback, IsPart v.toList) ∧
      (∀ v ∈ usedFormat pageParams pageFallback, IsPart v.toList) ∧
      (∀ v ∈ pageParams["id"]?, v ≠ "" ∧ '.' ∉ v.toList) ∧
      ∃ t, Yields { options := {} } [(.replace, .route { kind := .default })] t ∧
        ∀ q : Request, q.path = "/posts/show/a%20b.json" →
          t.match? q = some (0, answer "posts" "show" (some "a%20b") (some "json")) := by
  have hurl : Table.generateDefault pageParams pageFallback =
      .ok "/posts/show/a%20b.json?page=2" := by
    decide +kernel
  have hcontroller : usedController pageParams pageFallback = some "posts" := by decide +kernel
  have haction : usedAction pageParams pageFallback = some "show" := by decide +kernel
  have hformat : usedFormat pageParams pageFallback = some "json" := by decide +kernel
  have hid : pageParams["id"]? = some "a b" := by decide +kernel
  have hencoded : percentEncode reservedInSegment "a b" = "a%20b" := by decide +kernel
  have hpath : String.ofList ("/posts/show/a%20b.json?page=2".toList.takeWhile (· ≠ '?')) =
      "/posts/show/a%20b.json" := by
    decide +kernel
  have hparts : (∀ v ∈ usedController pageParams pageFallback, IsPart v.toList) ∧
      (∀ v ∈ usedAction pageParams pageFallback, IsPart v.toList) ∧
      (∀ v ∈ usedFormat pageParams pageFallback, IsPart v.toList) ∧
      ∀ v ∈ pageParams["id"]?, v ≠ "" ∧ '.' ∉ v.toList := by
    rw [hcontroller, haction, hformat, hid]
    decide
  obtain ⟨hc, ha, hf, hi⟩ := hparts
  obtain ⟨t, hyields, hmatch⟩ := default_url_matches
  obtain ⟨controller, hused, hanswer⟩ := hmatch _ _ _ hurl hc ha hf hi
  obtain rfl := Option.some.inj (hcontroller.symm.trans hused)
  refine ⟨hurl, hc, ha, hf, hi, t, hyields, fun q hq => ?_⟩
  have hq' := hanswer q (hq.trans hpath.symm)
  rwa [haction, hformat, hid, Option.map_some, hencoded] at hq'

end Router

end HttpRouting
