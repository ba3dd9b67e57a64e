import HttpRouting.Proofs.ParamGeneration
import HttpRouting.Proofs.PercentDecoding

/-!
# The URLs of a route

The URL of a route repeats the literal segments of its path and fills the placeholders with encoded
values, those of the parameters before those of the fallback. The parameters that fill no
placeholder make the query, each of them once, and the fallback has no part in it. Such a URL exists
unless a condition of the route is a pattern, the route has no path, or one of its segments cannot
be filled, and the first of these reasons is the error.

## Main definitions

* `Confines` — a text stands for a value inside a segment
* `Segment.Writes`, `Segment.Fails` — the text for a segment, or the error for it
* `Route.Generates` — the URL of a route, or the error for it

## Main results

* `confines_percentEncode` — an encoded value cannot leave its segment
* `Route.fill_eq_ok_iff` — a filled path is made of the texts for its segments
* `Route.generate_eq_iff` — generating gives the URL of a route, or the error for it
-/

namespace HttpRouting

/-- A text stands for a value inside a segment of a path. -/
structure Confines (text value : String) : Prop where
  /-- The value can be read from the text. -/
  decode : percentDecode? text.toList = some value
  /-- No character delimits parts of a URL or of a segment. -/
  delimiter : ∀ c ∈ ['/', '?', '#', ';', ',', ' '], c ∉ text.toList
  /-- No character is a control character. -/
  control : ∀ c ∈ text.toList, isControl c = false
  /-- Every character is an ASCII character. -/
  ascii : ∀ c ∈ text.toList, c.toNat < 128

/-- An encoded value cannot leave its segment. -/
theorem confines_percentEncode (value : String) :
    Confines (percentEncode reservedInSegment value) value where
  decode := percentDecode?_percentEncode (by decide) value
  delimiter c hc := by
    have hreserved : ∀ d ∈ ['/', '?', '#', ';', ',', ' '], reservedInSegment d = true :=
      List.all_iff_forall_prop.mp (by decide)
    have hescape : ∀ d ∈ ['/', '?', '#', ';', ',', ' '], d ∉ escapeChars :=
      List.all_iff_forall_prop.mp (by decide)
    exact not_mem_percentEncode (hreserved c hc) (hescape c hc) value
  control c hc := by
    have hescape : ∀ d ∈ escapeChars, isControl d = false := List.all_iff_forall_prop.mp (by decide)
    rcases mem_percentEncode hc with hc | ⟨-, hc⟩
    · exact hescape c hc
    · exact (Bool.or_eq_false_iff.mp hc).1
  ascii c hc := by
    have hescape : ∀ d ∈ escapeChars, d.toNat < 128 := List.all_iff_forall_prop.mp (by decide)
    rcases mem_percentEncode hc with hc | ⟨hc, -⟩
    · exact hescape c hc
    · exact hc

namespace Segment

/-- The value for a placeholder: that of the parameters, or else that of the fallback. -/
def valueIn? (ps fallback : Params) (name : String) : Option String :=
  ps[name]?.or fallback[name]?

/-- The text that is written for a segment. -/
inductive Writes (ps fallback : Params) : Segment → String → Prop
  /-- A literal segment is written as it is. -/
  | literal (text : String) : Writes ps fallback (.literal text) text
  /-- A placeholder is written as the encoding of its value. -/
  | placeholder {name value : String} (hvalue : valueIn? ps fallback name = some value)
      (hconfines : Confines (percentEncode reservedInSegment value) value) :
      Writes ps fallback (.placeholder name) (percentEncode reservedInSegment value)

/-- The error for a segment that cannot be filled. -/
inductive Fails (label : String) (ps fallback : Params) : Segment → GenerateError → Prop
  /-- A placeholder without a name is never filled. -/
  | anonymous : Fails label ps fallback .anonymous (.anonymousSegment label)
  /-- A placeholder needs a value in the parameters or in the fallback. -/
  | placeholder {name : String} (hps : name ∉ ps) (hfallback : name ∉ fallback) :
      Fails label ps fallback (.placeholder name) (.missingParam label name)

end Segment

/-- The URL of a route, or the error for it. -/
inductive Route.Generates (r : Route) (ps fallback : Params) : Except GenerateError String → Prop
  /-- A condition is a pattern. -/
  | patternRoute (hpattern : r.hasPattern = true) :
      r.Generates ps fallback (.error (.patternRoute r.label))
  /-- There is no path. -/
  | noPath (hpattern : r.hasPattern = false) (hpath : r.segments = none) :
      r.Generates ps fallback (.error (.noPath r.label))
  /-- A segment cannot be filled, and those in front of it can. -/
  | unfilled {front back : List Segment} {s : Segment} {e : GenerateError}
      (hpattern : r.hasPattern = false) (hpath : r.segments = some (front ++ s :: back))
      (hfront : ∀ s' ∈ front, ∃ text, s'.Writes ps fallback text)
      (hs : s.Fails r.label ps fallback e) : r.Generates ps fallback (.error e)
  /-- Every parameter fills a placeholder. -/
  | path {ss : List Segment} {texts : List String} (hpattern : r.hasPattern = false)
      (hpath : r.segments = some ss) (htexts : List.Forall₂ (Segment.Writes ps fallback) ss texts)
      (hused : ∀ name ∈ ps, .placeholder name ∈ ss) :
      r.Generates ps fallback (.ok (String.join texts))
  /-- The parameters that fill no placeholder are the query. -/
  | query {ss : List Segment} {texts : List String} {rest : Params}
      (hpattern : r.hasPattern = false) (hpath : r.segments = some ss)
      (htexts : List.Forall₂ (Segment.Writes ps fallback) ss texts)
      (hunused : ∃ name ∈ ps, .placeholder name ∉ ss)
      (hrest : ∀ name, rest[name]? = if .placeholder name ∈ ss then none else ps[name]?) :
      r.Generates ps fallback (.ok (String.join texts ++ "?" ++ rest.query))

variable {ps fallback : Params}

namespace Segment

theorem mem_names_iff {ss : List Segment} {name : String} :
    name ∈ names ss ↔ .placeholder name ∈ ss := by
  rw [names, List.mem_filterMap]
  constructor
  · rintro ⟨s, hs, hname⟩
    cases s with
    | placeholder n => rwa [← Option.some.inj hname]
    | _ => cases hname
  · intro h
    exact ⟨_, h, rfl⟩

theorem writes_literal_iff {t text : String} :
    (literal t).Writes ps fallback text ↔ text = t := by
  constructor
  · rintro ⟨⟩
    rfl
  · rintro rfl
    exact .literal text

theorem not_writes_anonymous {text : String} : ¬anonymous.Writes ps fallback text := nofun

theorem writes_placeholder_iff {name text : String} :
    (placeholder name).Writes ps fallback text ↔
      ∃ v, valueIn? ps fallback name = some v ∧ text = percentEncode reservedInSegment v := by
  constructor
  · intro h
    cases h with
    | placeholder hvalue _ => exact ⟨_, hvalue, rfl⟩
  · rintro ⟨v, hvalue, rfl⟩
    exact .placeholder hvalue (confines_percentEncode v)

theorem failure?_eq_none_iff {label : String} {s : Segment} :
    s.failure? label (valueIn? ps fallback) = none ↔ ∃ text, s.Writes ps fallback text := by
  cases s with
  | literal t => exact ⟨fun _ => ⟨t, .literal t⟩, fun _ => rfl⟩
  | anonymous =>
    exact iff_of_false (Option.some_ne_none _) (not_exists.mpr fun _ => not_writes_anonymous)
  | placeholder n =>
    simp only [writes_placeholder_iff, failure?]
    cases valueIn? ps fallback n with
    | some v => exact ⟨fun _ => ⟨_, v, rfl, rfl⟩, fun _ => rfl⟩
    | none =>
      refine iff_of_false (Option.some_ne_none _) ?_
      rintro ⟨_, v, hvalue, _⟩
      cases hvalue

theorem failure?_eq_some_iff {label : String} {s : Segment} {e : GenerateError} :
    s.failure? label (valueIn? ps fallback) = some e ↔ s.Fails label ps fallback e := by
  cases s with
  | literal t => exact ⟨nofun, nofun⟩
  | anonymous =>
    rw [failure?, Option.some.injEq]
    constructor
    · rintro rfl
      exact .anonymous
    · rintro ⟨⟩
      rfl
  | placeholder n =>
    have hmem : ∀ qs : Params, qs[n]? = none ↔ n ∉ qs := fun qs => by
      rw [Std.ExtTreeMap.mem_iff_isSome_getElem?, Bool.not_eq_true, Option.isSome_eq_false_iff,
        Option.isNone_iff_eq_none]
    have hvalue : (valueIn? ps fallback n).isSome = false ↔ n ∉ ps ∧ n ∉ fallback := by
      rw [valueIn?, Option.isSome_or, Bool.or_eq_false_iff, Option.isSome_eq_false_iff,
        Option.isSome_eq_false_iff, Option.isNone_iff_eq_none, Option.isNone_iff_eq_none, hmem,
        hmem]
    rw [failure?]
    constructor
    · intro h
      split at h
      · cases h
      · next hnone =>
        obtain ⟨hps, hfallback⟩ := hvalue.mp (Bool.eq_false_iff.mpr hnone)
        obtain rfl := Option.some.inj h
        exact .placeholder hps hfallback
    · rintro ⟨⟩
      next hps hfallback =>
        rw [hvalue.mpr ⟨hps, hfallback⟩]
        rfl

end Segment

namespace Route

open Segment

/-- A filled path is made of the texts for its segments. -/
theorem fill_eq_ok_iff {label : String} {ss : List Segment} {path : String} :
    fill label (valueIn? ps fallback) ss = .ok path ↔
      ∃ texts, List.Forall₂ (Writes ps fallback) ss texts ∧ path = String.join texts := by
  induction ss generalizing path with
  | nil =>
    constructor
    · intro h
      exact ⟨[], .nil, (Except.ok.inj h).symm⟩
    · rintro ⟨_, ⟨⟩, rfl⟩
      rfl
  | cons s ss ih =>
    -- A text in front of the rest of the path is the text for the first segment.
    have hfront : ∀ t : String, (do return t ++ (← fill label (valueIn? ps fallback) ss)) =
        .ok path ↔ ∃ texts, List.Forall₂ (Writes ps fallback) ss texts ∧
          path = String.join (t :: texts) := by
      intro t
      cases hrest : fill label (valueIn? ps fallback) ss with
      | error e =>
        refine ⟨nofun, fun ⟨texts, htexts, _⟩ => ?_⟩
        have hok := ih.mpr ⟨texts, htexts, rfl⟩
        rw [hrest] at hok
        cases hok
      | ok rest =>
        constructor
        · intro h
          obtain ⟨texts, htexts, rfl⟩ := ih.mp hrest
          exact ⟨texts, htexts, by rw [← Except.ok.inj h, String.join_cons]⟩
        · rintro ⟨texts, htexts, rfl⟩
          have hok := ih.mpr ⟨texts, htexts, rfl⟩
          rw [hrest] at hok
          rw [String.join_cons, Except.ok.inj hok]
          rfl
    simp only [List.forall₂_cons_left_iff]
    cases s with
    | literal t =>
      rw [fill, hfront]
      simp [writes_literal_iff]
    | anonymous => simp [fill, not_writes_anonymous]
    | placeholder n =>
      rw [fill]
      cases hvalue : valueIn? ps fallback n with
      | some v =>
        refine (hfront _).trans ?_
        simp [writes_placeholder_iff, hvalue]
      | none => simp [writes_placeholder_iff, hvalue]

/-- The parameters that fill no placeholder. -/
def unused (ss : List Segment) (ps : Params) : Params := ps.filter fun n _ => n ∉ names ss

theorem getElem?_unused {ss : List Segment} (name : String) :
    (unused ss ps)[name]? = if .placeholder name ∈ ss then none else ps[name]? := by
  rw [unused, Std.ExtTreeMap.getElem?_filter']
  cases ps[name]? <;> simp [Option.filter_some, mem_names_iff]

theorem isEmpty_unused_iff {ss : List Segment} :
    (unused ss ps).isEmpty = true ↔ ∀ name ∈ ps, .placeholder name ∈ ss := by
  rw [unused, Std.ExtTreeMap.isEmpty_iff, Std.ExtTreeMap.eq_empty_iff_forall_not_mem]
  refine forall_congr' fun name => ?_
  rw [Std.ExtTreeMap.mem_filter, ← mem_names_iff]
  simp

variable {r : Route} {x : Except GenerateError String}

/-- Without patterns, a URL is the filled path and the query of the unused parameters. -/
theorem generate_of_segments {ss : List Segment} (hpattern : r.hasPattern = false)
    (hpath : r.segments = some ss) : r.generate (.params ps) fallback =
      (fill r.label (valueIn? ps fallback) ss).map (Params.appendTo (unused ss ps)) := by
  have hvalue : (fun n => (Supply.params ps).value? n <|> fallback[n]?) = valueIn? ps fallback :=
    funext fun n => Option.orElse_eq_or
  rw [generate, hpattern, hpath, hvalue, if_neg Bool.false_ne_true]
  dsimp only
  cases fill r.label (valueIn? ps fallback) ss <;> rfl

theorem Generates.generate_eq (h : r.Generates ps fallback x) :
    r.generate (.params ps) fallback = x := by
  cases h with
  | patternRoute hpattern =>
    rw [generate, hpattern]
    rfl
  | noPath hpattern hpath =>
    rw [generate, hpattern, hpath]
    rfl
  | @unfilled front back s e hpattern hpath hfront hs =>
    have hfill : fill r.label (valueIn? ps fallback) (front ++ s :: back) = .error e :=
      fill_eq_error_iff.mpr (List.findSome?_eq_some_iff.mpr ⟨front, s, back, rfl,
        failure?_eq_some_iff.mpr hs, fun s' hs' => failure?_eq_none_iff.mpr (hfront s' hs')⟩)
    rw [generate_of_segments hpattern hpath, hfill]
    rfl
  | path hpattern hpath htexts hused =>
    rw [generate_of_segments hpattern hpath, fill_eq_ok_iff.mpr ⟨_, htexts, rfl⟩, Except.map,
      Params.appendTo, if_pos (isEmpty_unused_iff.mpr hused)]
  | @query ss texts rest hpattern hpath htexts hunused hrest =>
    obtain ⟨name, hname, hnot⟩ := hunused
    obtain rfl : rest = unused ss ps :=
      Std.ExtTreeMap.ext_getElem? fun n => (hrest n).trans (getElem?_unused n).symm
    rw [generate_of_segments hpattern hpath, fill_eq_ok_iff.mpr ⟨_, htexts, rfl⟩, Except.map,
      Params.appendTo, if_neg fun hempty => hnot (isEmpty_unused_iff.mp hempty name hname)]

theorem generates_generate : r.Generates ps fallback (r.generate (.params ps) fallback) := by
  cases hpattern : r.hasPattern with
  | true =>
    rw [generate, hpattern]
    exact .patternRoute hpattern
  | false =>
    cases hpath : r.segments with
    | none =>
      rw [generate, hpattern, hpath]
      exact .noPath hpattern hpath
    | some ss =>
      rw [generate_of_segments hpattern hpath]
      cases hfill : fill r.label (valueIn? ps fallback) ss with
      | error e =>
        obtain ⟨front, s, back, rfl, hs, hfront⟩ :=
          List.findSome?_eq_some_iff.mp (fill_eq_error_iff.mp hfill)
        exact .unfilled hpattern hpath (fun s hs => failure?_eq_none_iff.mp (hfront s hs))
          (failure?_eq_some_iff.mp hs)
      | ok path =>
        obtain ⟨texts, htexts, rfl⟩ := fill_eq_ok_iff.mp hfill
        rw [Except.map, Params.appendTo]
        split
        · next hempty => exact .path hpattern hpath htexts (isEmpty_unused_iff.mp hempty)
        · next hempty =>
          have hunused := mt isEmpty_unused_iff.mpr hempty
          simp only [not_forall, exists_prop] at hunused
          exact .query hpattern hpath htexts hunused getElem?_unused

/-- Generating gives the URL of a route, or the error for it. -/
theorem generate_eq_iff :
    r.generate (.params ps) fallback = x ↔ r.Generates ps fallback x := by
  constructor
  · rintro rfl
    exact generates_generate
  · exact Generates.generate_eq

end Route

end HttpRouting
