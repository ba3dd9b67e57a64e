import HttpRouting.Proofs.RoundTrip
import Mathlib.Data.List.Basic

/-!
# Segments of a path

A route is matched by what the conditions on its path have been expanded into, one by one, and
generated from the segments of the whole path. Where the conditions meet, a placeholder that only
the whole path has may have come about. The segments have the placeholders of the conditions if no
condition goes on with the last token in front of it, and only then are they made of the same
tokens.

## Main definitions

* `Segment.placeholders` — the placeholders among some segments
* `Frame.found` — the placeholders that the path condition of a step is expanded with

## Main results

* `Route.segments_of_build` — the segments of a literal chain
* `Route.segments_eq_iff_unbroken` — when they are made of the tokens of its conditions
-/

namespace HttpRouting

open Placeholder Shape

namespace Segment

/-- The name of a placeholder, if the segment is one. -/
def placeholder? : Segment → Option (Option String)
  | literal _ => none
  | placeholder name => some (some name)
  | anonymous => some none

/-- The names of the placeholders among some segments, in order. -/
def placeholders (segments : List Segment) : List (Option String) :=
  segments.filterMap placeholder?

/-- The names of the placeholders among some characters and placeholders, in order. -/
def tokenNames (xs : Tokens) : List (Option String) :=
  xs.filterMap fun x => x.getRight?.map (·.map String.ofList)

theorem placeholders_pushChar (c : Char) (rs : List (List Char ⊕ Option (List Char))) :
    placeholders ((pushChar c rs).map ofRun) = placeholders (rs.map ofRun) := by
  unfold pushChar
  split <;> rfl

/-- Segments have the placeholders of the characters and placeholders that they are made of. -/
theorem placeholders_runs (xs : Tokens) : placeholders ((runs xs).map ofRun) = tokenNames xs := by
  induction xs with
  | nil => rfl
  | cons x xs ih =>
    rcases x with c | name | name
    · rw [runs, placeholders_pushChar, ih]
      rfl
    · exact congrArg (none :: ·) ih
    · exact congrArg (some (String.ofList name) :: ·) ih

theorem tokenNames_flatMap {α : Type} (f : α → Tokens) (as : List α) :
    tokenNames (as.flatMap f) = as.flatMap fun a => tokenNames (f a) :=
  List.filterMap_flatMap

theorem ofRun_injective : Function.Injective ofRun := by
  rintro (cs | _ | name) (ds | _ | name') h <;> simp_all [ofRun, String.ofList_inj]

end Segment

namespace Frame

/-- The names of the placeholders that the condition on the path is expanded with, in order. -/
def found (f : Frame) : List (Option String) :=
  match f.path? with
  | some c => (expand c.source defaultPlaceholder).placeholders.map (·.1)
  | none => []

theorem captures_ofTokens (xs : Tokens) (n : Nat) :
    (captures n (ofTokens true xs).pieces).map (·.1) = Segment.tokenNames xs := by
  induction xs generalizing n with
  | nil => rfl
  | cons x xs ih =>
    cases x with
    | inl c =>
      rw [ofTokens]
      split <;> exact ih n
    | inr name => exact congrArg (name.map String.ofList :: ·) (ih (n + 1))

/-- The condition on the path of a literal step has the placeholders of its text. -/
theorem IsLiteral.found_eq {f : Frame} (hf : f.IsLiteral) :
    f.found = Segment.tokenNames (Segment.tokens f.text) := by
  unfold found
  rcases hf.path?_cases with ⟨hpath, htext⟩ | ⟨t, hpath, htext, -⟩
  · rw [hpath, htext, Segment.tokens_eq_nil.mpr rfl]
    rfl
  · rw [hpath, htext]
    simp only [(describes_literal t).expand_eq]
    exact captures_ofTokens _ 0

end Frame

namespace Route

variable {fs : List Frame} {decision : Option Decision} {isDefault : Bool} {r : Route}

/-- Matching and generation see the same placeholders where no condition goes on with what is in
front of it. The segments of a route below literal conditions are those of the whole text. They are
made of the tokens of the conditions exactly if no condition goes on with the last token of the
text in front of it, and then the placeholders among them are those that the conditions are expanded
with. -/
theorem segments_eq_iff_unbroken (hfs : ∀ f ∈ fs, f.IsLiteral)
    (hr : build (Chain.ofFrames fs) decision isDefault = .ok r) :
    r.segments.getD [] = Segment.split (Chain.pathText fs) ∧
    (r.segments.getD [] =
        (runs (fs.reverse.flatMap fun f => Segment.tokens f.text)).map Segment.ofRun ↔
      Segment.Unbroken (fs.reverse.map Frame.text)) ∧
    (Segment.Unbroken (fs.reverse.map Frame.text) →
      Segment.placeholders (r.segments.getD []) = fs.reverse.flatMap Frame.found) := by
  have hsegments : r.segments.getD [] = Segment.split (Chain.pathText fs) := by
    rw [segments_of_build hfs hr]
    split
    · next hnil =>
      rw [hnil, Segment.split, Segment.tokens_eq_nil.mpr rfl]
      rfl
    · rfl
  have hunbroken := @Segment.tokens_flatten_iff (fs.reverse.map Frame.text)
  rw [List.flatMap_map, ← List.flatMap_def, ← Chain.pathText_eq_flatMap] at hunbroken
  refine ⟨hsegments, ?_, fun h => ?_⟩
  · rw [← hunbroken, hsegments, Segment.split]
    refine ⟨fun heq => ?_, fun heq => by rw [heq]⟩
    have hruns := List.map_injective_iff.mpr Segment.ofRun_injective heq
    rw [← unrun_runs (Segment.tokens (Chain.pathText fs)), hruns, unrun_runs]
  · rw [hsegments, Segment.split, Segment.placeholders_runs, hunbroken.mpr h,
      Segment.tokenNames_flatMap]
    refine List.flatMap_congr fun f hf => ?_
    exact (hfs f (List.mem_reverse.mp hf)).found_eq.symm

/-- Three conditions that do not go on with each other. -/
def closedSeams : List Frame :=
  Chain.literalFrames ["/a/:x", "/::", "b:"] ∅ ++ [Chain.rootFrame]

/-- The segments have the named placeholder of the first condition and the one without a name of the
second. -/
theorem segments_eq_iff_unbroken_closedSeams : (∀ f ∈ closedSeams, f.IsLiteral) ∧
    ∃ r, build (Chain.ofFrames closedSeams) none false = .ok r ∧
      Segment.placeholders (r.segments.getD []) = [some "x", none] := by
  have hbuilt : (build (Chain.ofFrames closedSeams) none false).toOption.isSome = true := by
    decide +kernel
  have hunbroken : Segment.Unbroken (closedSeams.reverse.map Frame.text) := by decide +kernel
  have hfound : closedSeams.reverse.flatMap Frame.found = [some "x", none] := by decide +kernel
  obtain ⟨r, hr⟩ := Option.isSome_iff_exists.mp hbuilt
  rw [toOption_eq_some_iff] at hr
  have hfs : ∀ f ∈ closedSeams, f.IsLiteral := Chain.isLiteral_literalFrames
  refine ⟨hfs, r, hr, ?_⟩
  rw [(segments_eq_iff_unbroken hfs hr).2.2 hunbroken, hfound]

/-- A colon at the end of a condition, and a name in the next one. -/
def openSeam : List Frame := Chain.literalFrames ["/a:", "b"] ∅ ++ [Chain.rootFrame]

/-- Neither condition has a placeholder, but the route can be generated only with a value for
one. -/
theorem segments_have_placeholder_openSeam : (∀ f ∈ openSeam, f.IsLiteral) ∧
    openSeam.reverse.flatMap Frame.found = [] ∧
    ∃ r, build (Chain.ofFrames openSeam) none false = .ok r ∧
      Segment.placeholders (r.segments.getD []) = [some "b"] := by
  have hsegments : (build (Chain.ofFrames openSeam) none false).toOption.map
      (fun r => Segment.placeholders (r.segments.getD [])) = some [some "b"] := by
    decide +kernel
  obtain ⟨r, hr, hplaceholders⟩ := Option.map_eq_some_iff.mp hsegments
  rw [toOption_eq_some_iff] at hr
  exact ⟨Chain.isLiteral_literalFrames, by decide +kernel, r, hr, hplaceholders⟩

end Route

end HttpRouting
