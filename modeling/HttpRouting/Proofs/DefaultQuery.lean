import HttpRouting.Proofs.DefaultRoute
import HttpRouting.Proofs.PercentDecoding

/-!
# The query of a default URL

A URL in the form of the default route ends in a query of the parameters that have no place in its
path. A reader finds them behind the first question mark. The query itself has no other question
mark, and neither has an encoded identifier, but the controller, the action and the format stand in
the path as they are given. The query is found exactly if none of these has a question mark.

## Main definitions

* `queryText` — what stands behind the first question mark
* `HasQuery` — a reader finds parameters in the query of a URL

## Main results

* `hasQuery_appendTo_iff` — a query is found behind a path without a question mark
* `Table.hasQuery_generateDefault_iff` — when the query of a default URL is found
-/

namespace HttpRouting

/-- What stands behind the first question mark of a URL. -/
def queryText (url : String) : List Char := (url.toList.dropWhile (· ≠ '?')).drop 1

/-- A reader finds exactly some parameters in the query of a URL, in the order of their names. -/
structure HasQuery (url : String) (ps : Params) : Prop where
  /-- There is a question mark exactly if there is a parameter. -/
  question : '?' ∈ url.toList ↔ ∃ name, name ∈ ps
  /-- What stands behind the first question mark is read as the parameters. -/
  read : readQuery? (queryText url) = some ps.toList

variable {ps fallback : Params} {path url : String}

theorem queryText_of_split {before after : List Char} (hbefore : '?' ∉ before)
    (h : url.toList = before ++ '?' :: after) : queryText url = after := by
  have hall : ∀ c ∈ before, decide (c ≠ '?') = true := fun c hc =>
    decide_eq_true fun heq => hbefore (heq ▸ hc)
  rw [queryText, h, List.dropWhile_append_of_pos hall]
  rfl

theorem queryText_of_not_mem (h : '?' ∉ url.toList) : queryText url = [] := by
  have hall : ∀ c ∈ url.toList, decide (c ≠ '?') = true := fun c hc =>
    decide_eq_true fun heq => h (heq ▸ hc)
  rw [queryText, List.dropWhile_eq_nil_iff.mpr hall, List.drop_nil]

/-- A query is found behind a path exactly if the path has no question mark. -/
theorem hasQuery_appendTo_iff : HasQuery (ps.appendTo path) ps ↔ '?' ∉ path.toList := by
  rw [Params.appendTo]
  split
  · next hempty =>
    obtain rfl := Std.ExtTreeMap.isEmpty_iff.mp hempty
    have hnone : ¬∃ name, name ∈ (∅ : Params) :=
      not_exists.mpr fun _ => Std.ExtTreeMap.not_mem_empty
    constructor
    · intro h hmem
      exact hnone (h.question.mp hmem)
    · intro h
      exact ⟨iff_of_false h hnone, by rw [queryText_of_not_mem h]; rfl⟩
  · next hempty =>
    have hurl : (path ++ "?" ++ ps.query).toList = path.toList ++ '?' :: ps.query.toList := by simp
    constructor
    · intro h hmem
      -- With a question mark in the path, more is decoded than what the query holds.
      obtain ⟨before, after, hpath, hbefore⟩ := List.eq_append_cons_of_mem hmem
      rw [hpath, List.append_assoc, List.cons_append] at hurl
      have hread := h.read
      rw [queryText_of_split hbefore hurl] at hread
      have hbytes := (decodedBytes_of_readQuery? hread).trans
        (decodedBytes_of_readQuery? (readQuery?_query ps)).symm
      rw [decodedBytes_append_cons (by decide), decodedBytes_cons_of_ne (by decide)] at hbytes
      have hlength := congrArg List.length hbytes
      rw [List.length_append, List.length_append, String.length_utf8EncodeChar] at hlength
      have hpos := Char.utf8Size_pos '?'
      omega
    · intro h
      refine ⟨iff_of_true (by rw [hurl]; simp) ?_, ?_⟩
      · by_contra hnone
        rw [not_exists] at hnone
        exact hempty (Std.ExtTreeMap.isEmpty_iff.mpr
          (Std.ExtTreeMap.eq_empty_iff_forall_not_mem.mpr hnone))
      · rw [queryText_of_split h hurl]
        exact readQuery?_query ps

/-- Only what stands in a path as it is given can bring a question mark. -/
theorem question_mem_usedPath_iff (controller : String) :
    '?' ∈ usedPath controller ps fallback ↔
      '?' ∈ controller.toList ∨ (∃ v ∈ usedAction ps fallback, '?' ∈ v.toList) ∨
        ∃ v ∈ usedFormat ps fallback, '?' ∈ v.toList := by
  have hid : ∀ v, '?' ∉ (percentEncode reservedInSegment v).toList :=
    not_mem_percentEncode (by decide) (by decide)
  rw [usedPath, usedSteps]
  cases usedAction ps fallback <;> cases ps["id"]? <;> cases usedFormat ps fallback <;>
    simp [Stem.slashed, Stem.text, Shape.formatText, hid]

namespace Table

/-- The query of a URL in the form of the default route holds exactly the parameters other than the
controller, the action, the identifier and the format. A reader finds it exactly if there is no
question mark in the controller, the action and the format that are written. -/
theorem hasQuery_generateDefault_iff (h : generateDefault ps fallback = .ok url) :
    HasQuery url (ps.filter fun n _ => n ∉ defaultNames) ↔
      (∀ v ∈ usedController ps fallback, '?' ∉ v.toList) ∧
        (∀ v ∈ usedAction ps fallback, '?' ∉ v.toList) ∧
          ∀ v ∈ usedFormat ps fallback, '?' ∉ v.toList := by
  obtain ⟨controller, hcontroller, -, rfl⟩ := generateDefault_eq_ok h
  rw [hasQuery_appendTo_iff, String.toList_ofList, question_mem_usedPath_iff, hcontroller]
  simp

/-- The page of a post in its list is found in the query. -/
theorem hasQuery_generateDefault_page :
    generateDefault Router.pageParams Router.pageFallback =
        .ok "/posts/show/a%20b.json?page=2" ∧
      HasQuery "/posts/show/a%20b.json?page=2"
        (Router.pageParams.filter fun n _ => n ∉ defaultNames) := by
  have hurl : generateDefault Router.pageParams Router.pageFallback =
      .ok "/posts/show/a%20b.json?page=2" := by
    decide +kernel
  have hused : usedController Router.pageParams Router.pageFallback = some "posts" ∧
      usedAction Router.pageParams Router.pageFallback = some "show" ∧
      usedFormat Router.pageParams Router.pageFallback = some "json" := by
    decide +kernel
  obtain ⟨hcontroller, haction, hformat⟩ := hused
  refine ⟨hurl, (hasQuery_generateDefault_iff hurl).mpr ?_⟩
  rw [hcontroller, haction, hformat]
  decide

/-- A controller with a question mark, and nothing else. -/
def questionParams : Params := (∅ : Params).insert "controller" "a?b"

/-- The question mark of a controller starts a query, although there is no other parameter. -/
theorem not_hasQuery_generateDefault_question :
    generateDefault questionParams ∅ = .ok "/a?b" ∧
      ¬HasQuery "/a?b" (questionParams.filter fun n _ => n ∉ defaultNames) := by
  have hempty : (questionParams.filter fun n _ => n ∉ defaultNames).isEmpty = true := by
    decide +kernel
  refine ⟨by decide +kernel, fun h => ?_⟩
  obtain ⟨name, hname⟩ := h.question.mp (by decide)
  rw [Std.ExtTreeMap.isEmpty_iff.mp hempty] at hname
  exact Std.ExtTreeMap.not_mem_empty hname

end Table

end HttpRouting
