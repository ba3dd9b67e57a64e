import HttpRouting.Proofs.LexemeScan
import HttpRouting.Proofs.ScanSteps

/-!
# Counting groups without a parser

The groups of a pattern are counted by the scan, while the expression has those that the parser
opens. The two numbers are the same if the scan is not led astray and if the expression keeps what
has been opened: a repetition of no rounds drops the groups in it, and the scan has seen them. The
scan is led astray by a class in a class, which it ends too early.

## Main definitions

* `Regex.openerOffsets` — where the tokens of a pattern open groups

## Main results

* `Placeholder.Mode.Follows.captureOffsetsFrom_eq` — the groups that are shown in a text
* `Compiles.captureOffsets_agree` — the groups of a pattern that is well formed
-/

namespace HttpRouting

open Placeholder Regex

/-- The byte offsets at which tokens open capturing groups. -/
def Regex.openerOffsets (offset : Nat) : List Lexeme → List Nat
  | [] => []
  | l :: ls => (if l.token.opensGroup then [offset] else []) ++
      openerOffsets (offset + String.utf8Len l.text) ls

theorem Regex.length_openerOffsets (offset : Nat) (ls : List Lexeme) :
    (openerOffsets offset ls).length = ls.countP (·.token.opensGroup) := by
  induction ls generalizing offset with
  | nil => rfl
  | cons l ls ih =>
    rw [openerOffsets, List.length_append, ih, List.countP_cons, Nat.add_comm]
    cases l.token.opensGroup <;> rfl

/-- The scan shows the groups that are opened by the tokens that it goes over. -/
theorem Placeholder.Mode.Follows.captureOffsetsFrom_eq {m : Mode} {ls : List Lexeme}
    (h : m.Follows ls) (offset : Nat) :
    captureOffsetsFrom .plain offset (ls.flatMap (·.text)) = openerOffsets offset ls := by
  induction h generalizing offset with
  | nil => rfl
  | @cons m l ls hne hm hl hls ih =>
    have hshown : captureOffsetsFrom .plain offset l.text =
        if l.token.opensGroup then [offset] else [] := by
      have hmoved : captureOffsetsFrom .plain (0 + offset) l.text =
          (captureOffsetsFrom .plain 0 l.text).map (· + offset) :=
        captureOffsetsFrom_add (Nat.le_refl 0) offset
      rw [← Nat.zero_add offset, hmoved, hl.offsets_eq]
      split <;> rfl
    rw [List.flatMap_cons, captureOffsetsFrom_append hls.settles, hshown, ih, openerOffsets]

namespace Compiles

variable {source : String} {ls : List Lexeme} {r : Regex}

/-- If the scan agrees about the tokens by which it may be led astray, it shows exactly the groups
that the tokens open, each where it is opened. These are all groups of the expression, and no
others as long as nothing is repeated zero times. -/
theorem captureOffsets_agree (h : Compiles source ls r)
    (hls : ∀ p ∈ readings false [] ls, p.2.suspect p.1 = true → p.2.Agrees) :
    captureOffsets source = openerOffsets 0 ls ∧ r.groupCount ≤ countCaptures source ∧
      ((∀ l ∈ ls, l.token.erases = false) → countCaptures source = r.groupCount) := by
  have hfollows : Mode.plain.Follows ls := follows_of_lexemesFrom? h.lexes hls fun _ _ => rfl
  have hoffsets : captureOffsets source = openerOffsets 0 ls := by
    rw [captureOffsets, ← flatMap_text_of_lexemesFrom? h.lexes]
    exact hfollows.captureOffsetsFrom_eq 0
  have hcount : countCaptures source = ls.countP (·.token.opensGroup) := by
    rw [countCaptures, hoffsets, length_openerOffsets]
  refine ⟨hoffsets, ?_, fun hkeeps => ?_⟩
  · rw [hcount]
    exact h.groupCount_le
  · rw [hcount, h.groupCount_eq hkeeps]

/-- The scan is right about a named class and about the name of a group. -/
theorem captureOffsets_agree_namedClass :
    ∃ ls r, Compiles "([[:alpha:]]+)(?<n>b)" ls r ∧
      (∃ p ∈ readings false [] ls, p.2.suspect p.1 = true) ∧
      captureOffsets "([[:alpha:]]+)(?<n>b)" = openerOffsets 0 ls ∧
      countCaptures "([[:alpha:]]+)(?<n>b)" = r.groupCount := by
  have hsome : (parse? "([[:alpha:]]+)(?<n>b)").isSome = true := by decide +kernel
  obtain ⟨r, hr⟩ := Option.isSome_iff_exists.mp hsome
  obtain ⟨ls, h⟩ := exists_compiles hr
  have hchecks : ((lexemes? "([[:alpha:]]+)(?<n>b)".toList).all fun ls =>
      decide ((∃ p ∈ readings false [] ls, p.2.suspect p.1 = true) ∧
        (∀ p ∈ readings false [] ls, p.2.suspect p.1 = true → p.2.Agrees) ∧
        ∀ l ∈ ls, l.token.erases = false)) = true := by decide +kernel
  rw [h.lexes, Option.all_some, decide_eq_true_eq] at hchecks
  obtain ⟨hsuspect, hagrees, hkeeps⟩ := hchecks
  obtain ⟨hoffsets, -, hcount⟩ := h.captureOffsets_agree hagrees
  exact ⟨ls, r, h, hsuspect, hoffsets, hcount hkeeps⟩

/-- A parenthesis in a class is counted if a named class has ended in front of it. -/
theorem countCaptures_ne_nestedClass :
    ∃ r, parse? "[[:alpha:](]" = some r ∧ r.groupCount = 0 ∧ countCaptures "[[:alpha:](]" = 1 := by
  have hgroups : (parse? "[[:alpha:](]").map groupCount = some 0 := by decide +kernel
  obtain ⟨r, hr, hcount⟩ := Option.map_eq_some_iff.mp hgroups
  exact ⟨r, hr, hcount, by decide +kernel⟩

end Compiles

end HttpRouting
