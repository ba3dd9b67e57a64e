import HttpRouting.Proofs.Shape
import Mathlib.Data.String.Basic

/-!
# Scanning in parts

A text is scanned part by part: where the opening of a group has settled, the scan goes on as it
does in plain text, and what has been shown so far does not change any more. Offsets only move the
groups along, and a group that is shown later was opened later.

## Main definitions

* `Placeholder.Mode.pending` — how far back a parenthesis is whose meaning is still open

## Main results

* `Placeholder.captureOffsetsFrom_append` — the groups of a text in two parts
* `Placeholder.length_captureOffsetsFrom_eq` — their number does not depend on where the text stands
* `Placeholder.capturesBefore_append` — the groups before a place are those of the text up to there
-/

namespace HttpRouting.Placeholder

open Shape

namespace Mode

variable {m : Mode} {c : Char}

/-- How many bytes ago the parenthesis stood that may turn out to open a capturing group. -/
def pending : Mode → Nat
  | paren => 1
  | question => 2
  | questionName | angle => 3
  | _ => 0

theorem after_cons (m : Mode) (c : Char) (cs : List Char) :
    m.after (c :: cs) = (m.next c).after cs := rfl

/-- A character that is read as plain text shows the same as the end of the text does. -/
theorem opened_of_settles (h : m.settles c = true) : m.opened (some c) = m.opened none := by
  cases m <;> simp_all [settles, opened]

/-- Where an opening has settled, the scan goes on as in plain text. -/
theorem after_of_settles {cs : List Char} (hne : cs ≠ [])
    (h : ∀ c ∈ cs.head?, m.settles c = true) : m.after cs = Mode.plain.after cs := by
  cases cs with
  | nil => exact absurd rfl hne
  | cons c cs => rw [after_cons, after_cons, next_of_settles (h c rfl), next_of_settles rfl]

/-- Where a colon is plain text, a parenthesis is. -/
theorem settles_paren (h : m.settles ':' = true) : m.settles '(' = true := by
  cases m <;> first | exact h | exact absurd h (by decide)

/-- The mode does not look back further than it has come. -/
theorem pending_next_le (m : Mode) (c : Char) : (m.next c).pending ≤ m.pending + c.utf8Size := by
  have hsize : 1 ≤ c.utf8Size := Char.utf8Size_pos c
  have hplain : (afterPlain c).pending ≤ 1 := by
    unfold afterPlain
    split_ifs <;> decide
  have hmember : ∀ n, (afterMember c).pending ≤ n := by
    intro n
    unfold afterMember
    split_ifs <;> exact Nat.zero_le n
  have hflag : ∀ n, (afterFlag c).pending ≤ n := by
    intro n
    unfold afterFlag
    split_ifs <;> exact Nat.zero_le n
  unfold next
  split
  · omega
  · cases m with
    | plain | escape | classEscape | angle => exact Nat.zero_le _
    | classStart | classNegated =>
      dsimp only
      split_ifs
      all_goals first | exact hmember _ | exact Nat.zero_le _
    | inClass => exact hmember _
    | paren => exact Nat.add_le_add_left hsize 1
    | question =>
      dsimp only
      split_ifs
      · exact Nat.add_le_add_left hsize 2
      · exact Nat.add_le_add_left hsize 2
      · exact hflag _
    | questionName =>
      dsimp only
      split_ifs
      · exact Nat.zero_le _
      · exact hflag _
    | flags => exact hflag _

theorem le_pending_of_opened {c : Option Char} {n : Nat} (h : m.opened c = some n) :
    0 < n ∧ n ≤ m.pending := by
  cases m <;> simp [opened, pending] at h ⊢ <;> omega

end Mode

variable {m : Mode} {offset : Nat} {cs ds : List Char}

/-- Where an opening has settled, it has shown what it can show, and plain text follows. -/
theorem captureOffsetsFrom_of_settles (h : ∀ c ∈ ds.head?, m.settles c = true) (offset : Nat) :
    captureOffsetsFrom m offset ds =
      captureOffsetsFrom m offset [] ++ captureOffsetsFrom .plain offset ds := by
  cases ds with
  | nil => exact (List.append_nil _).symm
  | cons c ds =>
    have hc := h c rfl
    rw [captureOffsetsFrom_plain, captureOffsetsFrom, captureOffsetsFrom, Mode.opened_of_settles hc,
      next_of_settles hc, next_of_settles rfl]

theorem captureOffsetsFrom_append (h : ∀ c ∈ ds.head?, (m.after cs).settles c = true)
    (offset : Nat) :
    captureOffsetsFrom m offset (cs ++ ds) = captureOffsetsFrom m offset cs ++
      captureOffsetsFrom .plain (offset + String.utf8Len cs) ds := by
  induction cs generalizing m offset with
  | nil => exact captureOffsetsFrom_of_settles h offset
  | cons c cs ih =>
    have hsize : offset + c.utf8Size + String.utf8Len cs = offset + String.utf8Len (c :: cs) := by
      rw [String.utf8Len_cons]
      omega
    rw [List.cons_append, captureOffsetsFrom, captureOffsetsFrom, ih h, hsize, List.append_assoc]

theorem length_captureOffsetsFrom_nil (m : Mode) (offset : Nat) :
    (captureOffsetsFrom m offset []).length = (m.opened none).toList.length := by
  rw [captureOffsetsFrom]
  cases m.opened none <;> rfl

theorem length_captureOffsetsFrom_cons (m : Mode) (offset : Nat) (c : Char) (cs : List Char) :
    (captureOffsetsFrom m offset (c :: cs)).length = (m.opened (some c)).toList.length +
      (captureOffsetsFrom (m.next c) (offset + c.utf8Size) cs).length := by
  rw [captureOffsetsFrom, List.length_append]
  cases m.opened (some c) <;> rfl

theorem length_captureOffsetsFrom_eq (m : Mode) (o o' : Nat) (cs : List Char) :
    (captureOffsetsFrom m o cs).length = (captureOffsetsFrom m o' cs).length := by
  induction cs generalizing m o o' with
  | nil => rw [length_captureOffsetsFrom_nil, length_captureOffsetsFrom_nil]
  | cons c cs ih =>
    rw [length_captureOffsetsFrom_cons, length_captureOffsetsFrom_cons, ih]

/-- A text that stands further on shows the same groups further on. -/
theorem captureOffsetsFrom_add (h : m.pending ≤ offset) (k : Nat) :
    captureOffsetsFrom m (offset + k) cs = (captureOffsetsFrom m offset cs).map (· + k) := by
  have hshown : ∀ {m : Mode} {offset : Nat} (c : Option Char), m.pending ≤ offset →
      ((m.opened c).map (offset + k - ·)).toList =
        ((m.opened c).map (offset - ·)).toList.map (· + k) := by
    intro m offset c h
    cases hn : m.opened c with
    | none => rfl
    | some n =>
      have hback := Mode.le_pending_of_opened hn
      have hsub : offset + k - n = offset - n + k := by omega
      simp [hsub]
  induction cs generalizing m offset with
  | nil => exact hshown none h
  | cons c cs ih =>
    have hpending := Mode.pending_next_le m c
    have hrest : (m.next c).pending ≤ offset + c.utf8Size := by omega
    rw [captureOffsetsFrom, captureOffsetsFrom, hshown _ h, Nat.add_right_comm, ih hrest,
      List.map_append]

/-- What is shown in a text stands in it, or as far back before it as the mode looks. -/
theorem mem_captureOffsetsFrom (hoffset : m.pending ≤ offset) {i : Nat}
    (h : i ∈ captureOffsetsFrom m offset cs) :
    offset - m.pending ≤ i ∧ i < offset + String.utf8Len cs := by
  induction cs generalizing m offset with
  | nil =>
    simp only [captureOffsetsFrom, Option.mem_toList, Option.map_eq_some_iff] at h
    obtain ⟨n, hn, rfl⟩ := h
    have hback := Mode.le_pending_of_opened hn
    rw [String.utf8Len_nil]
    omega
  | cons c cs ih =>
    have hpending := Mode.pending_next_le m c
    rw [String.utf8Len_cons]
    rw [captureOffsetsFrom, List.mem_append] at h
    rcases h with h | h
    · simp only [Option.mem_toList, Option.map_eq_some_iff] at h
      obtain ⟨n, hn, rfl⟩ := h
      have hback := Mode.le_pending_of_opened hn
      omega
    · have hrest := ih (by omega) h
      omega

/-- The groups that open before a place in a text are there whatever the text goes on with. -/
theorem capturesBefore_append_of_le (h : ∀ c ∈ ds.head?, (Mode.plain.after cs).settles c = true)
    {o : Nat} (ho : o ≤ String.utf8Len cs) :
    capturesBefore (String.ofList (cs ++ ds)) o = capturesBefore (String.ofList cs) o := by
  have hbehind : (captureOffsetsFrom .plain (String.utf8Len cs) ds).countP (· < o) = 0 := by
    refine List.countP_eq_zero.mpr fun i hi hlt => ?_
    have hle : String.utf8Len cs - 0 ≤ i := (mem_captureOffsetsFrom (Nat.zero_le _) hi).1
    have hlt := of_decide_eq_true hlt
    omega
  rw [capturesBefore, capturesBefore, captureOffsets, captureOffsets, String.toList_ofList,
    String.toList_ofList, captureOffsetsFrom_append h, List.countP_append, Nat.zero_add, hbehind,
    Nat.add_zero]

/-- All groups of a text open before its end. -/
theorem capturesBefore_utf8Len (cs : List Char) :
    capturesBefore (String.ofList cs) (String.utf8Len cs) = countCaptures (String.ofList cs) := by
  rw [capturesBefore, countCaptures, captureOffsets, String.toList_ofList]
  refine List.countP_eq_length.mpr fun i hi => decide_eq_true ?_
  have hlt := (mem_captureOffsetsFrom (Nat.zero_le _) hi).2
  omega

/-- The groups that open before a place are those of the text before it. -/
theorem capturesBefore_append (h : ∀ c ∈ ds.head?, (Mode.plain.after cs).settles c = true) :
    capturesBefore (String.ofList (cs ++ ds)) (String.ofList cs).utf8ByteSize =
      countCaptures (String.ofList cs) := by
  rw [String.utf8ByteSize_ofList, capturesBefore_append_of_le h (Nat.le_refl _),
    capturesBefore_utf8Len]

end HttpRouting.Placeholder
