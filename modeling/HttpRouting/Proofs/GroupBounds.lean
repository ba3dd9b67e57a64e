import HttpRouting.Proofs.Pattern

/-!
# The groups of an expression

Groups are numbered where they are opened, and the number of a group is found again in the
expression that is built. Nothing but the opening of a group brings in a number, and only a
repetition of no rounds at all drops one. So the groups of an expression are those that its tokens
open, as long as nothing is dropped.

## Main definitions

* `Regex.Token.erases` — a repetition that drops its part
* `Regex.Builder.AtMost` — what has been read has no group beyond a number

## Main results

* `Regex.groupCount_repeated` — a repetition keeps the groups of its part
* `Regex.Builder.AtMost.step`, `Regex.Builder.AtMost.of_step` — what a token adds
* `Regex.Builder.AtMost.foldlM`, `Regex.Builder.AtMost.of_foldlM` — what tokens add
-/

namespace HttpRouting.Regex

variable {r : Regex} {rs : List Regex} {greedy : Bool} {n : Nat}

/-! ### Expressions -/

theorem groupCount_concat_le_iff : (concat rs).groupCount ≤ n ↔ ∀ r ∈ rs, r.groupCount ≤ n := by
  induction rs with
  | nil => exact ⟨fun _ => nofun, fun _ => Nat.zero_le n⟩
  | cons r rs ih =>
    rw [List.forall_mem_cons, ← ih, ← Nat.max_le, ← Shape.groupCount_append]
    rfl

theorem groupCount_choice_le_iff : (choice rs).groupCount ≤ n ↔ ∀ r ∈ rs, r.groupCount ≤ n := by
  induction rs with
  | nil => exact ⟨fun _ => nofun, fun _ => Nat.zero_le n⟩
  | cons r rs ih =>
    cases rs with
    | nil => simp [choice]
    | cons s rs =>
      rw [List.forall_mem_cons, ← ih, ← Nat.max_le]
      rfl

theorem groupCount_optional (r : Regex) : (optional greedy r).groupCount = r.groupCount := by
  cases greedy
  · exact Nat.zero_max _
  · exact Nat.max_zero _

theorem Atom.groupCount_toRegex? {f : Flags} {a : Atom} (h : a.toRegex? f = some r) :
    r.groupCount = 0 := by
  have hchar : ∀ c, (charRegex f c).groupCount = 0 := by
    intro c
    unfold charRegex
    split <;> rfl
  cases a with
  | char c => exact Option.some.inj h ▸ hchar c
  | byte c =>
    simp only [toRegex?] at h
    split at h
    · exact Option.some.inj h ▸ hchar c
    · cases h
  | dot =>
    simp only [toRegex?, dotRegex?] at h
    repeat' split at h
    all_goals cases h
    all_goals rfl
  | anchor a => exact Option.some.inj h ▸ rfl
  | shorthand s n =>
    obtain ⟨set, -, rfl⟩ := Option.map_eq_some_iff.mp h
    rfl
  | property p n =>
    obtain ⟨set, -, rfl⟩ := Option.map_eq_some_iff.mp h
    rfl

theorem groupCount_times_succ (r : Regex) (n : Nat) :
    (times r (n + 1)).groupCount = r.groupCount := by
  induction n with
  | zero => exact (Shape.groupCount_append r empty).trans (Nat.max_zero _)
  | succ n ih => rw [times, Shape.groupCount_append, ih, Nat.max_self]

theorem groupCount_upTo_succ (r : Regex) (n : Nat) :
    (upTo greedy r (n + 1)).groupCount = r.groupCount := by
  induction n with
  | zero =>
    rw [upTo, groupCount_optional, Shape.groupCount_append]
    exact Nat.max_zero _
  | succ n ih => rw [upTo, groupCount_optional, Shape.groupCount_append, ih, Nat.max_self]

/-- A repetition has the groups of its part, unless there is no round at all. -/
theorem groupCount_repeated {max : Option Nat} (hmax : max ≠ some 0) (min : Nat) (r : Regex) :
    (repeated greedy min max r).groupCount = r.groupCount := by
  have hstar : (append r (.star greedy r)).groupCount = r.groupCount := by
    rw [Shape.groupCount_append, groupCount, Nat.max_self]
  have hatLeast : ∀ n, (atLeast greedy r n).groupCount = r.groupCount := by
    intro n
    cases n with
    | zero =>
      rw [atLeast, anyNumber]
      split
      · rw [groupCount_optional, hstar]
      · rfl
    | succ n =>
      rw [atLeast, Shape.groupCount_append, hstar]
      cases n with
      | zero => exact Nat.zero_max _
      | succ n => rw [groupCount_times_succ, Nat.max_self]
  unfold repeated
  rw [if_neg hmax]
  split
  · split
    · exact groupCount_optional r
    · rfl
  · cases max with
    | none => exact hatLeast min
    | some m =>
      dsimp only
      rw [Shape.groupCount_append]
      cases min with
      | zero =>
        cases m with
        | zero => exact absurd rfl hmax
        | succ m => rw [Nat.sub_zero, groupCount_upTo_succ]; exact Nat.zero_max _
      | succ min =>
        rw [groupCount_times_succ]
        cases m - (min + 1) with
        | zero => exact Nat.max_zero _
        | succ k => rw [groupCount_upTo_succ, Nat.max_self]

theorem groupCount_repeated_le (min : Nat) (max : Option Nat) (r : Regex) :
    (repeated greedy min max r).groupCount ≤ r.groupCount := by
  by_cases hmax : max = some 0
  · subst hmax
    unfold repeated
    split
    · exact Nat.zero_le _
    · rw [Shape.groupCount_append, Nat.zero_sub]
      cases min with
      | zero => exact Nat.zero_le _
      | succ min => exact Nat.max_le.mpr ⟨Nat.le_of_eq (groupCount_times_succ r min), Nat.zero_le _⟩
  · exact Nat.le_of_eq (groupCount_repeated hmax min r)

/-! ### Builders -/

/-- A repetition of no rounds at all, which drops its part and the groups in it. -/
def Token.erases : Token → Bool
  | .times _ (some 0) _ => true
  | _ => false

namespace Builder

variable {b b' : Builder} {t : Token} {ts : List Token}

/-- What has been read has no group beyond the first `n`. -/
structure AtMost (b : Builder) (n : Nat) : Prop where
  /-- The finished alternatives. -/
  branches : ∀ r ∈ b.branches, r.groupCount ≤ n
  /-- The current alternative. -/
  parts : ∀ r, some r ∈ b.parts → r.groupCount ≤ n
  /-- The groups around. -/
  outer : ∀ g ∈ b.outer, (∀ i ∈ g.capture, i ≤ n) ∧ (∀ r ∈ g.branches, r.groupCount ≤ n) ∧
    ∀ r, some r ∈ g.parts → r.groupCount ≤ n

theorem groupCount_sequence_le_iff :
    b.sequence.groupCount ≤ n ↔ ∀ r, some r ∈ b.parts → r.groupCount ≤ n := by
  rw [sequence, groupCount_concat_le_iff]
  simp

theorem groupCount_alternatives_le_iff : b.alternatives.groupCount ≤ n ↔
    (∀ r ∈ b.branches, r.groupCount ≤ n) ∧ ∀ r, some r ∈ b.parts → r.groupCount ≤ n := by
  rw [alternatives, groupCount_choice_le_iff, ← groupCount_sequence_le_iff]
  simp only [List.mem_reverse, List.forall_mem_cons]
  exact and_comm

theorem groupCount_part_le_iff {g : OpenGroup} :
    (g.part r).groupCount ≤ n ↔ (∀ i ∈ g.capture, i ≤ n) ∧ r.groupCount ≤ n := by
  unfold OpenGroup.part
  cases g.capture with
  | none => simp
  | some i =>
    change max i r.groupCount ≤ n ↔ _
    rw [Nat.max_le]
    simp

theorem forall_some_cons_iff {p : Regex → Prop} {parts : List (Option Regex)} :
    (∀ s, some s ∈ some r :: parts → p s) ↔ p r ∧ ∀ s, some s ∈ parts → p s := by
  simp

/-- A token adds no group but the one that it opens. -/
theorem AtMost.step (h : b.AtMost n) (hb : b.Steps t b') (ht : t.opensGroup = true → b.groups < n) :
    b'.AtMost n := by
  cases hb with
  | atom hr =>
    have hle := Nat.le_trans (Nat.le_of_eq (Atom.groupCount_toRegex? hr)) (Nat.zero_le n)
    exact ⟨h.branches, forall_some_cons_iff.mpr ⟨hle, h.parts⟩, h.outer⟩
  | bracket _ =>
    exact ⟨h.branches, forall_some_cons_iff.mpr ⟨Nat.zero_le n, h.parts⟩, h.outer⟩
  | plain edits =>
    exact ⟨nofun, nofun, List.forall_mem_cons.mpr ⟨⟨nofun, h.branches, h.parts⟩, h.outer⟩⟩
  | capturing _ =>
    have hgroup : ∀ i ∈ some (b.groups + 1), i ≤ n := by
      rintro i ⟨⟩
      exact ht rfl
    exact ⟨nofun, nofun, List.forall_mem_cons.mpr ⟨⟨hgroup, h.branches, h.parts⟩, h.outer⟩⟩
  | @close g outer hg =>
    obtain ⟨⟨hcapture, hbranches, hparts⟩, hrest⟩ := List.forall_mem_cons.mp (hg ▸ h.outer)
    have hpart := groupCount_part_le_iff.mpr
      ⟨hcapture, groupCount_alternatives_le_iff.mpr ⟨h.branches, h.parts⟩⟩
    exact ⟨hbranches, forall_some_cons_iff.mpr ⟨hpart, hparts⟩, hrest⟩
  | setFlags edits => exact ⟨h.branches, fun r hr => h.parts r (by simpa using hr), h.outer⟩
  | bar =>
    have hsequence := groupCount_sequence_le_iff.mpr h.parts
    exact ⟨List.forall_mem_cons.mpr ⟨hsequence, h.branches⟩, nofun, h.outer⟩
  | @times min max marked r r' parts hparts hr' =>
    obtain ⟨hr, hrest⟩ := forall_some_cons_iff.mp (hparts ▸ h.parts)
    have hle : r'.groupCount ≤ n := by
      rw [eq_repeated_of_repeated? hr']
      exact Nat.le_trans (groupCount_repeated_le min max r) hr
    exact ⟨h.branches, forall_some_cons_iff.mpr ⟨hle, hrest⟩, h.outer⟩
  | ignored => exact h

/-- A token keeps all groups, and adds the one that it opens. -/
theorem AtMost.of_step (h : b'.AtMost n) (hb : b.Steps t b') (ht : t.erases = false) :
    b.AtMost n ∧ (t.opensGroup = true → b.groups < n) := by
  cases hb with
  | atom hr => exact ⟨⟨h.branches, (forall_some_cons_iff.mp h.parts).2, h.outer⟩, nofun⟩
  | bracket _ => exact ⟨⟨h.branches, (forall_some_cons_iff.mp h.parts).2, h.outer⟩, nofun⟩
  | plain edits =>
    obtain ⟨⟨-, hbranches, hparts⟩, hrest⟩ := List.forall_mem_cons.mp h.outer
    exact ⟨⟨hbranches, hparts, hrest⟩, nofun⟩
  | capturing _ =>
    obtain ⟨⟨hcapture, hbranches, hparts⟩, hrest⟩ := List.forall_mem_cons.mp h.outer
    exact ⟨⟨hbranches, hparts, hrest⟩, fun _ => hcapture _ rfl⟩
  | @close g outer hg =>
    obtain ⟨hpart, hparts⟩ := forall_some_cons_iff.mp h.parts
    obtain ⟨hcapture, halternatives⟩ := groupCount_part_le_iff.mp hpart
    obtain ⟨hbranches', hparts'⟩ := groupCount_alternatives_le_iff.mp halternatives
    refine ⟨⟨hbranches', hparts', ?_⟩, nofun⟩
    rw [hg]
    exact List.forall_mem_cons.mpr ⟨⟨hcapture, h.branches, hparts⟩, h.outer⟩
  | setFlags edits =>
    exact ⟨⟨h.branches, fun r hr => h.parts r (List.mem_cons_of_mem _ hr), h.outer⟩, nofun⟩
  | bar =>
    obtain ⟨hsequence, hbranches⟩ := List.forall_mem_cons.mp h.branches
    exact ⟨⟨hbranches, groupCount_sequence_le_iff.mp hsequence, h.outer⟩, nofun⟩
  | @times min max marked r r' parts hparts hr' =>
    have hmax : max ≠ some 0 := by
      rintro rfl
      cases ht
    obtain ⟨hr, hrest⟩ := forall_some_cons_iff.mp h.parts
    rw [eq_repeated_of_repeated? hr', groupCount_repeated hmax] at hr
    refine ⟨⟨h.branches, ?_, h.outer⟩, nofun⟩
    rw [hparts]
    exact forall_some_cons_iff.mpr ⟨hr, hrest⟩
  | ignored => exact ⟨h, nofun⟩

/-- Tokens add no groups but those that they open. -/
theorem AtMost.foldlM (h : b.AtMost n) (hb : ts.foldlM step? b = some b')
    (hn : b.groups + ts.countP (·.opensGroup) ≤ n) : b'.AtMost n := by
  induction ts generalizing b with
  | nil => exact Option.some.inj hb ▸ h
  | cons t ts ih =>
    rw [List.foldlM_cons] at hb
    obtain ⟨b₁, hstep, hb⟩ := Option.bind_eq_some_iff.mp hb
    have hgroups := Shape.groups_step? hstep
    rw [List.countP_cons] at hn
    refine ih (h.step (steps_of_step? hstep) fun ht => ?_) hb (by omega)
    rw [if_pos ht] at hn
    omega

/-- Tokens keep all groups, and add those that they open. -/
theorem AtMost.of_foldlM (h : b'.AtMost n) (hb : ts.foldlM step? b = some b')
    (hts : ∀ t ∈ ts, t.erases = false) : b.AtMost n ∧ (b.groups ≤ n → b'.groups ≤ n) := by
  induction ts generalizing b with
  | nil =>
    obtain rfl := Option.some.inj hb
    exact ⟨h, id⟩
  | cons t ts ih =>
    obtain ⟨ht, hts⟩ := List.forall_mem_cons.mp hts
    rw [List.foldlM_cons] at hb
    obtain ⟨b₁, hstep, hb⟩ := Option.bind_eq_some_iff.mp hb
    obtain ⟨h₁, hgroups⟩ := ih hb hts
    obtain ⟨h₀, hopens⟩ := h₁.of_step (steps_of_step? hstep) ht
    refine ⟨h₀, fun hle => hgroups ?_⟩
    rw [Shape.groups_step? hstep]
    split
    · next hopen => exact hopens hopen
    · exact hle

end Builder

end HttpRouting.Regex
