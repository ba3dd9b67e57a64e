import HttpRouting.Proofs.ScanSteps
import Mathlib.Algebra.Ring.Parity
import Mathlib.Data.List.Induction

/-!
# Counting groups across a seam

The groups of a text are counted by a scan that remembers where it is. Where a text ends in plain
text, its groups and those of whatever comes next add up. The end of a text shows whether it does:
outside a class, a text ends in plain text unless its last backslash escapes nothing or the opening
of a group is not finished. Of the other ends, only the flags of a group make no difference.

## Main definitions

* `Mode.isClass`, `Mode.isEscaping`, `Mode.isOpening` — the ways not to be in plain text
* `EndsInBackslash` — the last backslash of a text escapes nothing
* `Opener`, `EndsInOpener` — a text ends in an opening of a group that is not finished

## Main results

* `Mode.isEscaping_after_iff`, `Mode.isOpening_after_iff` — what the mode behind a text says about
  its end
* `countCaptures_append_iff` — where the groups add up whatever comes next
* `counts_add_up` — the groups of two texts, and those before a place in the first one
-/

namespace HttpRouting.Placeholder

open Shape

variable {m : Mode} {c : Char} {cs ds rest : List Char}

/-! ### What a text ends in -/

/-- A text ends in an odd number of backslashes, so the last one escapes nothing in it. -/
def EndsInBackslash (cs : List Char) : Prop :=
  Odd (cs.reverse.takeWhile (· == '\\')).length

instance (cs : List Char) : Decidable (EndsInBackslash cs) := inferInstanceAs (Decidable (Odd _))

/-- The openings of groups that are not finished. Behind `(?P<` it is settled that the group
captures, so a text that ends there ends in plain text. -/
inductive Opener : List Char → Prop where
  /-- A parenthesis. -/
  | paren : Opener ['(']
  /-- Any number of flags. -/
  | flags {fs : List Char} (h : ∀ f ∈ fs, Mode.isFlagChar f = true) : Opener ('(' :: '?' :: fs)
  /-- The bracket of a name, unless it belongs to an assertion. -/
  | angle : Opener ['(', '?', '<']

/-- A text ends in an opening that is not finished. Its parenthesis is one that opens a group: in a
class or behind a backslash it would not be read as one. -/
def EndsInOpener (cs : List Char) : Prop :=
  ∃ before opener, cs = before ++ opener ∧ Opener opener ∧
    (Mode.plain.after before).next '(' = .paren

theorem endsInBackslash_concat_iff (cs : List Char) (c : Char) :
    EndsInBackslash (cs ++ [c]) ↔ c = '\\' ∧ ¬EndsInBackslash cs := by
  rw [EndsInBackslash, EndsInBackslash, List.reverse_concat, List.takeWhile_cons]
  by_cases hc : c = '\\'
  · rw [if_pos (beq_iff_eq.mpr hc), List.length_cons, Nat.odd_add_one]
    exact (and_iff_right hc).symm
  · rw [if_neg (mt beq_iff_eq.mp hc)]
    exact iff_of_false (by decide) fun h => hc h.1

namespace Mode

/-- Whether a scan is in a class. -/
def isClass : Mode → Bool
  | classStart | classNegated | inClass | classEscape => true
  | _ => false

/-- Whether a scan is behind a backslash. -/
def isEscaping : Mode → Bool
  | escape | classEscape => true
  | _ => false

/-- Whether a scan is in the opening of a group. -/
def isOpening : Mode → Bool
  | paren | question | questionName | angle | flags => true
  | _ => false

/-- Whether a scan is in the opening of a group, where flags may stand. -/
def takesFlags : Mode → Bool
  | question | questionName | flags => true
  | _ => false

/-- What stands behind the parenthesis of the opening that a scan is in. -/
def OpenedWith : Mode → List Char → Prop
  | paren, rest => rest = []
  | question, rest => rest = ['?']
  | questionName, rest => rest = ['?', 'P']
  | angle, rest => rest = ['?', '<']
  | flags, rest => ∃ fs, rest = '?' :: fs ∧ ∀ f ∈ fs, isFlagChar f = true
  | _, _ => False

theorem OpenedWith.exists_flags (hrest : m.OpenedWith rest) (hm : m.takesFlags = true) :
    ∃ fs, rest = '?' :: fs ∧ ∀ f ∈ fs, isFlagChar f = true := by
  cases m with
  | question => exact ⟨[], hrest, nofun⟩
  | questionName => exact ⟨['P'], hrest, List.forall_mem_singleton.mpr rfl⟩
  | flags => exact hrest
  | _ => cases hm

theorem OpenedWith.opener (hrest : m.OpenedWith rest) : Opener ('(' :: rest) := by
  cases m with
  | paren =>
    obtain rfl := hrest
    exact .paren
  | question | questionName | flags =>
    obtain ⟨fs, rfl, hfs⟩ := hrest.exists_flags rfl
    exact .flags hfs
  | angle =>
    obtain rfl := hrest
    exact .angle
  | _ => cases hrest

theorem isOpening_of_takesFlags (h : m.takesFlags = true) : m.isOpening = true := by
  cases m <;> first | rfl | exact absurd h (by decide)

theorem eq_plain (hclass : m.isClass = false) (hescaping : m.isEscaping = false)
    (hopening : m.isOpening = false) : m = plain := by
  cases m with
  | plain => rfl
  | escape => cases hescaping
  | classStart | classNegated | inClass | classEscape => cases hclass
  | paren | question | questionName | angle | flags => cases hopening

theorem after_concat (m : Mode) (cs : List Char) (c : Char) :
    m.after (cs ++ [c]) = (m.after cs).next c := after_append m cs [c]

/-! ### Backslashes -/

/-- Only a backslash escapes. -/
theorem isEscaping_next_of_ne (hc : c ≠ '\\') (m : Mode) : (m.next c).isEscaping = false := by
  have hplain : (afterPlain c).isEscaping = false := by
    rw [afterPlain, if_neg hc]
    split_ifs <;> rfl
  have hmember : (afterMember c).isEscaping = false := by
    rw [afterMember, if_neg hc]
    split_ifs <;> rfl
  have hflag : (afterFlag c).isEscaping = false := by
    unfold afterFlag
    split_ifs <;> rfl
  unfold next
  split
  · exact hplain
  · cases m with
    | plain | escape | classEscape | paren | angle => rfl
    | classStart | classNegated =>
      dsimp only
      split_ifs
      all_goals first | exact hmember | rfl
    | inClass => exact hmember
    | question | questionName =>
      dsimp only
      split_ifs
      all_goals first | exact hflag | rfl
    | flags => exact hflag

/-- A backslash escapes the next character unless it is escaped itself. -/
theorem isEscaping_next_iff (m : Mode) (c : Char) :
    (m.next c).isEscaping = true ↔ c = '\\' ∧ ¬m.isEscaping = true := by
  by_cases hc : c = '\\'
  · subst hc
    cases m <;> decide
  · rw [isEscaping_next_of_ne hc]
    exact iff_of_false Bool.false_ne_true fun h => hc h.1

theorem isEscaping_after_iff (cs : List Char) :
    (plain.after cs).isEscaping = true ↔ EndsInBackslash cs := by
  -- Both sides ask for the last character, and for the same of the text in front of it.
  induction cs using List.reverseRecOn with
  | nil => decide
  | append_singleton cs c ih =>
    rw [after_concat, isEscaping_next_iff, endsInBackslash_concat_iff, ih]

/-! ### Openings of groups -/

/-- How a scan gets into an opening, and on in it. -/
theorem next_cases_of_isOpening (h : (m.next c).isOpening = true) :
    (c = '(' ∧ m.next c = paren) ∨ (m = paren ∧ c = '?') ∨ (m = question ∧ c = 'P') ∨
      (m = question ∧ c = '<') ∨
      (m.takesFlags = true ∧ isFlagChar c = true ∧ m.next c = flags) := by
  have hplain : (afterPlain c).isOpening = true → c = '(' ∧ afterPlain c = paren := by
    unfold afterPlain
    split_ifs with h₁ h₂ h₃
    all_goals first | exact fun _ => ⟨h₃, rfl⟩ | exact nofun
  have hmember : ¬(afterMember c).isOpening = true := by
    unfold afterMember
    split_ifs <;> exact nofun
  have hflag : (afterFlag c).isOpening = true → c ≠ ':' ∧ afterFlag c = flags := by
    unfold afterFlag
    split_ifs with hc
    · exact nofun
    · exact fun _ => ⟨hc, rfl⟩
  unfold next at h ⊢
  split at h
  -- What settles an opening is read as plain text, where only a parenthesis opens.
  · next hsettles =>
    rw [if_pos hsettles]
    exact .inl (hplain h)
  · next hsettles =>
    rw [if_neg hsettles]
    cases m with
    | plain | escape | classEscape | angle => cases h
    | classStart | classNegated =>
      dsimp only at h
      split_ifs at h
      all_goals first | exact absurd h hmember | cases h
    | inClass => exact absurd h hmember
    | paren => exact .inr (.inl ⟨rfl, by simpa [settles] using hsettles⟩)
    | question =>
      dsimp only at h ⊢
      split_ifs at h ⊢ with hp hangle
      · exact .inr (.inr (.inl ⟨rfl, hp⟩))
      · exact .inr (.inr (.inr (.inl ⟨rfl, hangle⟩)))
      · obtain ⟨hcolon, hnext⟩ := hflag h
        have hc : isFlagChar c = true := by simpa [settles, hangle, hcolon] using hsettles
        exact .inr (.inr (.inr (.inr ⟨rfl, hc, hnext⟩)))
    | questionName =>
      dsimp only at h ⊢
      split_ifs at h ⊢ with hangle
      · cases h
      · obtain ⟨hcolon, hnext⟩ := hflag h
        have hc : isFlagChar c = true := by simpa [settles, hangle, hcolon] using hsettles
        exact .inr (.inr (.inr (.inr ⟨rfl, hc, hnext⟩)))
    | flags =>
      obtain ⟨hcolon, hnext⟩ := hflag h
      have hc : isFlagChar c = true := by simpa [settles, hcolon] using hsettles
      exact .inr (.inr (.inr (.inr ⟨rfl, hc, hnext⟩)))

/-- An opening begins with a parenthesis and goes on with what may stand in it. -/
theorem openedWith_next (h : (m.next c).isOpening = true) :
    (c = '(' ∧ m.next c = paren) ∨
      m.isOpening = true ∧ ∀ rest, m.OpenedWith rest → (m.next c).OpenedWith (rest ++ [c]) := by
  obtain h | ⟨rfl, rfl⟩ | ⟨rfl, rfl⟩ | ⟨rfl, rfl⟩ | ⟨hflags, hc, hnext⟩ := next_cases_of_isOpening h
  · exact .inl h
  · exact .inr ⟨rfl, fun rest hrest => congrArg (· ++ ['?']) hrest⟩
  · exact .inr ⟨rfl, fun rest hrest => congrArg (· ++ ['P']) hrest⟩
  · exact .inr ⟨rfl, fun rest hrest => congrArg (· ++ ['<']) hrest⟩
  · rw [hnext]
    refine .inr ⟨isOpening_of_takesFlags hflags, fun rest hrest => ?_⟩
    obtain ⟨fs, rfl, hfs⟩ := hrest.exists_flags hflags
    exact ⟨fs ++ [c], rfl, List.forall_mem_append.mpr ⟨hfs, List.forall_mem_singleton.mpr hc⟩⟩

/-- A scan in an opening has read its parenthesis, in plain text, and what stands behind it. -/
theorem exists_openedWith (h : (plain.after cs).isOpening = true) :
    ∃ before rest, cs = before ++ '(' :: rest ∧ (plain.after before).next '(' = paren ∧
      (plain.after cs).OpenedWith rest := by
  -- The parenthesis is the last character, or it is the one of the opening in front of that.
  induction cs using List.reverseRecOn with
  | nil => cases h
  | append_singleton cs c ih =>
    rw [after_concat] at h ⊢
    rcases openedWith_next h with ⟨rfl, hparen⟩ | ⟨hopening, hopened⟩
    · exact ⟨cs, [], rfl, hparen, by rw [hparen]; rfl⟩
    · obtain ⟨before, rest, rfl, hparen, hrest⟩ := ih hopening
      exact ⟨before, rest ++ [c], List.append_assoc before ('(' :: rest) [c], hparen,
        hopened rest hrest⟩

/-- Flags do not end the opening they stand in. -/
theorem takesFlags_next (hm : m.takesFlags = true) (hc : isFlagChar c = true) :
    (m.next c).takesFlags = true := by
  have hcolon : c ≠ ':' := ne_of_apply_ne isFlagChar (by rw [hc]; decide)
  have hangle : c ≠ '<' := ne_of_apply_ne isFlagChar (by rw [hc]; decide)
  have hflag : afterFlag c = flags := if_neg hcolon
  unfold next
  cases m with
  | question =>
    rw [if_neg (by simp [settles, hc])]
    dsimp only
    -- The letter that may announce a name is a flag as well.
    rw [if_neg hangle, hflag]
    split_ifs <;> rfl
  | questionName =>
    rw [if_neg (by simp [settles, hc])]
    dsimp only
    rw [if_neg hangle, hflag]
    rfl
  | flags =>
    rw [if_neg (by simp [settles, hc])]
    exact congrArg takesFlags hflag
  | _ => cases hm

theorem takesFlags_after (hm : m.takesFlags = true) (hcs : ∀ c ∈ cs, isFlagChar c = true) :
    (m.after cs).takesFlags = true := by
  induction cs generalizing m with
  | nil => exact hm
  | cons c cs ih =>
    rw [List.forall_mem_cons] at hcs
    exact ih (takesFlags_next hm hcs.1) hcs.2

/-- A scan is in an opening exactly behind a text that ends in one. -/
theorem isOpening_after_iff (cs : List Char) :
    (plain.after cs).isOpening = true ↔ EndsInOpener cs := by
  constructor
  · intro h
    obtain ⟨before, rest, rfl, hparen, hrest⟩ := exists_openedWith h
    exact ⟨before, _, rfl, hrest.opener, hparen⟩
  · rintro ⟨before, opener, rfl, hopener, hparen⟩
    rw [after_append]
    cases hopener with
    | paren => exact congrArg isOpening hparen
    | flags hfs =>
      rw [after_cons, hparen, after_cons]
      exact isOpening_of_takesFlags (takesFlags_after (m := question) rfl hfs)
    | angle =>
      rw [after_cons, hparen]
      rfl

end Mode

/-! ### Numbers of groups -/

/-- What a text adds to the groups in front of it is decided by the mode in which it is read. -/
theorem length_captureOffsetsFrom_append (m : Mode) (o : Nat) (cs ds : List Char) :
    (captureOffsetsFrom m o (cs ++ ds)).length + (captureOffsetsFrom (m.after cs) 0 []).length =
      (captureOffsetsFrom m o cs).length + (captureOffsetsFrom (m.after cs) 0 ds).length := by
  induction cs generalizing m o with
  | nil =>
    rw [length_captureOffsetsFrom_eq m o 0, length_captureOffsetsFrom_eq m o 0]
    exact Nat.add_comm _ _
  | cons c cs ih =>
    have hrest := ih (m.next c) (o + c.utf8Size)
    rw [← Mode.after_cons] at hrest
    rw [List.cons_append, length_captureOffsetsFrom_cons, length_captureOffsetsFrom_cons]
    omega

/-- Read as flags, a text has the groups that it has as plain text. -/
theorem length_captureOffsetsFrom_flags (o : Nat) (cs : List Char) :
    (captureOffsetsFrom .flags o cs).length = (captureOffsetsFrom .plain o cs).length := by
  have hmeta : ∀ c ∈ ['\\', '.', '^', '$', '[', '(', ')', '|', '?', '*', '+', '{'],
      Mode.flags.settles c = true := List.all_eq_true.mp (by decide)
  induction cs generalizing o with
  | nil => rfl
  | cons c cs ih =>
    rw [length_captureOffsetsFrom_cons, length_captureOffsetsFrom_cons]
    have hopened : Mode.flags.opened (some c) = Mode.plain.opened (some c) := rfl
    rw [hopened]
    by_cases hsettles : Mode.flags.settles c = true
    · rw [next_of_settles hsettles, next_of_settles rfl]
    · have hplain : Mode.plain.next c = .plain := next_plain fun hc => hsettles (hmeta c hc)
      by_cases hcolon : c = ':'
      · subst hcolon
        rfl
      · have hflags : Mode.flags.next c = .flags := by
          rw [Mode.next, if_neg hsettles]
          exact if_neg hcolon
        rw [hflags, hplain, ih]

/-- The groups of a text and of whatever comes next add up where the text ends in plain text or in
the flags of a group, and nowhere else. -/
theorem countCaptures_append_iff (a : String) :
    (∀ b, countCaptures (a ++ b) = countCaptures a + countCaptures b) ↔
      Mode.plain.after a.toList = .plain ∨ Mode.plain.after a.toList = .flags := by
  have hsplit : ∀ b : String,
      countCaptures (a ++ b) + (captureOffsetsFrom (Mode.plain.after a.toList) 0 []).length =
        countCaptures a + (captureOffsetsFrom (Mode.plain.after a.toList) 0 b.toList).length := by
    intro b
    rw [countCaptures, countCaptures, captureOffsets, captureOffsets, String.toList_append]
    exact length_captureOffsetsFrom_append .plain 0 a.toList b.toList
  constructor
  · intro h
    have hadds : ∀ ds, (captureOffsetsFrom (Mode.plain.after a.toList) 0 ds).length =
        (captureOffsetsFrom (Mode.plain.after a.toList) 0 []).length +
          (captureOffsetsFrom .plain 0 ds).length := by
      intro ds
      have hb := hsplit (String.ofList ds)
      have hcount : countCaptures (String.ofList ds) = (captureOffsetsFrom .plain 0 ds).length := by
        rw [countCaptures, captureOffsets, String.toList_ofList]
      rw [h, hcount, String.toList_ofList] at hb
      omega
    -- In every other mode one character shows that the text does not count as it does alone.
    generalize Mode.plain.after a.toList = m at hadds ⊢
    cases m with
    | plain => exact .inl rfl
    | flags => exact .inr rfl
    | escape | classStart | classNegated | inClass | classEscape =>
      exact absurd (hadds ['(']) (by decide)
    | paren => exact absurd (hadds ['?']) (by decide)
    | question | questionName => exact absurd (hadds ['<']) (by decide)
    | angle => exact absurd (hadds ['=']) (by decide)
  · intro h b
    have hb := hsplit b
    rcases h with h | h
    · rw [h] at hb
      exact hb
    · rw [h, length_captureOffsetsFrom_flags, length_captureOffsetsFrom_flags] at hb
      exact hb

/-- The groups of two texts add up unless the first one ends in a class, in a backslash, or in an
opening of a group. Then the text that follows has none of its groups before a place in the first
text, either. -/
theorem counts_add_up {a b : String} (hclass : (Mode.plain.after a.toList).isClass = false)
    (hbackslash : ¬EndsInBackslash a.toList) (hopener : ¬EndsInOpener a.toList) :
    countCaptures (a ++ b) = countCaptures a + countCaptures b ∧
      ∀ o ≤ a.utf8ByteSize, capturesBefore (a ++ b) o = capturesBefore a o := by
  have hplain : Mode.plain.after a.toList = .plain :=
    Mode.eq_plain hclass
      (Bool.eq_false_iff.mpr fun h => hbackslash ((Mode.isEscaping_after_iff _).mp h))
      (Bool.eq_false_iff.mpr fun h => hopener ((Mode.isOpening_after_iff _).mp h))
  refine ⟨(countCaptures_append_iff a).mpr (.inl hplain) b, fun o ho => ?_⟩
  have hsettles : ∀ c ∈ b.toList.head?, (Mode.plain.after a.toList).settles c = true := by
    rw [hplain]
    exact fun c _ => rfl
  have hsize : String.utf8Len a.toList = a.utf8ByteSize := by
    rw [← String.utf8ByteSize_ofList, String.ofList_toList]
  have hbefore := capturesBefore_append_of_le hsettles (ho.trans_eq hsize.symm)
  rwa [String.ofList_append, String.ofList_toList, String.ofList_toList] at hbefore

/-- Parentheses in a class and behind a backslash look like openings at the end of a text. -/
theorem counts_add_up_lookalike :
    countCaptures ("(é)[^](]\\\\\\(?i" ++ "(?P<id>\\d+)") = 2 ∧
      capturesBefore ("(é)[^](]\\\\\\(?i" ++ "(?P<id>\\d+)") 14 = 1 := by
  have hcounts := counts_add_up (a := "(é)[^](]\\\\\\(?i") (b := "(?P<id>\\d+)") (by decide)
    (by decide) fun h => absurd ((Mode.isOpening_after_iff _).mpr h) (by decide)
  exact ⟨hcounts.1.trans (by decide), (hcounts.2 14 (by decide)).trans (by decide)⟩

end HttpRouting.Placeholder
