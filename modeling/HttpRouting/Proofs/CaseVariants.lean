import HttpRouting.Regex.Parser

/-!
# Case variants and small letters

Putting a text into small letters changes the capital letters of ASCII and nothing else. The other
letters of a character are its case variants, by a table of runs or by ASCII alone. Here the two are
brought together: the case variants of a character include the character itself, and with each of
them its small letter.

## Main definitions

* `Unicode.capitals` — the characters that change

## Main results

* `Unicode.toLower_invariant` — what does not tell the capital letters from the small ones
* `Unicode.small_mem_caseVariants` — the variants of a code point, with their small letters
* `Regex.CharSet.toLower_mem_variantsOf` — the same for sets of characters
-/

namespace HttpRouting

namespace Unicode

/-- The ASCII capital letters. -/
def capitals : List Char := "ABCDEFGHIJKLMNOPQRSTUVWXYZ".toList

/-- The ASCII letters. -/
def letters : List Char := capitals ++ capitals.map Char.toLower

/-- The letters by their codes. -/
theorem ofNat_mem : ∀ n : Fin 123,
    (65 ≤ n.val ∧ n.val ≤ 90 → Char.ofNat n.val ∈ capitals) ∧
      (97 ≤ n.val → Char.ofNat n.val ∈ letters) := by
  decide +kernel

theorem mem_letters {c : Char} (h : c.isAlpha = true) : c ∈ letters := by
  have hcode : Char.ofNat c.toNat = c := Char.ofNat_toNat c
  have hletter : c.isAlpha = (decide ('A'.val ≤ c.val ∧ c.val ≤ 'Z'.val) ||
      (decide ('a'.val ≤ c.val) && decide (c.val ≤ 'z'.val))) := rfl
  rw [hletter] at h
  simp only [Bool.or_eq_true, Bool.and_eq_true, decide_eq_true_eq] at h
  have hbound : 65 ≤ c.toNat ∧ c.toNat ≤ 90 ∨ 97 ≤ c.toNat ∧ c.toNat ≤ 122 := h
  obtain ⟨hcapital, hsmall⟩ := ofNat_mem ⟨c.toNat, by omega⟩
  rcases hbound with hbound | hbound
  · exact List.mem_append_left _ (hcode ▸ hcapital hbound)
  · exact hcode ▸ hsmall hbound.1

/-- Only ASCII capital letters change when they are put into small letters. -/
theorem toLower_eq_or_mem_capitals (c : Char) : c.toLower = c ∨ c ∈ capitals := by
  unfold Char.toLower
  split
  · next h =>
    obtain ⟨hge, hle⟩ := h
    have hcode : Char.ofNat c.toNat = c := Char.ofNat_toNat c
    have hge' : 65 ≤ c.toNat := hge
    have hle' : c.toNat ≤ 90 := hle
    exact .inr (hcode ▸ (ofNat_mem ⟨c.toNat, by omega⟩).1 ⟨hge', hle'⟩)
  · exact .inl rfl

theorem toLower_invariant {α : Type} [DecidableEq α] (p : Char → α)
    (h : (capitals.all fun c => p c.toLower = p c) = true) (c : Char) : p c.toLower = p c := by
  rcases toLower_eq_or_mem_capitals c with hc | hc
  · rw [hc]
  · exact of_decide_eq_true (List.all_eq_true.mp h c hc)

/-- What is to be known of the capital letters. -/
theorem capitals_all : (capitals.all fun c =>
    (isWord c.toLower, isDigit c.toLower, isBlank c.toLower) = (isWord c, isDigit c, isBlank c) ∧
      c.isAlpha = true ∧ (c.toLower ≠ c ∧ c.toLower.toLower = c.toLower ∧ c.toLower ≠ 'ſ') ∧
      65 ≤ c.toNat ∧ c.toNat ≤ 90 ∧ Char.ofNat (c.toNat + 32) = c.toLower) = true := by
  decide +kernel

theorem isAlpha_of_mem_capitals {c : Char} (h : c ∈ capitals) : c.isAlpha = true :=
  (of_decide_eq_true (List.all_eq_true.mp capitals_all c h)).2.1

/-- A capital letter is no small letter, and its small letter is one of ASCII. -/
theorem toLower_of_mem_capitals {c : Char} (h : c ∈ capitals) :
    c.toLower ≠ c ∧ c.toLower.toLower = c.toLower ∧ c.toLower ≠ 'ſ' :=
  (of_decide_eq_true (List.all_eq_true.mp capitals_all c h)).2.2.1

/-- The properties of characters do not tell the capital letters from the small ones. -/
theorem properties_toLower (c : Char) :
    (isWord c.toLower, isDigit c.toLower, isBlank c.toLower) =
      (isWord c, isDigit c, isBlank c) := by
  rcases toLower_eq_or_mem_capitals c with hc | hc
  · rw [hc]
  · exact (of_decide_eq_true (List.all_eq_true.mp capitals_all c hc)).1

theorem isWord_toLower (c : Char) : isWord c.toLower = isWord c :=
  congrArg Prod.fst (properties_toLower c)

theorem isDigit_toLower (c : Char) : isDigit c.toLower = isDigit c :=
  congrArg (fun p => p.2.1) (properties_toLower c)

theorem isBlank_toLower (c : Char) : isBlank c.toLower = isBlank c :=
  congrArg (fun p => p.2.2) (properties_toLower c)

theorem FoldRun.preimage?_of_image? {r : FoldRun} {m n : Nat} (h : r.image? n = some m) :
    r.preimage? m = some n := by
  unfold image? at h
  split at h
  · next hc =>
    simp only [Bool.and_eq_true, decide_eq_true_eq, beq_iff_eq] at hc
    obtain rfl := Option.some.inj h
    unfold preimage?
    rw [if_pos]
    · congr 1
      omega
    · simp only [Bool.and_eq_true, decide_eq_true_eq, beq_iff_eq, Nat.add_sub_cancel_left]
      omega
  · cases h

theorem self_mem_caseVariants (n : Nat) : n ∈ caseVariants n := by
  unfold caseVariants foldCase
  cases h : foldRuns.findSome? (·.image? n) with
  | none => simp
  | some m =>
    obtain ⟨r, hr, him⟩ := List.exists_of_findSome?_eq_some h
    refine List.mem_cons_of_mem _ (List.mem_filterMap.mpr ⟨r, hr, ?_⟩)
    exact FoldRun.preimage?_of_image? him

theorem toNat_ofNat_of_isValidChar {n : Nat} (h : n.isValidChar) : (Char.ofNat n).toNat = n := by
  rw [Char.ofNat, dif_pos h]
  exact UInt32.toNat_ofNatLT ..

theorem code_of_mem_capitals {n : Nat} (h : Char.ofNat n ∈ capitals) :
    65 ≤ n ∧ n ≤ 90 ∧ Char.ofNat (n + 32) = (Char.ofNat n).toLower := by
  have hcode := (of_decide_eq_true (List.all_eq_true.mp capitals_all _ h)).2.2.2
  by_cases hvalid : n.isValidChar
  · rwa [toNat_ofNat_of_isValidChar hvalid] at hcode
  · rw [Char.ofNat, dif_neg hvalid] at h
    exact absurd h (by decide)

/-- A code point that is a case variant of others has that of its small letter among them. -/
theorem small_mem_caseVariants {k n : Nat} (h : n ∈ caseVariants k) (hge : 65 ≤ n)
    (hle : n ≤ 90) : n + 32 ∈ caseVariants k := by
  -- The capital letters of ASCII are the first run, and nothing is represented by one of them.
  have hruns : ∀ r ∈ foldRuns,
      90 < r.target ∧ (r.first ≤ 90 → r = ⟨0x41, 0x5A, 1, 0x61⟩) := by decide +kernel
  unfold caseVariants at h ⊢
  rcases List.mem_cons.mp h with hfold | hpre
  · exfalso
    unfold foldCase at hfold
    cases hfound : foldRuns.findSome? (·.image? k) with
    | some m =>
      obtain ⟨r, hr, him⟩ := List.exists_of_findSome?_eq_some hfound
      rw [hfound, Option.getD_some] at hfold
      unfold FoldRun.image? at him
      split at him
      · have htarget := (hruns r hr).1
        have hm := Option.some.inj him
        omega
      · cases him
    | none =>
      rw [hfound, Option.getD_none] at hfold
      have hfirst := List.findSome?_eq_none_iff.mp hfound ⟨0x41, 0x5A, 1, 0x61⟩
        (List.mem_cons_self ..)
      unfold FoldRun.image? at hfirst
      simp at hfirst
      omega
  · obtain ⟨r, hr, hpre⟩ := List.mem_filterMap.mp hpre
    unfold FoldRun.preimage? at hpre
    split at hpre
    · next hc =>
      simp only [Bool.and_eq_true, decide_eq_true_eq, beq_iff_eq] at hc
      have hn := Option.some.inj hpre
      obtain rfl := (hruns r hr).2 (by omega)
      simp only at hc hn
      refine List.mem_cons.mpr (.inl ?_)
      omega
    · cases hpre

end Unicode

namespace Regex.CharSet

open Unicode

variable {unicode : Bool} {c d : Char}

theorem mem_variantsOf_true :
    d ∈ variantsOf true c ↔ ∃ n ∈ caseVariants c.toNat, Char.ofNat n = d := by
  have hself := self_mem_caseVariants c.toNat
  have hcode : Char.ofNat c.toNat = c := Char.ofNat_toNat c
  rw [variantsOf, if_pos rfl]
  split
  · next m hone =>
    rw [hone, List.mem_singleton] at hself
    rw [mem_single, hone, ← hself]
    simp [hcode, eq_comm]
  · rw [mem_ofList, List.mem_map]

theorem mem_variantsOf_self (unicode : Bool) (c : Char) : c ∈ variantsOf unicode c := by
  cases unicode with
  | true =>
    exact mem_variantsOf_true.mpr ⟨_, self_mem_caseVariants _, Char.ofNat_toNat c⟩
  | false =>
    rw [variantsOf, if_neg Bool.false_ne_true]
    split <;> simp

/-- The case variants of a character have their small letters among them. -/
theorem toLower_mem_variantsOf (h : d ∈ variantsOf unicode c) :
    d.toLower ∈ variantsOf unicode c := by
  rcases toLower_eq_or_mem_capitals d with hd | hd
  · rwa [hd]
  · cases unicode with
    | true =>
      obtain ⟨n, hn, rfl⟩ := mem_variantsOf_true.mp h
      obtain ⟨hge, hle, hlower⟩ := code_of_mem_capitals hd
      exact mem_variantsOf_true.mpr ⟨n + 32, small_mem_caseVariants hn hge hle, hlower⟩
    | false =>
      rw [variantsOf, if_neg Bool.false_ne_true] at h ⊢
      split at h
      · next hletter =>
        have hcases : (letters.all fun a => [a, otherAsciiCase a].all fun b =>
            [a, otherAsciiCase a].contains b.toLower) = true := by decide +kernel
        rw [mem_ofList] at h
        rw [if_pos hletter, mem_ofList]
        have hvariants := List.all_eq_true.mp hcases c (mem_letters hletter)
        exact List.contains_iff_mem.mp (List.all_eq_true.mp hvariants d h)
      · next hletter =>
        obtain rfl := mem_single.mp h
        exact absurd (Unicode.isAlpha_of_mem_capitals hd) hletter

end Regex.CharSet

end HttpRouting
