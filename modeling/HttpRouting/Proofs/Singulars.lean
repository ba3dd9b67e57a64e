import HttpRouting.Inflection
import Mathlib.Data.List.Find
import Mathlib.Data.List.Infix
import Mathlib.Tactic.SplitIfs

/-!
# What a singular depends on

A singular is formed by replacing the end of a word. Which end that is depends on the last letters
of the word and on its length. No ending has an underscore in it, so of a compound name only the
last word is looked at: its singular is formed by forming that of the last word. The length is what
can make a difference. The words `s` and `ies` are too short to lose the ending that they are, and
at the end of a compound name they lose it.

## Main definitions

* `replacement?` — how much of a word is replaced, and by what
* `replacements` — all endings of which something is replaced

## Main results

* `singularChars_eq` — the singular is the word with its end replaced
* `exists_ending_of_replacement?`, `singularChars_cases` — what is replaced belongs to one of the
  endings
* `length_singularChars` — how short a singular can be
* `singularize_compound_iff` — when the singular of a compound name is that of its last word
-/

namespace HttpRouting

/-- How many characters are replaced at the end of a word of some length, and by what, unless the
word is its own singular. The word, or what it ends in, is given in small letters. -/
def replacement? (length : Nat) (lower : List Char) : Option (Nat × String) :=
  if uncountableWords.any (endsIn lower) then none
  else match irregularPlurals.find? fun p => endsIn lower p.1 with
    | some p => some (p.1.length, p.2)
    | none =>
      if endsIn lower "ies" && 3 < length then some (3, "y")
      else if sibilantEndings.any (endsIn lower) then some (2, "")
      else if singularEndings.any (endsIn lower) then none
      else if endsIn lower "s" && 1 < length then some (1, "")
      else none

theorem singularChars_eq (word : List Char) : singularChars word =
    match replacement? word.length (word.map Char.toLower) with
    | some (n, e) => replaceEnd word n e
    | none => word := by
  unfold singularChars replacement?
  dsimp only
  rw [List.length_map]
  split
  · rfl
  · cases irregularPlurals.find? fun p => endsIn (word.map Char.toLower) p.1 with
    | some p => rfl
    | none =>
      dsimp only
      split_ifs <;> rfl

/-- The endings of which something is replaced: how many characters, and by what. -/
def replacements : List (String × Nat × String) :=
  irregularPlurals.map (fun p => (p.1, p.1.length, p.2)) ++
    ("ies", 3, "y") :: ("s", 1, "") :: sibilantEndings.map (·, 2, "")

variable {lower p w : List Char} {ending e : String} {length n : Nat}

theorem length_replaceEnd (word : List Char) (n : Nat) (ending : String) :
    (replaceEnd word n ending).length = word.length - n + ending.toList.length := by
  simp [replaceEnd]

theorem endsIn_iff : endsIn lower ending = true ↔ ending.toList <:+ lower :=
  List.isSuffixOf_iff_suffix

theorem length_le_of_endsIn (h : endsIn lower ending = true) :
    ending.toList.length ≤ lower.length :=
  (endsIn_iff.mp h).length_le

/-- What is replaced belongs to an ending of the word, and never is the whole word replaced by
nothing. -/
theorem exists_ending_of_replacement? (h : replacement? lower.length lower = some (n, e)) :
    ∃ ending, (ending, n, e) ∈ replacements ∧ endsIn lower ending = true ∧
      (e ≠ "" ∨ n < lower.length) := by
  have hirregular : ∀ q ∈ irregularPlurals, q.2 ≠ "" := by decide
  have hsibilant : ∀ s ∈ sibilantEndings, 2 < s.toList.length := by decide
  unfold replacement? at h
  split at h
  · cases h
  split at h
  · next q hfind =>
    obtain ⟨rfl, rfl⟩ := Prod.mk.inj (Option.some.inj h)
    have hmem := List.mem_of_find?_eq_some hfind
    have hends := List.find?_some (p := fun q : String × String => endsIn lower q.1) hfind
    exact ⟨q.1, List.mem_append_left _ (List.mem_map_of_mem hmem), hends, .inl (hirregular q hmem)⟩
  split_ifs at h with hies hsib hkept hs
  · obtain ⟨rfl, rfl⟩ := Prod.mk.inj (Option.some.inj h)
    exact ⟨"ies", by decide, (Bool.and_eq_true_iff.mp hies).1, .inl (by decide)⟩
  · obtain ⟨rfl, rfl⟩ := Prod.mk.inj (Option.some.inj h)
    obtain ⟨s, hmem, hends⟩ := List.any_eq_true.mp hsib
    have hlong := Nat.lt_of_lt_of_le (hsibilant s hmem) (length_le_of_endsIn hends)
    refine ⟨s, List.mem_append_right _ ?_, hends, .inr hlong⟩
    exact List.mem_cons_of_mem _ (List.mem_cons_of_mem _ (List.mem_map_of_mem hmem))
  · obtain ⟨rfl, rfl⟩ := Prod.mk.inj (Option.some.inj h)
    obtain ⟨hends, hlong⟩ := Bool.and_eq_true_iff.mp hs
    exact ⟨"s", by decide, hends, .inr (of_decide_eq_true hlong)⟩

/-- A singular is the word itself, or an ending of the word has been replaced. -/
theorem singularChars_cases (word : List Char) : singularChars word = word ∨
    ∃ ending n e, singularChars word = replaceEnd word n e ∧ (ending, n, e) ∈ replacements ∧
      endsIn (word.map Char.toLower) ending = true ∧ (e ≠ "" ∨ n < word.length) := by
  have hlower : (word.map Char.toLower).length = word.length := List.length_map _
  rw [singularChars_eq]
  cases hreplaced : replacement? word.length (word.map Char.toLower) with
  | none => exact .inl rfl
  | some r =>
    rw [← hlower] at hreplaced ⊢
    obtain ⟨ending, hmem, hends, hkept⟩ := exists_ending_of_replacement? hreplaced
    exact .inr ⟨ending, r.1, r.2, rfl, hmem, hends, hkept⟩

/-- No more is replaced than there is. -/
theorem le_length_of_replacement? (h : replacement? lower.length lower = some (n, e)) :
    n ≤ lower.length := by
  have hpart : ∀ q ∈ replacements, q.2.1 ≤ q.1.toList.length := by decide
  obtain ⟨ending, hmem, hends, -⟩ := exists_ending_of_replacement? h
  exact Nat.le_trans (hpart _ hmem) (length_le_of_endsIn hends)

/-- A singular is at most three characters shorter than its plural, and not empty. -/
theorem length_singularChars {word : List Char} (h : word ≠ []) :
    word.length ≤ (singularChars word).length + 3 ∧ singularChars word ≠ [] := by
  have hpos := List.length_pos_iff.mpr h
  have hshort : ∀ q ∈ replacements, q.2.1 ≤ q.2.2.toList.length + 3 := by decide
  rcases singularChars_cases word with heq | ⟨ending, n, e, heq, hmem, -, hkept⟩
  · rw [heq]
    exact ⟨Nat.le_add_right _ _, h⟩
  · have hn := hshort _ hmem
    have hleft : 0 < e.toList.length ∨ n < word.length :=
      hkept.imp_left fun he => List.length_pos_iff.mpr (mt String.toList_eq_nil_iff.mp he)
    rw [← List.length_pos_iff, heq, length_replaceEnd]
    dsimp only at hn
    omega

/-! ### Compound names -/

theorem endsIn_compound (h : '_' ∉ ending.toList) :
    endsIn (p ++ '_' :: w) ending = endsIn w ending := by
  rw [Bool.eq_iff_iff, endsIn_iff, endsIn_iff]
  constructor
  · intro hends
    -- An ending that is longer than the last word would have the underscore in it.
    rcases List.suffix_or_suffix_of_suffix hends (List.suffix_append p ('_' :: w)) with h' | h'
    · rcases List.suffix_cons_iff.mp h' with heq | hw
      · exact absurd (heq ▸ List.mem_cons_self) h
      · exact hw
    · exact absurd (h'.mem List.mem_cons_self) h
  · exact fun hends => List.suffix_append_of_suffix (hends.trans (List.suffix_cons _ _))

theorem any_endsIn_compound {endings : List String} (h : ∀ e ∈ endings, '_' ∉ e.toList) :
    endings.any (endsIn (p ++ '_' :: w)) = endings.any (endsIn w) := by
  rw [Bool.eq_iff_iff, List.any_eq_true, List.any_eq_true]
  exact exists_congr fun e => and_congr_right fun he => by rw [endsIn_compound (h e he)]

/-- The endings are looked for in the last word. -/
theorem replacement?_compound (length : Nat) (p w : List Char) :
    replacement? length (p ++ '_' :: w) = replacement? length w := by
  have hirregular : ∀ q ∈ irregularPlurals, '_' ∉ q.1.toList := by decide
  have hfind : (irregularPlurals.find? fun q => endsIn (p ++ '_' :: w) q.1) =
      irregularPlurals.find? fun q => endsIn w q.1 :=
    List.find?_congr fun q hq => endsIn_compound (hirregular q hq)
  unfold replacement?
  rw [hfind, any_endsIn_compound (by decide), any_endsIn_compound (by decide),
    any_endsIn_compound (by decide), endsIn_compound (by decide), endsIn_compound (by decide)]

/-- A word that is more than a given ending is long enough to lose it. -/
theorem endsIn_and_lt_eq (hlength : w.length ≤ length) (hw : w ≠ ending.toList) :
    (endsIn w ending && decide (ending.toList.length < length)) =
      (endsIn w ending && decide (ending.toList.length < w.length)) := by
  cases hends : endsIn w ending with
  | false => rfl
  | true =>
    have hle := length_le_of_endsIn hends
    have hne : ending.toList.length ≠ w.length :=
      fun heq => hw ((endsIn_iff.mp hends).eq_of_length heq).symm
    rw [decide_eq_true (show ending.toList.length < w.length by omega),
      decide_eq_true (show ending.toList.length < length by omega)]

/-- It makes no difference whether a word stands alone, unless it is an ending that has to be longer
to be replaced. -/
theorem replacement?_eq_of_le (hlength : w.length ≤ length) (hs : w ≠ "s".toList)
    (hies : w ≠ "ies".toList) : replacement? length w = replacement? w.length w := by
  have heqs := endsIn_and_lt_eq hlength hs
  have heqies := endsIn_and_lt_eq hlength hies
  change (endsIn w "s" && decide (1 < length)) = (endsIn w "s" && decide (1 < w.length)) at heqs
  change (endsIn w "ies" && decide (3 < length)) = (endsIn w "ies" && decide (3 < w.length))
    at heqies
  unfold replacement?
  rw [heqs, heqies]

theorem replaceEnd_compound (h : n ≤ w.length) :
    replaceEnd (p ++ '_' :: w) n e = p ++ '_' :: replaceEnd w n e := by
  have hlength : (p ++ '_' :: w).length - n = p.length + (w.length - n + 1) := by
    rw [List.length_append, List.length_cons]
    omega
  rw [replaceEnd, replaceEnd, hlength, List.take_length_add_append, List.take_succ_cons,
    List.append_assoc, List.cons_append]

theorem singularChars_compound (p w : List Char) : singularChars (p ++ '_' :: w) =
    match replacement? (p ++ '_' :: w).length (w.map Char.toLower) with
    | some (n, e) => replaceEnd (p ++ '_' :: w) n e
    | none => p ++ '_' :: w := by
  have hlower : (p ++ '_' :: w).map Char.toLower =
      p.map Char.toLower ++ '_' :: w.map Char.toLower := List.map_append
  rw [singularChars_eq, hlower, replacement?_compound]

/-- A word other than the two endings is formed alike behind an underscore. -/
theorem singularChars_compound_of_ne (hs : w.map Char.toLower ≠ "s".toList)
    (hies : w.map Char.toLower ≠ "ies".toList) :
    singularChars (p ++ '_' :: w) = p ++ '_' :: singularChars w := by
  have hlower : (w.map Char.toLower).length = w.length := List.length_map _
  have hlong : (w.map Char.toLower).length ≤ (p ++ '_' :: w).length := by
    rw [hlower, List.length_append, List.length_cons]
    omega
  rw [singularChars_compound, singularChars_eq, replacement?_eq_of_le hlong hs hies, hlower]
  cases hreplaced : replacement? w.length (w.map Char.toLower) with
  | none => rfl
  | some r =>
    rw [← hlower] at hreplaced
    exact replaceEnd_compound (hlower ▸ le_length_of_replacement? hreplaced)

theorem replacement?_s (h : 1 < length) : replacement? length "s".toList = some (1, "") := by
  have hies : endsIn "s".toList "ies" = false := by decide
  unfold replacement?
  rw [hies, Bool.false_and, decide_eq_true h]
  decide

theorem replacement?_ies (h : 3 < length) : replacement? length "ies".toList = some (3, "y") := by
  unfold replacement?
  rw [decide_eq_true h, Bool.and_true]
  rfl

/-- As a word of its own, one of the two endings keeps a letter more than behind an underscore. -/
theorem length_singularChars_compound (h : w.map Char.toLower = "s".toList ∨
    w.map Char.toLower = "ies".toList) :
    (singularChars (p ++ '_' :: w)).length + 1 = (p ++ '_' :: singularChars w).length := by
  have hcompound : ∀ v : List Char, (p ++ '_' :: v).length = p.length + v.length + 1 := by
    intro v
    rw [List.length_append, List.length_cons, Nat.add_assoc]
  rw [singularChars_compound, singularChars_eq, hcompound, hcompound]
  rcases h with h | h
  · have hlength : w.length = 1 := by
      rw [← List.length_map Char.toLower, h]
      rfl
    have hkept : replacement? 1 "s".toList = none := by decide
    rw [h, hlength, replacement?_s (Nat.lt_add_of_pos_left (Nat.succ_pos _)), hkept]
    dsimp only
    rw [length_replaceEnd, hcompound, hlength]
    rfl
  · have hlength : w.length = 3 := by
      rw [← List.length_map Char.toLower, h]
      rfl
    have hkept : replacement? 3 "ies".toList = some (1, "") := by decide
    rw [h, hlength, replacement?_ies (Nat.lt_succ_of_le (Nat.le_add_left _ _)), hkept]
    dsimp only
    rw [length_replaceEnd, length_replaceEnd, hcompound, hlength]
    rfl

/-- The singular of a compound name is that of its last word, behind the rest of it. This is so
unless the last word is one of the two endings that a word of their own keeps. -/
theorem singularize_compound_iff (p w : String) :
    singularize (p ++ "_" ++ w) = p ++ "_" ++ singularize w ↔
      w.toLower ≠ "s" ∧ w.toLower ≠ "ies" := by
  have hname : ∀ v : String, (p ++ "_" ++ v).toList = p.toList ++ '_' :: v.toList := by
    intro v
    rw [String.toList_append, String.toList_append, List.append_assoc]
    rfl
  have hlower : ∀ v : String, w.toLower = v ↔ w.toList.map Char.toLower = v.toList := by
    intro v
    rw [← String.toList_inj, ← String.toList_map]
    exact Iff.rfl
  have hchars : singularize (p ++ "_" ++ w) = p ++ "_" ++ singularize w ↔
      singularChars (p.toList ++ '_' :: w.toList) = p.toList ++ '_' :: singularChars w.toList := by
    rw [← String.toList_inj, singularize, String.toList_ofList, hname, hname, singularize,
      String.toList_ofList]
  rw [hchars, ne_eq, ne_eq, hlower, hlower, ← not_or]
  constructor
  · intro heq h
    have hlength := length_singularChars_compound (p := p.toList) h
    rw [heq] at hlength
    omega
  · intro h
    exact singularChars_compound_of_ne (fun hs => h (.inl hs)) (fun hies => h (.inr hies))

end HttpRouting
