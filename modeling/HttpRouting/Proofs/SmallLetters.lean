import HttpRouting.Proofs.CaseVariants
import HttpRouting.Proofs.FilledPath
import Mathlib.Data.List.Forall2
import Mathlib.Tactic.SplitIfs

/-!
# Expressions for small letters

If an expression reads small letters wherever another one reads any letters, and both are made in
the same way, then what the one matches is matched by the other after it has been put into small
letters. Assertions do not stand in the way, because they do not tell small letters from capital
ones.

## Main definitions

* `Regex.Lowers` — one expression reads the small letters of what another one reads

## Main results

* `Regex.Covers.toLower` — what has been covered is covered in small letters
* `Regex.isSome_captures?_toLower` — what is found is found in small letters
* `Regex.Lowers.repeated`, … — how expressions are put together
-/

namespace HttpRouting

namespace Regex

/-! ### Assertions -/

theorem Assertion.wordAt_toLower (unicode : Bool) (c : Option Char) :
    wordAt unicode (c.map Char.toLower) = wordAt unicode c := by
  have hascii : ∀ d : Char, CharSet.asciiWord.contains d.toLower = CharSet.asciiWord.contains d :=
    Unicode.toLower_invariant _ (by decide +kernel)
  cases c with
  | none => rfl
  | some d => simp [wordAt, hascii, Unicode.isWord_toLower]

/-- An assertion does not tell small letters from capital ones. -/
theorem Assertion.holds_toLower (a : Assertion) (before after : Option Char) :
    a.holds (before.map Char.toLower) (after.map Char.toLower) = a.holds before after := by
  have hfeed : ∀ (c : Option Char) (d : Char), d ∈ ['\n', '\r'] →
      (c.map Char.toLower == some d) = (c == some d) := by
    intro c d hd
    cases c with
    | none => rfl
    | some e =>
      have hsame := Unicode.toLower_invariant (fun e => ['\n', '\r'].map fun d => some e == some d)
        (by decide +kernel) e
      simp only [List.map_cons, List.cons.injEq] at hsame
      simp only [List.mem_cons, List.not_mem_nil, or_false] at hd
      rcases hd with rfl | rfl
      · exact hsame.1
      · exact hsame.2.1
  have hn := fun c => hfeed c '\n' (by simp)
  have hr := fun c => hfeed c '\r' (by simp)
  cases a <;>
    simp only [holds, Option.isNone_map, wordAt_toLower, hn, hr, bne]

/-- The second expression is made like the first one, and where the first one reads a character the
second one reads its small letter. -/
inductive Lowers : Regex → Regex → Prop where
  /-- Nothing is read. -/
  | empty : Lowers empty empty
  /-- A character is read. -/
  | chars {s s' : CharSet} (h : ∀ c ∈ s, c.toLower ∈ s') : Lowers (chars s) (chars s')
  /-- The same assertion. -/
  | look (a : Assertion) : Lowers (look a) (look a)
  /-- The same group. -/
  | group {r r' : Regex} (i : Nat) (h : Lowers r r') : Lowers (group i r) (group i r')
  /-- Two parts. -/
  | cat {r r' t t' : Regex} (hr : Lowers r r') (ht : Lowers t t') : Lowers (cat r t) (cat r' t')
  /-- A choice. -/
  | alt {r r' t t' : Regex} (hr : Lowers r r') (ht : Lowers t t') : Lowers (alt r t) (alt r' t')
  /-- An iteration. -/
  | star {r r' : Regex} (greedy : Bool) (h : Lowers r r') : Lowers (star greedy r) (star greedy r')

/-- Work for expressions in small letters. -/
inductive Task.Lowers : Task → Task → Prop where
  | run {r r' : Regex} (h : r.Lowers r') : Lowers (.run r) (.run r')
  | close (i : Nat) : Lowers (.close i) (.close i)

variable {pre mid post : List Char} {k k' : List Task} {c c' : Captures} {r r' : Regex}

/-- Step by step, what has been covered is covered in small letters. -/
theorem Covers.toLower (h : Covers pre mid post k c c') (hk : List.Forall₂ Task.Lowers k k') :
    Covers (pre.map Char.toLower) (mid.map Char.toLower) (post.map Char.toLower) k' c c' := by
  -- On the way through the first expression. A relation between the tasks that are left decides
  -- which step of the second expression answers each step.
  induction h generalizing k' with
  | done pre post c =>
    obtain rfl := List.forall₂_nil_left_iff.mp hk
    exact .done _ _ _
  | close h ih =>
    obtain ⟨_, k', ht, hrest, rfl⟩ := List.forall₂_cons_left_iff.mp hk
    cases ht
    refine .close ?_
    rw [List.length_map]
    exact ih hrest
  | empty h ih =>
    obtain ⟨_, k', ⟨ht⟩, hrest, rfl⟩ := List.forall₂_cons_left_iff.mp hk
    cases ht
    exact .empty (ih hrest)
  | chars mem h ih =>
    obtain ⟨_, k', ⟨ht⟩, hrest, rfl⟩ := List.forall₂_cons_left_iff.mp hk
    cases ht with
    | chars hset =>
      refine .chars (hset _ mem) ?_
      have hread := ih hrest
      rwa [List.map_append] at hread
  | look holds h ih =>
    obtain ⟨_, k', ⟨ht⟩, hrest, rfl⟩ := List.forall₂_cons_left_iff.mp hk
    cases ht
    refine .look ?_ (ih hrest)
    rw [← List.map_append, List.getLast?_map, List.head?_map, Assertion.holds_toLower]
    exact holds
  | group h ih =>
    obtain ⟨_, k', ⟨ht⟩, hrest, rfl⟩ := List.forall₂_cons_left_iff.mp hk
    cases ht with
    | group _ ht =>
      refine .group ?_
      rw [List.length_map]
      exact ih (.cons (.run ht) (.cons (.close _) hrest))
  | cat h ih =>
    obtain ⟨_, k', ⟨ht⟩, hrest, rfl⟩ := List.forall₂_cons_left_iff.mp hk
    cases ht with
    | cat hr ht => exact .cat (ih (.cons (.run hr) (.cons (.run ht) hrest)))
  | left h ih =>
    obtain ⟨_, k', ⟨ht⟩, hrest, rfl⟩ := List.forall₂_cons_left_iff.mp hk
    cases ht with
    | alt hr ht => exact .left (ih (.cons (.run hr) hrest))
  | right h ih =>
    obtain ⟨_, k', ⟨ht⟩, hrest, rfl⟩ := List.forall₂_cons_left_iff.mp hk
    cases ht with
    | alt hr ht => exact .right (ih (.cons (.run ht) hrest))
  | stop h ih =>
    obtain ⟨_, k', ⟨ht⟩, hrest, rfl⟩ := List.forall₂_cons_left_iff.mp hk
    cases ht with
    | star _ ht => exact .stop (ih hrest)
  | more h ih =>
    obtain ⟨_, k', ⟨ht⟩, hrest, rfl⟩ := List.forall₂_cons_left_iff.mp hk
    cases ht with
    | star _ ht => exact .more (ih (.cons (.run ht) (.cons (.run (.star _ ht)) hrest)))

theorem Found.toLower {text : List Char} (h : Found r text c) (hr : r.Lowers r') :
    Found r' (text.map Char.toLower) c := by
  obtain ⟨u, v, w, rfl, hspans⟩ := h
  refine ⟨u.map Char.toLower, v.map Char.toLower, w.map Char.toLower, ?_,
    hspans.toLower (.cons (.run (.group 0 hr)) .nil)⟩
  rw [List.map_append, List.map_append]

/-! ### How expressions are put together -/

namespace Lowers

variable {t t' : Regex} {rs rs' : List Regex}

theorem nullable_eq (h : Lowers r r') : r'.nullable = r.nullable := by
  induction h with
  | group _ _ ih => exact ih
  | cat _ _ hr ht => rw [nullable, nullable, hr, ht]
  | alt _ _ hr ht => rw [nullable, nullable, hr, ht]
  | _ => rfl

theorem zeroWidth_eq (h : Lowers r r') : r'.zeroWidth = r.zeroWidth := by
  induction h with
  | group _ _ ih => exact ih
  | cat _ _ hr ht => rw [zeroWidth, zeroWidth, hr, ht]
  | alt _ _ hr ht => rw [zeroWidth, zeroWidth, hr, ht]
  | _ => rfl

theorem groupCount_eq (h : Lowers r r') : r'.groupCount = r.groupCount := by
  induction h with
  | group _ _ ih => rw [groupCount, groupCount, ih]
  | cat _ _ hr ht => rw [groupCount, groupCount, hr, ht]
  | alt _ _ hr ht => rw [groupCount, groupCount, hr, ht]
  | star _ _ ih => exact ih
  | _ => rfl

theorem append (hr : Lowers r r') (ht : Lowers t t') : Lowers (r.append t) (r'.append t') := by
  have happend : ∀ r t : Regex, r.append t =
      if r = .empty then t else if t = .empty then r else .cat r t := by
    intro r t
    unfold Regex.append
    split <;> simp_all
  have hempty : ∀ {r r' : Regex}, Lowers r r' → (r = .empty ↔ r' = .empty) := by
    rintro _ _ (_ | _) <;> simp
  rw [happend, happend]
  simp only [hempty hr, hempty ht]
  split_ifs
  · exact ht
  · exact hr
  · exact .cat hr ht

theorem concat (h : List.Forall₂ Lowers rs rs') :
    Lowers (Regex.concat rs) (Regex.concat rs') := by
  induction h with
  | nil => exact .empty
  | cons hr _ ih => exact hr.append ih

theorem choice (h : List.Forall₂ Lowers rs rs') :
    Lowers (Regex.choice rs) (Regex.choice rs') := by
  induction h with
  | nil => exact .empty
  | cons hr hrs ih =>
    cases hrs with
    | nil => exact hr
    | cons _ _ => exact .alt hr ih

theorem optional (greedy : Bool) (h : Lowers r r') :
    Lowers (Regex.optional greedy r) (Regex.optional greedy r') := by
  unfold Regex.optional
  split
  · exact .alt h .empty
  · exact .alt .empty h

theorem times (h : Lowers r r') (n : Nat) : Lowers (r.times n) (r'.times n) := by
  induction n with
  | zero => exact .empty
  | succ n ih => exact h.append ih

theorem upTo (greedy : Bool) (h : Lowers r r') (n : Nat) :
    Lowers (Regex.upTo greedy r n) (Regex.upTo greedy r' n) := by
  induction n with
  | zero => exact .empty
  | succ n ih => exact optional greedy (h.append ih)

theorem anyNumber (greedy : Bool) (h : Lowers r r') :
    Lowers (Regex.anyNumber greedy r) (Regex.anyNumber greedy r') := by
  unfold Regex.anyNumber
  rw [h.nullable_eq]
  split
  · exact optional greedy (h.append (.star greedy h))
  · exact .star greedy h

theorem atLeast (greedy : Bool) (h : Lowers r r') (n : Nat) :
    Lowers (Regex.atLeast greedy r n) (Regex.atLeast greedy r' n) := by
  cases n with
  | zero => exact anyNumber greedy h
  | succ n => exact (h.times n).append (h.append (.star greedy h))

theorem repeated (greedy : Bool) (h : Lowers r r') (min : Nat) (max : Option Nat) :
    Lowers (Regex.repeated greedy min max r) (Regex.repeated greedy min max r') := by
  unfold Regex.repeated
  rw [h.zeroWidth_eq]
  split_ifs
  · exact .empty
  · exact optional greedy h
  · exact h
  · cases max with
    | none => exact atLeast greedy h min
    | some n => exact (h.times min).append (upTo greedy h (n - min))

end Lowers

end Regex

open Shape in
/-- A text that is found is found in small letters. -/
theorem Regex.isSome_captures?_toLower {r r' : Regex} (hr : r.Lowers r') {text : String}
    (h : (r.captures? text).isSome = true) :
    (r'.captures? (String.ofList (text.toList.map Char.toLower))).isSome = true := by
  rw [← String.ofList_toList (s := text), isSome_captures?] at h
  obtain ⟨c, hc⟩ := h
  exact isSome_captures?.mpr ⟨c, hc.toLower hr⟩

end HttpRouting
