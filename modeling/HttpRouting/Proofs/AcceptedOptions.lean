import HttpRouting.Resources
import Mathlib.Data.List.Basic
import Mathlib.Tactic.SplitIfs

/-!
# Checks of further actions and keys

The further actions and the keys of a resource are checked one after the other. A check fails
exactly if something is wrong with one of them, and whatever it accepts has what is asked for.

## Main definitions

* `ResourceOptions.WrongActions`, `ResourceOptions.WrongKeys` — something is wrong with further
  actions or with keys

## Main results

* `ResourceOptions.exists_error_checkActions_iff`, `ResourceOptions.exists_error_checkKeys_iff` —
  when the checks fail
* `ResourceOptions.forall_of_checkActions`, `ResourceOptions.isIdentifier_of_checkKeys` — what they
  accept
-/

namespace HttpRouting.ResourceOptions

/-- Some further action is no word, has no methods, or is one of those before it. -/
def WrongActions (as : List (String × MethodSet)) : Prop :=
  ∃ before a after, as = before ++ a :: after ∧
    (isWord a.1 = false ∨ a.2.isEmpty = true ∨ a.1 ∈ before.map Prod.fst)

/-- The keys are an empty list, or some key is no identifier. -/
def WrongKeys (o : ResourceOptions) : Prop :=
  ∃ keys, o.keys = some keys ∧ (keys = [] ∨ ∃ k ∈ keys, Identifier.isIdentifier k.toList = false)

variable {name : String} {o : ResourceOptions} {kind : ActionKind} {as : List (String × MethodSet)}
  {seen : List String}

/-- Some further action is wrong where some have been seen already. -/
def WrongAfter (seen : List String) (as : List (String × MethodSet)) : Prop :=
  ∃ before a after, as = before ++ a :: after ∧
    (isWord a.1 = false ∨ a.2.isEmpty = true ∨ a.1 ∈ before.map Prod.fst ++ seen)

theorem wrongActions_iff : WrongActions as ↔ WrongAfter [] as := by
  simp only [WrongActions, WrongAfter, List.append_nil]

theorem wrongAfter_cons_iff {a : String × MethodSet} : WrongAfter seen (a :: as) ↔
    (isWord a.1 = false ∨ a.2.isEmpty = true ∨ a.1 ∈ seen) ∨ WrongAfter (a.1 :: seen) as := by
  have hmoved : ∀ (before : List (String × MethodSet)) (action : String),
      action ∈ (a :: before).map Prod.fst ++ seen ↔
        action ∈ before.map Prod.fst ++ a.1 :: seen := by
    intro before action
    rw [List.map_cons, List.cons_append, List.mem_cons, List.mem_append, List.mem_append,
      List.mem_cons, or_left_comm]
  constructor
  · rintro ⟨before, x, after, heq, hwrong⟩
    cases before with
    | nil =>
      obtain ⟨rfl, rfl⟩ := List.cons.inj heq
      exact .inl hwrong
    | cons y before =>
      obtain ⟨rfl, rfl⟩ := List.cons.inj heq
      rw [hmoved] at hwrong
      exact .inr ⟨before, x, after, rfl, hwrong⟩
  · rintro (hwrong | ⟨before, x, after, rfl, hwrong⟩)
    · exact ⟨[], a, as, rfl, hwrong⟩
    · rw [← hmoved] at hwrong
      exact ⟨a :: before, x, after, rfl, hwrong⟩

theorem exists_error_checkActions_iff :
    (∃ e, checkActions name kind seen as = .error e) ↔ WrongAfter seen as := by
  induction as generalizing seen with
  | nil =>
    refine iff_of_false nofun ?_
    rintro ⟨before, a, after, heq, -⟩
    exact List.append_ne_nil_of_right_ne_nil _ (List.cons_ne_nil a after) heq.symm
  | cons a as ih =>
    rw [wrongAfter_cons_iff, ← ih, checkActions]
    split_ifs with hword hmethods hseen
    · exact iff_of_true ⟨_, rfl⟩ (.inl (.inl (by simpa using hword)))
    · exact iff_of_true ⟨_, rfl⟩ (.inl (.inr (.inl hmethods)))
    · exact iff_of_true ⟨_, rfl⟩ (.inl (.inr (.inr hseen)))
    · refine (or_iff_right ?_).symm
      rintro (h | h | h)
      · exact hword (by rw [h]; rfl)
      · exact hmethods h
      · exact hseen h

theorem exists_error_checkKeys_iff :
    (∃ e, checkKeys name o.keys = .error e) ↔ o.WrongKeys := by
  unfold WrongKeys
  cases o.keys with
  | none => exact iff_of_false nofun nofun
  | some keys =>
    simp only [checkKeys, Option.some.injEq, exists_eq_left']
    split_ifs with hempty
    · exact iff_of_true ⟨_, rfl⟩ (.inl (List.isEmpty_iff.mp hempty))
    · rw [or_iff_right (mt List.isEmpty_iff.mpr hempty)]
      cases hfind : keys.find? fun k => !Identifier.isIdentifier k.toList with
      | some k =>
        have hk := List.find?_some hfind
        exact iff_of_true ⟨_, rfl⟩ ⟨k, List.mem_of_find?_eq_some hfind, by simpa using hk⟩
      | none =>
        refine iff_of_false nofun ?_
        rintro ⟨k, hk, hwrong⟩
        exact List.find?_eq_none.mp hfind k hk (by rw [hwrong]; rfl)

/-- Accepted actions are words, and each of them has a method. -/
theorem forall_of_checkActions (h : checkActions name kind seen as = .ok ()) :
    ∀ a ∈ as, isWord a.1 = true ∧ a.2.isEmpty = false := by
  intro a ha
  obtain ⟨before, after, rfl⟩ := List.append_of_mem ha
  have haccepted : ¬∃ e, checkActions name kind seen (before ++ a :: after) = .error e := by
    rw [h]
    exact nofun
  have hright := mt exists_error_checkActions_iff.mpr haccepted
  have hword : isWord a.1 ≠ false := fun hw => hright ⟨before, a, after, rfl, .inl hw⟩
  have hmethods : a.2.isEmpty ≠ true := fun hm => hright ⟨before, a, after, rfl, .inr (.inl hm)⟩
  exact ⟨eq_true_of_ne_false hword, eq_false_of_ne_true hmethods⟩

theorem isWord_of_checkActions (h : checkActions name kind seen as = .ok ()) :
    ∀ a ∈ as, isWord a.1 = true :=
  fun a ha => (forall_of_checkActions h a ha).1

theorem isIdentifier_of_checkKeys {keys : List String} (h : checkKeys name (some keys) = .ok ()) :
    ∀ k ∈ keys, Identifier.isIdentifier k.toList = true := by
  intro k hk
  have haccepted : ¬∃ e, checkKeys name ({ keys := some keys } : ResourceOptions).keys =
      .error e := by
    rintro ⟨e, he⟩
    cases h.symm.trans he
  have hright := mt exists_error_checkKeys_iff.mpr haccepted
  exact eq_true_of_ne_false fun hwrong => hright ⟨keys, rfl, .inr ⟨k, hk, hwrong⟩⟩

end HttpRouting.ResourceOptions
