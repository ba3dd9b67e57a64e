import HttpRouting.Proofs.Fragment
import Mathlib.Data.List.TakeWhile

/-!
# Seams

The placeholders of a text are read from left to right, each as far as it goes. A text that is put
together from fragments has the placeholders of its fragments, unless a fragment goes on with the
token that the text in front of it ends with: a name may become longer, and a colon at the end may
become a placeholder.

## Main definitions

* `Segment.Continues` — a text goes on with the last token of another
* `Segment.Unbroken` — no fragment of a text is continued by what follows it

## Main results

* `Segment.exists_first` — the first token of a text and of longer texts
* `Segment.tokens_append`, `Segment.Continues.not_isPrefix` — what becomes of the tokens of a text
* `Segment.tokens_flatten_iff` — the tokens of the whole are those of its fragments
-/

namespace HttpRouting

namespace Identifier

variable {cs ds name rest : List Char}

theorem exists_of_read? (h : read? cs = some (name, rest)) :
    ∃ c cs', cs = c :: cs' ∧ isStart c = true ∧ name = c :: cs'.takeWhile isRest ∧
      rest = cs'.dropWhile isRest := by
  cases cs with
  | nil => cases h
  | cons c cs =>
    rw [read?] at h
    split at h
    · next hstart =>
      obtain ⟨rfl, rfl⟩ := Prod.mk.inj (Option.some.inj h)
      exact ⟨c, cs, rfl, hstart, rfl, rfl⟩
    · cases h

/-- A run of characters that nothing of the kind follows is read as a whole. -/
theorem takeWhile_append_of_all {p : Char → Bool} (hcs : ∀ c ∈ cs, p c = true)
    (hrest : ∀ c ∈ rest.head?, p c = false) :
    (cs ++ rest).takeWhile p = cs ∧ (cs ++ rest).dropWhile p = rest := by
  obtain ⟨htake, hdrop⟩ := Shape.takeWhile_eq_nil hrest
  rw [List.takeWhile_append_of_pos hcs, List.dropWhile_append_of_pos hcs, htake, hdrop,
    List.append_nil]
  exact ⟨rfl, rfl⟩

theorem isRest_of_isIdentifier (h : isIdentifier name = true) :
    ∀ c ∈ name, isRest c = true := by
  cases name with
  | nil => cases h
  | cons c name =>
    obtain ⟨hc, hname⟩ := Bool.and_eq_true_iff.mp h
    exact List.forall_mem_cons.mpr
      ⟨Shape.isRest_of_isStart hc, fun d hd => List.all_eq_true.mp hname d hd⟩

/-- The identifier that is read is the longest one. -/
theorem read?_eq_some_iff : read? cs = some (name, rest) ↔
    isIdentifier name = true ∧ cs = name ++ rest ∧
      ∀ c ∈ rest.head?, isRest c = false := by
  constructor
  · intro h
    refine ⟨Shape.isIdentifier_of_read? h, (append_of_read? h).symm, fun c hc => ?_⟩
    cases cs with
    | nil => cases h
    | cons d cs =>
      rw [read?] at h
      split at h
      · obtain ⟨-, rfl⟩ := Prod.mk.inj (Option.some.inj h)
        have hstop := List.head?_dropWhile_not isRest cs
        rw [Option.mem_def.mp hc] at hstop
        simpa using hstop
      · cases h
  · rintro ⟨hname, rfl, hrest⟩
    cases name with
    | nil => cases hname
    | cons c name =>
      obtain ⟨hstart, hname⟩ := Bool.and_eq_true_iff.mp hname
      obtain ⟨htake, hdrop⟩ := takeWhile_append_of_all (List.all_eq_true.mp hname) hrest
      rw [List.cons_append, read?, if_pos hstart, htake, hdrop]

/-- An identifier is read as a whole. -/
theorem read?_of_isIdentifier (h : isIdentifier cs = true) : read? cs = some (cs, []) :=
  read?_eq_some_iff.mpr ⟨h, (List.append_nil cs).symm, nofun⟩

/-- A name that ends before the end of a text ends there in a longer text, too. -/
theorem read?_append_of_ne_nil (h : read? cs = some (name, rest)) (hrest : rest ≠ [])
    (ds : List Char) : read? (cs ++ ds) = some (name, rest ++ ds) := by
  obtain ⟨c, cs, rfl, hstart, rfl, rfl⟩ := exists_of_read? h
  have hlength : ¬(cs.takeWhile isRest).length = cs.length := by
    intro hall
    have hsplit := congrArg List.length (List.takeWhile_append_dropWhile (p := isRest) (l := cs))
    rw [List.length_append] at hsplit
    exact hrest (List.length_eq_zero_iff.mp (by omega))
  rw [List.cons_append, read?, if_pos hstart, List.takeWhile_append, if_neg hlength,
    List.dropWhile_append, if_neg (by simpa using hrest)]

/-- A name that a text ends with goes on as far as it can. -/
theorem read?_append_of_nil (h : read? cs = some (name, [])) (ds : List Char) :
    read? (cs ++ ds) = some (name ++ ds.takeWhile isRest, ds.dropWhile isRest) := by
  obtain ⟨c, cs, rfl, hstart, rfl, hnil⟩ := exists_of_read? h
  have hall : ∀ a ∈ cs, isRest a = true := List.dropWhile_eq_nil_iff.mp hnil.symm
  rw [List.cons_append, read?, if_pos hstart, List.takeWhile_append_of_pos hall,
    List.dropWhile_append_of_pos hall, List.takeWhile_eq_self_iff.mpr hall, List.cons_append]

end Identifier

open Placeholder Identifier

namespace Segment

variable {cs ds rest : List Char} {name : Option (List Char)}

/-! ### One placeholder -/

theorem token?_eq_some_iff : token? cs = some (name, rest) ↔
    (∃ n, name = some n ∧ read? cs = some (n, rest)) ∨ name = none ∧ cs = ':' :: rest := by
  have hcolon : ∀ es : List Char, read? (':' :: es) = none := fun _ => rfl
  unfold token?
  constructor
  · intro h
    split at h
    · next hread =>
      obtain ⟨rfl, rfl⟩ := Prod.mk.inj (Option.some.inj h)
      exact .inl ⟨_, rfl, hread⟩
    · split at h
      · obtain ⟨rfl, rfl⟩ := Prod.mk.inj (Option.some.inj h)
        exact .inr ⟨rfl, rfl⟩
      · cases h
  · rintro (⟨n, rfl, hread⟩ | ⟨rfl, rfl⟩)
    · rw [hread]
    · rw [hcolon]
      rfl

/-- A colon starts a placeholder if a name or another colon follows. -/
theorem token?_cons_eq_none_iff {c : Char} :
    token? (c :: cs) = none ↔ isStart c = false ∧ c ≠ ':' := by
  constructor
  · intro hnone
    rw [Option.eq_none_iff_forall_ne_some] at hnone
    refine ⟨Bool.eq_false_iff.mpr fun hstart => ?_, ?_⟩
    · exact hnone _ (token?_eq_some_iff.mpr (.inl ⟨_, rfl, if_pos hstart⟩))
    · rintro rfl
      exact hnone _ (token?_eq_some_iff.mpr (.inr ⟨rfl, rfl⟩))
  · rintro ⟨hstart, hc⟩
    exact Shape.token?_eq_none (Shape.read?_eq_none (by simpa using hstart)) (by simpa using hc)

/-- A placeholder is read from a longer text in the same way, unless its name goes on. -/
theorem token?_append (h : token? cs = some (name, rest))
    (hends : rest = [] → name.isSome = true → ∀ d ∈ ds.head?, isRest d = false) :
    token? (cs ++ ds) = some (name, rest ++ ds) := by
  rw [token?_eq_some_iff] at h ⊢
  rcases h with ⟨n, rfl, hread⟩ | ⟨rfl, rfl⟩
  · refine .inl ⟨n, rfl, ?_⟩
    by_cases hrest : rest = []
    · subst hrest
      obtain ⟨htake, hdrop⟩ := Shape.takeWhile_eq_nil (hends rfl rfl)
      rw [read?_append_of_nil hread, htake, hdrop, List.append_nil, List.nil_append]
    · exact read?_append_of_ne_nil hread hrest ds
  · exact .inr ⟨rfl, rfl⟩

/-- A name that goes on becomes another name. -/
theorem token?_append_of_isRest {n : List Char} (h : token? cs = some (some n, [])) {d : Char}
    (hd : d ∈ ds.head?) (hrest : isRest d = true) :
    ∃ n' rest', token? (cs ++ ds) = some (some n', rest') ∧ n' ≠ n := by
  rcases token?_eq_some_iff.mp h with ⟨n', heq, hread⟩ | ⟨hnone, -⟩
  · obtain rfl := Option.some.inj heq
    refine ⟨_, _, token?_eq_some_iff.mpr (.inl ⟨_, rfl, read?_append_of_nil hread ds⟩), ?_⟩
    obtain ⟨ds', rfl⟩ := List.head?_eq_some_iff.mp hd
    simp [hrest]
  · cases hnone

/-! ### Tokens -/

/-- A character goes on with a token: it makes a name longer, or a placeholder of a colon. -/
def goesOn : Char ⊕ Option (List Char) → Char → Bool
  | .inr (some _), d => isRest d
  | .inr none, _ => false
  | .inl c, d => c == ':' && (d == ':' || isStart d)

/-- A text goes on with the last token of the text in front of it. -/
def Continues (cs ds : List Char) : Prop :=
  ∃ x ∈ (tokens cs).getLast?, ∃ d ∈ ds.head?, goesOn x d = true

instance (cs ds : List Char) : Decidable (Continues cs ds) :=
  decidable_of_iff (((tokens cs).getLast?.any fun x => ds.head?.any (goesOn x)) = true)
    (by simp [Continues, Option.any_eq_true])

theorem tokens_eq_nil : tokens cs = [] ↔ cs = [] := by
  fun_cases tokens cs <;> simp

/-- The last token of a text is that of what is left behind its first token. -/
theorem Continues.cons {x : Char ⊕ Option (List Char)} {cs' : List Char} (h : Continues rest ds)
    (hcs' : tokens cs' = x :: tokens rest) : Continues cs' ds := by
  obtain ⟨y, hy, d, hd, hgoes⟩ := h
  refine ⟨y, ?_, d, hd, hgoes⟩
  rw [hcs', List.getLast?_cons, hy]
  rfl

theorem Continues.of_cons {x : Char ⊕ Option (List Char)} {cs' : List Char} (h : Continues cs' ds)
    (hcs' : tokens cs' = x :: tokens rest) (hrest : rest ≠ []) : Continues rest ds := by
  obtain ⟨y, hy, d, hd, hgoes⟩ := h
  obtain ⟨z, zs, hz⟩ := List.exists_cons_of_ne_nil (mt tokens_eq_nil.mp hrest)
  refine ⟨y, ?_, d, hd, hgoes⟩
  rwa [hcs', hz, List.getLast?_cons_cons, ← hz] at hy

/-- The first token of a text, and what is left behind it. It is the first token of every longer
text as well, unless nothing is left and the longer text goes on with it. -/
theorem exists_first (hcs : cs ≠ []) : ∃ x rest, rest.length < cs.length ∧
    tokens cs = x :: tokens rest ∧ ∀ ds : List Char,
      ((rest = [] → ∀ d ∈ ds.head?, goesOn x d = false) →
        tokens (cs ++ ds) = x :: tokens (rest ++ ds)) ∧
      (rest = [] → ∀ d ∈ ds.head?, goesOn x d = true → ¬[x] <+: tokens (cs ++ ds)) := by
  obtain ⟨c, cs, rfl⟩ := List.exists_cons_of_ne_nil hcs
  -- Only a colon can start anything but a character, and whether it does is known when a character
  -- follows that its name cannot go on with.
  by_cases hc : c = ':'
  · subst hc
    cases htoken : token? cs with
    | some p =>
      obtain ⟨name, rest⟩ := p
      refine ⟨.inr name, rest, Nat.lt_succ_of_lt (length_lt_of_token? htoken),
        tokens_token htoken, fun ds => ⟨fun hends => ?_, ?_⟩⟩
      · have happend : token? (cs ++ ds) = some (name, rest ++ ds) := by
          refine token?_append htoken fun hrest hname => ?_
          obtain ⟨n, rfl⟩ := Option.isSome_iff_exists.mp hname
          exact hends hrest
        rw [List.cons_append, tokens_token happend]
      · rintro rfl d hd hgoes
        cases name with
        | none => cases hgoes
        | some n =>
          obtain ⟨n', rest', happend, hne⟩ := token?_append_of_isRest htoken hd hgoes
          rw [List.cons_append, tokens_token happend, List.cons_prefix_cons]
          rintro ⟨heq, -⟩
          exact hne (Option.some.inj (Sum.inr.inj heq)).symm
    | none =>
      refine ⟨.inl ':', cs, Nat.lt_succ_self _, tokens_cons fun _ => htoken,
        fun ds => ⟨fun hends => ?_, ?_⟩⟩
      · have happend : token? (cs ++ ds) = none := by
          cases cs with
          | cons c cs => exact token?_cons_eq_none_iff.mpr (token?_cons_eq_none_iff.mp htoken)
          | nil =>
            cases ds with
            | nil => exact htoken
            | cons d ds =>
              refine token?_cons_eq_none_iff.mpr ?_
              simpa [goesOn, and_comm] using hends rfl d rfl
        rw [List.cons_append, tokens_cons fun _ => happend]
      · rintro rfl d hd hgoes
        obtain ⟨ds', rfl⟩ := List.head?_eq_some_iff.mp hd
        have hsome : token? (d :: ds') ≠ none := by
          rw [Ne, token?_cons_eq_none_iff]
          rintro ⟨hstart, hne⟩
          simp [goesOn, hstart, hne] at hgoes
        obtain ⟨⟨name, rest⟩, htoken⟩ := Option.ne_none_iff_exists'.mp hsome
        rw [List.singleton_append, tokens_token htoken, List.cons_prefix_cons]
        rintro ⟨heq, -⟩
        cases heq
  · refine ⟨.inl c, cs, Nat.lt_succ_self _, tokens_cons fun hcolon => absurd hcolon hc,
      fun ds => ⟨fun _ => tokens_cons fun hcolon => absurd hcolon hc, fun _ d _ hgoes => ?_⟩⟩
    simp [goesOn, hc] at hgoes

/-- A text that does not go on with the last token in front of it can be read by itself. -/
theorem tokens_append {cs : List Char} (h : ¬Continues cs ds) :
    tokens (cs ++ ds) = tokens cs ++ tokens ds := by
  by_cases hcs : cs = []
  · rw [hcs, tokens_eq_nil.mpr rfl]
    rfl
  · obtain ⟨x, rest, hlt, hfirst, hlonger⟩ := exists_first hcs
    have hends : rest = [] → ∀ d ∈ ds.head?, goesOn x d = false := by
      rintro rfl d hd
      refine Bool.eq_false_iff.mpr fun hgoes => h ⟨x, ?_, d, hd, hgoes⟩
      rw [hfirst, tokens_eq_nil.mpr rfl]
      rfl
    rw [(hlonger ds).1 hends, hfirst, tokens_append fun hrest => h (hrest.cons hfirst),
      List.cons_append]
termination_by cs.length

/-- A text that goes on with the last token in front of it changes that token. -/
theorem Continues.not_isPrefix {cs : List Char} (h : Continues cs ds) :
    ¬tokens cs <+: tokens (cs ++ ds) := by
  have hcs : cs ≠ [] := by
    rintro rfl
    obtain ⟨x, hx, -⟩ := h
    rw [tokens_eq_nil.mpr rfl] at hx
    cases hx
  obtain ⟨x, rest, hlt, hfirst, hlonger⟩ := exists_first hcs
  by_cases hrest : rest = []
  · obtain ⟨y, hy, d, hd, hgoes⟩ := h
    rw [hfirst, hrest, tokens_eq_nil.mpr rfl] at hy ⊢
    obtain rfl : x = y := Option.some.inj hy
    exact (hlonger ds).2 hrest d hd hgoes
  · rw [(hlonger ds).1 fun hnil => absurd hnil hrest, hfirst, List.cons_prefix_cons]
    exact fun hprefix => (h.of_cons hfirst hrest).not_isPrefix hprefix.2
termination_by cs.length

/-! ### Fragments -/

/-- None of some texts is continued by those that follow it. -/
def Unbroken : List (List Char) → Prop
  | [] => True
  | cs :: css => ¬Continues cs css.flatten ∧ Unbroken css

instance decidableUnbroken : (css : List (List Char)) → Decidable (Unbroken css)
  | [] => isTrue trivial
  | cs :: css =>
    have := decidableUnbroken css
    inferInstanceAs (Decidable (¬Continues cs css.flatten ∧ Unbroken css))

/-- A text has the tokens of its fragments exactly if none of them is continued. -/
theorem tokens_flatten_iff {css : List (List Char)} :
    tokens css.flatten = css.flatMap tokens ↔ Unbroken css := by
  induction css with
  | nil => exact iff_of_true (tokens_eq_nil.mpr rfl) trivial
  | cons cs css ih =>
    rw [List.flatten_cons, List.flatMap_cons, Unbroken, ← ih]
    constructor
    · intro h
      have hcontinues : ¬Continues cs css.flatten := fun hcontinues =>
        hcontinues.not_isPrefix ⟨_, h.symm⟩
      rw [tokens_append hcontinues] at h
      exact ⟨hcontinues, List.append_cancel_left h⟩
    · rintro ⟨hcontinues, h⟩
      rw [tokens_append hcontinues, h]

theorem not_continues_of_closed (h : Shape.Closed ds) (cs : List Char) : ¬Continues cs ds := by
  rintro ⟨x, -, d, hd, hgoes⟩
  obtain ⟨hrest, hcolon⟩ := h d hd
  have hstart := Shape.isStart_of_isRest hrest
  rcases x with c | name | name
  · simp [goesOn, hcolon, hstart] at hgoes
  · cases hgoes
  · rw [goesOn, hrest] at hgoes
    cases hgoes

end Segment

end HttpRouting
