import HttpRouting.Proofs.Fragment
import HttpRouting.Proofs.Span

/-!
# Paths with values

The path of a literal text matches the texts in which every placeholder has been replaced by some
characters that a placeholder matches. Whether a given text came about in this way, and from which
values, can be told only if no placeholder runs into what follows it. So each placeholder has to
stand at the end or before a separator, a character that no placeholder matches.

## Main definitions

* `IsPart` — a text that a placeholder matches
* `Admits` — a text consists of the characters and of something for each placeholder
* `filled` — a text whose placeholders have been replaced by values
* `Separated` — every placeholder has a name and stands at the end or before a separator

## Main results

* `exists_spans_iff_admits`, `isSome_captures?_ofTokens` — the texts that the path matches
* `Admits.countP_eq` — it matches no text with more separators
* `lookup_of_spans` — it captures the values that the text has been filled with
* `isSome_captures?_filled`, `getElem?_captures?_filled` — the same of a search
-/

namespace HttpRouting

open Placeholder Regex Shape

/-- A character that no placeholder matches. -/
def IsSeparator (c : Char) : Prop := c ∈ separators

instance (c : Char) : Decidable (IsSeparator c) := inferInstanceAs (Decidable (_ ∈ _))

/-- A text that a placeholder matches. -/
def IsPart (t : List Char) : Prop := t ≠ [] ∧ ∀ a ∈ t, ¬IsSeparator a

instance (t : List Char) : Decidable (IsPart t) :=
  @instDecidableAnd _ _ _ (List.decidableBAll _ t)

theorem mem_placeholderSet {c : Char} : c ∈ placeholderSet ↔ ¬IsSeparator c := by
  have hrange : ∀ d : Char, c ∈ CharSet.range d d ↔ c = d := fun d => CharSet.mem_single
  simp only [placeholderSet, separators, IsSeparator, List.foldl_cons, List.foldl_nil,
    CharSet.mem_compl, CharSet.mem_union, CharSet.not_mem_never, hrange, List.mem_cons,
    List.not_mem_nil, or_false, false_or, or_assoc]

/-- Characters and placeholders. -/
abbrev Tokens := List (Char ⊕ Option (List Char))

/-- A text that some characters and placeholders admit: a character stands for itself, and a
placeholder for one or more characters none of which is a separator. -/
inductive Admits : Tokens → List Char → Prop where
  /-- Nothing is left on either side. -/
  | nil : Admits [] []
  /-- A character stands for itself. -/
  | char (c : Char) {xs : Tokens} {t : List Char} (h : Admits xs t) : Admits (.inl c :: xs) (c :: t)
  /-- A placeholder stands for some characters. -/
  | placeholder (name : Option (List Char)) {v : List Char} {xs : Tokens} {t : List Char}
      (hne : v ≠ []) (hv : ∀ a ∈ v, ¬IsSeparator a) (h : Admits xs t) :
      Admits (.inr name :: xs) (v ++ t)

/-- The text in which every placeholder has been replaced by its value. -/
def filled (value : List Char → List Char) : Tokens → List Char
  | [] => []
  | .inl c :: xs => c :: filled value xs
  | .inr (some name) :: xs => value name ++ filled value xs
  | .inr none :: xs => filled value xs

theorem filled_append (value : List Char → List Char) (xs ys : Tokens) :
    filled value (xs ++ ys) = filled value xs ++ filled value ys := by
  induction xs with
  | nil => rfl
  | cons x xs ih =>
    rcases x with a | name | name
    · simp [filled, ih]
    · exact ih
    · simp [filled, ih]

/-- Every placeholder has a name, and stands at the end or before a separator. -/
def Separated : Tokens → Prop
  | [] => True
  | .inl _ :: xs => Separated xs
  | .inr none :: _ => False
  | .inr (some _) :: xs => (∀ x ∈ xs.head?, ∃ c, x = .inl c ∧ IsSeparator c) ∧ Separated xs

instance decidableSeparated : (xs : Tokens) → Decidable (Separated xs)
  | [] => isTrue trivial
  | .inl _ :: xs => decidableSeparated xs
  | .inr none :: _ => isFalse id
  | [.inr (some _)] => isTrue ⟨nofun, trivial⟩
  | .inr (some _) :: .inr _ :: _ => isFalse fun h => by simpa using h.1
  | .inr (some _) :: .inl c :: xs =>
    have := decidableSeparated xs
    decidable_of_iff (IsSeparator c ∧ Separated xs) (by simp [Separated])

/-- A character of the text is a separator. -/
def isSeparator : Char ⊕ Option (List Char) → Bool
  | .inl c => decide (IsSeparator c)
  | .inr _ => false

/-! ### Expressions -/

section Spans

variable {pre mid post : List Char} {c c' : Captures} {n : Nat}

theorem parts_ofTokens_inl (escape : Bool) (a : Char) (xs : Tokens) (n : Nat) :
    (ofTokens escape (.inl a :: xs)).parts n = .char a :: (ofTokens escape xs).parts n := by
  rw [ofTokens]
  split <;> rfl

theorem parts_ofTokens_inr (escape : Bool) (name : Option (List Char)) (xs : Tokens) (n : Nat) :
    (ofTokens escape (.inr name :: xs)).parts n =
      .group (n + 1) placeholderRegex :: (ofTokens escape xs).parts (n + 1) := rfl

/-- The captures behind a placeholder that has been matched. -/
def recorded (c : Captures) (i start stop : Nat) : Captures := (c.openAt i start).closeAt i stop

/-- A placeholder matches a text without separators that is not empty. -/
theorem spans_placeholder {i : Nat} : Spans (.group i placeholderRegex) pre mid post c c' ↔
    mid ≠ [] ∧ (∀ a ∈ mid, ¬IsSeparator a) ∧ c' = recorded c i pre.length (pre ++ mid).length := by
  rw [spans_group]
  have hbody : ∀ c₁, Spans placeholderRegex pre mid post (c.openAt i pre.length) c₁ ↔
      mid ≠ [] ∧ (∀ a ∈ mid, ¬IsSeparator a) ∧ c₁ = c.openAt i pre.length := by
    intro c₁
    rw [placeholderRegex, spans_cat]
    constructor
    · rintro ⟨m₁, m₂, c₂, rfl, hfirst, hrest⟩
      obtain ⟨a, ha, rfl, rfl⟩ := spans_chars.mp hfirst
      obtain ⟨hall, rfl⟩ := spans_star_chars.mp hrest
      refine ⟨by simp, ?_, rfl⟩
      exact List.forall_mem_cons.mpr ⟨mem_placeholderSet.mp ha,
        fun b hb => mem_placeholderSet.mp (hall b hb)⟩
    · rintro ⟨hne, hall, rfl⟩
      obtain ⟨a, m, rfl⟩ := List.exists_cons_of_ne_nil hne
      obtain ⟨ha, hm⟩ := List.forall_mem_cons.mp hall
      exact ⟨[a], m, _, rfl, spans_chars.mpr ⟨a, mem_placeholderSet.mpr ha, rfl, rfl⟩,
        spans_star_chars.mpr ⟨fun b hb => mem_placeholderSet.mpr (hm b hb), rfl⟩⟩
  constructor
  · rintro ⟨c₁, hspans, rfl⟩
    obtain ⟨hne, hall, rfl⟩ := (hbody c₁).mp hspans
    exact ⟨hne, hall, rfl⟩
  · rintro ⟨hne, hall, rfl⟩
    exact ⟨_, (hbody _).mpr ⟨hne, hall, rfl⟩, rfl⟩

/-- What is made of some characters and placeholders matches exactly the texts that they admit. -/
theorem exists_spans_iff_admits {xs : Tokens} :
    (∃ c', Spans (concat ((ofTokens true xs).parts n)) pre mid post c c') ↔ Admits xs mid := by
  -- From the left: what has been matched so far becomes a longer `pre`.
  induction xs generalizing pre mid c n with
  | nil =>
    constructor
    · rintro ⟨c', h⟩
      obtain ⟨rfl, -⟩ := spans_concat_nil.mp h
      exact .nil
    · rintro ⟨⟩
      exact ⟨c, spans_concat_nil.mpr ⟨rfl, rfl⟩⟩
  | cons x xs ih =>
    cases x with
    | inl a =>
      rw [parts_ofTokens_inl]
      constructor
      · rintro ⟨c', h⟩
        obtain ⟨m₁, m₂, c₁, rfl, hchar, hrest⟩ := spans_concat_cons.mp h
        obtain ⟨rfl, rfl⟩ := spans_char.mp hchar
        exact .char a (ih.mp ⟨c', hrest⟩)
      · intro h
        cases h with
        | char _ h =>
          obtain ⟨c', hrest⟩ := ih.mpr h
          exact ⟨c', spans_concat_cons.mpr ⟨[a], _, c, rfl, spans_char.mpr ⟨rfl, rfl⟩, hrest⟩⟩
    | inr name =>
      rw [parts_ofTokens_inr]
      constructor
      · rintro ⟨c', h⟩
        obtain ⟨v, m, c₁, rfl, hplaceholder, hrest⟩ := spans_concat_cons.mp h
        obtain ⟨hne, hv, -⟩ := spans_placeholder.mp hplaceholder
        exact .placeholder name hne hv (ih.mp ⟨c', hrest⟩)
      · intro h
        cases h with
        | placeholder _ hne hv h =>
          obtain ⟨c', hrest⟩ := ih.mpr h
          exact ⟨c', spans_concat_cons.mpr
            ⟨_, _, _, rfl, spans_placeholder.mpr ⟨hne, hv, rfl⟩, hrest⟩⟩

/-- An admitted text has exactly the separators of the path. -/
theorem Admits.countP_eq {xs : Tokens} {t : List Char} (h : Admits xs t) :
    t.countP (decide <| IsSeparator ·) = xs.countP isSeparator := by
  induction h with
  | nil => rfl
  | char c _ ih =>
    rw [List.countP_cons, List.countP_cons, ih]
    rfl
  | @placeholder name v xs t _ hv _ ih =>
    have hnone : v.countP (decide <| IsSeparator ·) = 0 :=
      List.countP_eq_zero.mpr fun a ha => by simpa using hv a ha
    have hname : isSeparator (.inr name) ≠ true := by simp [isSeparator]
    rw [List.countP_append, hnone, ih, Nat.zero_add, List.countP_cons_of_neg hname]

/-- A text that is filled with proper values is admitted. -/
theorem admits_filled {value : List Char → List Char} {xs : Tokens} (hxs : Separated xs)
    (h : ∀ name, .inr (some name) ∈ xs → value name ≠ [] ∧ ∀ a ∈ value name, ¬IsSeparator a) :
    Admits xs (filled value xs) := by
  induction xs with
  | nil => exact .nil
  | cons x xs ih =>
    have hrest : ∀ name, .inr (some name) ∈ xs →
        value name ≠ [] ∧ ∀ a ∈ value name, ¬IsSeparator a :=
      fun name hname => h name (List.mem_cons_of_mem _ hname)
    match x, hxs with
    | .inl a, hxs => exact .char a (ih hxs hrest)
    | .inr (some name), hxs =>
      obtain ⟨hne, hvalue⟩ := h name List.mem_cons_self
      exact .placeholder (some name) hne hvalue (ih hxs.2 hrest)

/-- Values add their separators to those of the path. -/
theorem count_le_filled (value : List Char → List Char) (xs : Tokens) :
    xs.countP isSeparator ≤ (filled value xs).countP (decide <| IsSeparator ·) := by
  induction xs with
  | nil => exact Nat.le_refl 0
  | cons x xs ih =>
    rcases x with a | name | name
    · rw [filled, List.countP_cons, List.countP_cons]
      exact Nat.add_le_add_right ih _
    · exact ih
    · rw [filled, List.countP_append, List.countP_cons_of_neg Bool.false_ne_true]
      exact Nat.le_add_left_of_le ih

/-- A text that has no more separators than the path is filled with values that have none. -/
theorem not_isSeparator_of_count {value : List Char → List Char} {xs : Tokens}
    (h : (filled value xs).countP (decide <| IsSeparator ·) = xs.countP isSeparator)
    {name : List Char} (hname : .inr (some name) ∈ xs) : ∀ a ∈ value name, ¬IsSeparator a := by
  obtain ⟨before, after, rfl⟩ := List.append_of_mem hname
  have hbefore := count_le_filled value before
  have hafter := count_le_filled value after
  have hsplit : filled value (before ++ .inr (some name) :: after) =
      filled value before ++ (value name ++ filled value after) := filled_append _ _ _
  rw [hsplit, List.countP_append, List.countP_append, List.countP_append,
    List.countP_cons_of_neg Bool.false_ne_true] at h
  have hnone : (value name).countP (decide <| IsSeparator ·) = 0 := by omega
  intro a ha
  simpa using List.countP_eq_zero.mp hnone a ha

/-- What is left of a text behind a placeholder starts with a separator, if anything is left. -/
theorem head_of_spans {xs : Tokens} (hxs : ∀ x ∈ xs.head?, ∃ c, x = .inl c ∧ IsSeparator c)
    (h : Spans (concat ((ofTokens true xs).parts n)) pre mid post c c') :
    ∀ a ∈ mid.head?, IsSeparator a := by
  cases xs with
  | nil =>
    obtain ⟨rfl, -⟩ := spans_concat_nil.mp h
    nofun
  | cons x xs =>
    obtain ⟨b, rfl, hb⟩ := hxs x rfl
    rw [parts_ofTokens_inl] at h
    obtain ⟨m₁, m₂, c₁, rfl, hchar, -⟩ := spans_concat_cons.mp h
    obtain ⟨rfl, rfl⟩ := spans_char.mp hchar
    intro a ha
    obtain rfl : b = a := by simpa using ha
    exact hb

theorem head_filled {value : List Char → List Char} {xs : Tokens}
    (hxs : ∀ x ∈ xs.head?, ∃ c, x = .inl c ∧ IsSeparator c) :
    ∀ a ∈ (filled value xs).head?, IsSeparator a := by
  cases xs with
  | nil => nofun
  | cons x xs =>
    obtain ⟨b, rfl, hb⟩ := hxs x rfl
    intro a ha
    obtain rfl : b = a := by simpa [filled] using ha
    exact hb

/-- A text without separators ends where a separator follows. -/
theorem append_inj_of_separator {u u' v v' : List Char} (hu : ∀ a ∈ u, ¬IsSeparator a)
    (hu' : ∀ a ∈ u', ¬IsSeparator a) (hv : ∀ a ∈ v.head?, IsSeparator a)
    (hv' : ∀ a ∈ v'.head?, IsSeparator a) (h : u ++ v = u' ++ v') : u = u' ∧ v = v' := by
  -- Where one text ends and the other goes on, a separator would stand inside the other.
  induction u generalizing u' with
  | nil =>
    cases u' with
    | nil => exact ⟨rfl, h⟩
    | cons a u' =>
      have hhead : a ∈ v.head? := by
        rw [List.nil_append] at h
        rw [h]
        rfl
      exact absurd (hv a hhead) (hu' a List.mem_cons_self)
  | cons a u ih =>
    cases u' with
    | nil =>
      have hhead : a ∈ v'.head? := by
        rw [List.nil_append] at h
        rw [← h]
        rfl
      exact absurd (hv' a hhead) (hu a List.mem_cons_self)
    | cons a' u' =>
      obtain ⟨rfl, htail⟩ := List.cons.inj h
      obtain ⟨rfl, rfl⟩ := ih (fun b hb => hu b (List.mem_cons_of_mem _ hb))
        (fun b hb => hu' b (List.mem_cons_of_mem _ hb)) htail
      exact ⟨rfl, rfl⟩

theorem lookup_recorded (c : Captures) (i start stop j : Nat) :
    (recorded c i start stop).spans.lookup j =
      if j = i then some (start, stop) else c.spans.lookup j := by
  have hspans : (recorded c i start stop).spans = (i, start, stop) :: c.spans := by
    simp [recorded, Captures.openAt, Captures.closeAt]
  by_cases h : j = i
  · simp [hspans, h]
  · rw [hspans, List.lookup_cons, beq_eq_false_iff_ne.mpr h, if_neg h]

/-- A text that has been filled is matched in one way only: every placeholder captures its value,
and no value is empty. -/
theorem lookup_of_spans {value : List Char → List Char} {xs : Tokens} (hxs : Separated xs)
    (hvalue : ∀ name, .inr (some name) ∈ xs → ∀ a ∈ value name, ¬IsSeparator a)
    (h : Spans (concat ((ofTokens true xs).parts n)) pre (filled value xs) post c c') :
    (∀ name, .inr (some name) ∈ xs → value name ≠ []) ∧
      (∀ i ≤ n, c'.spans.lookup i = c.spans.lookup i) ∧
      ∀ before name after, xs = before ++ .inr (some name) :: after →
        c'.spans.lookup (n + before.countP (·.isRight) + 1) =
          some ((pre ++ filled value before).length,
            (pre ++ filled value before ++ value name).length) := by
  -- From the left. Behind a placeholder there is a separator both in the filled text and in what is
  -- left of the match, so the placeholder has read its own value and nothing more.
  induction xs generalizing pre c n with
  | nil =>
    obtain ⟨-, rfl⟩ := spans_concat_nil.mp h
    exact ⟨nofun, fun _ _ => rfl, by simp⟩
  | cons x xs ih =>
    have hrest : ∀ name, .inr (some name) ∈ xs → ∀ a ∈ value name, ¬IsSeparator a :=
      fun name hname => hvalue name (List.mem_cons_of_mem _ hname)
    match x, hxs with
    | .inl a, hxs =>
      rw [parts_ofTokens_inl] at h
      obtain ⟨m₁, m₂, c₁, hmid, hchar, hspans⟩ := spans_concat_cons.mp h
      obtain ⟨rfl, rfl⟩ := spans_char.mp hchar
      obtain ⟨-, rfl⟩ := List.cons.inj hmid
      obtain ⟨hne, hframe, hlookup⟩ := ih hxs hrest hspans
      refine ⟨fun name hname => hne name (by simpa using hname), hframe, ?_⟩
      intro before name after hsplit
      cases before with
      | nil => cases hsplit
      | cons y before =>
        obtain ⟨rfl, htail⟩ := List.cons.inj hsplit
        rw [filled, List.countP_cons_of_neg Bool.false_ne_true, hlookup before name after htail]
        simp
    | .inr (some name), hxs =>
      obtain ⟨hhead, hxs⟩ := hxs
      rw [parts_ofTokens_inr] at h
      obtain ⟨m₁, m₂, c₁, hmid, hplaceholder, hspans⟩ := spans_concat_cons.mp h
      obtain ⟨hne₁, hall, rfl⟩ := spans_placeholder.mp hplaceholder
      obtain ⟨rfl, rfl⟩ := append_inj_of_separator (hvalue name List.mem_cons_self) hall
        (head_filled hhead) (head_of_spans hhead hspans) hmid
      obtain ⟨hne, hframe, hlookup⟩ := ih hxs hrest hspans
      refine ⟨?_, ?_, ?_⟩
      · intro name' hname'
        rcases List.mem_cons.mp hname' with heq | hname'
        · obtain rfl := Option.some.inj (Sum.inr.inj heq)
          exact hne₁
        · exact hne name' hname'
      · intro i hi
        rw [hframe i (Nat.le_succ_of_le hi), lookup_recorded, if_neg (by omega)]
      · intro before name' after hsplit
        cases before with
        | nil =>
          obtain ⟨heq, -⟩ := List.cons.inj hsplit
          obtain rfl := Option.some.inj (Sum.inr.inj heq)
          rw [List.countP_nil, Nat.add_zero, hframe (n + 1) (Nat.le_refl _), lookup_recorded,
            if_pos rfl, filled, List.append_nil]
        | cons y before =>
          obtain ⟨rfl, htail⟩ := List.cons.inj hsplit
          have hindex : n + (before.countP (·.isRight) + 1) + 1 =
              n + 1 + before.countP (·.isRight) + 1 := by omega
          rw [filled, List.countP_cons_of_pos rfl, hindex, hlookup before name' after htail]
          simp

end Spans

/-! ### Whole paths -/

/-- What stands between anchors is about the whole text. -/
theorem spans_anchored {rs : List Regex} {pre mid post : List Char} {c c' : Captures} :
    Spans (concat (.look .textStart :: (rs ++ [.look .textEnd]))) pre mid post c c' ↔
      pre = [] ∧ post = [] ∧ Spans (concat rs) [] mid [] c c' := by
  rw [spans_concat_cons]
  -- The anchors read nothing, and hold only at the two ends of the whole text.
  constructor
  · rintro ⟨m₁, m, c₁, rfl, hstart, h⟩
    obtain ⟨rfl, hpre, rfl⟩ := spans_look.mp hstart
    obtain ⟨m₂, m₃, c₂, rfl, hparts, hend⟩ := spans_concat_append.mp h
    obtain ⟨m₄, m₅, c₃, rfl, hlook, hnil⟩ := spans_concat_cons.mp hend
    obtain ⟨rfl, rfl⟩ := spans_concat_nil.mp hnil
    obtain ⟨rfl, hpost, rfl⟩ := spans_look.mp hlook
    obtain rfl : pre = [] := by simpa [Assertion.holds] using hpre
    obtain rfl : post = [] := by simpa [Assertion.holds] using hpost
    exact ⟨rfl, rfl, by simpa using hparts⟩
  · rintro ⟨rfl, rfl, hparts⟩
    refine ⟨[], mid, c, rfl, spans_look.mpr ⟨rfl, rfl, rfl⟩, ?_⟩
    refine spans_concat_append.mpr ⟨mid, [], c', (List.append_nil mid).symm, hparts, ?_⟩
    exact spans_concat_cons.mpr ⟨[], [], c', rfl, spans_look.mpr ⟨rfl, rfl, rfl⟩,
      spans_concat_nil.mpr ⟨rfl, rfl⟩⟩

/-- A search finds what is spanned between anchors. -/
theorem found_anchored {rs : List Regex} {text : List Char} {c : Captures} :
    Found (concat (.look .textStart :: (rs ++ [.look .textEnd]))) text c ↔
      ∃ c', Spans (concat rs) [] text [] (({} : Captures).openAt 0 0) c' ∧
        c = c'.closeAt 0 text.length := by
  constructor
  · rintro ⟨u, v, w, rfl, h⟩
    obtain ⟨c', hspans, rfl⟩ := spans_group.mp h
    obtain ⟨rfl, rfl, hparts⟩ := spans_anchored.mp hspans
    exact ⟨c', by simpa using hparts, by simp⟩
  · rintro ⟨c', hspans, rfl⟩
    refine ⟨[], text, [], by simp, spans_group.mpr ⟨c', ?_, rfl⟩⟩
    exact spans_anchored.mpr ⟨rfl, rfl, hspans⟩

/-- A search finds what the condition on a path spans. -/
theorem found_regex {s : Shape} {text : List Char} {c : Captures} :
    Found s.regex text c ↔
      ∃ c', Spans (concat (s.parts 0)) [] text [] (({} : Captures).openAt 0 0) c' ∧
        c = c'.closeAt 0 text.length := found_anchored

variable {value : List Char → List Char} {xs : Tokens}

theorem isSome_captures? {r : Regex} {text : List Char} :
    (r.captures? (String.ofList text)).isSome = true ↔ ∃ c, Found r text c := by
  rw [Regex.captures?, Option.isSome_map, String.toList_ofList]
  constructor
  · intro h
    obtain ⟨c, hc⟩ := Option.isSome_iff_exists.mp h
    exact ⟨c, found_of_search? hc⟩
  · rintro ⟨c, hc⟩
    exact isSome_search? hc

/-- A text that is admitted after it has been filled has been filled with values without
separators. -/
theorem not_isSeparator_of_admits (h : Admits xs (filled value xs)) :
    ∀ name, .inr (some name) ∈ xs → ∀ a ∈ value name, ¬IsSeparator a :=
  fun _ hname => not_isSeparator_of_count h.countP_eq hname

/-- A search finds exactly the texts that the path admits. -/
theorem isSome_captures?_ofTokens {t : List Char} :
    ((ofTokens true xs).regex.captures? (String.ofList t)).isSome = true ↔ Admits xs t := by
  rw [isSome_captures?, ← exists_spans_iff_admits]
  constructor
  · rintro ⟨c, hc⟩
    obtain ⟨c', hspans, -⟩ := found_regex.mp hc
    exact ⟨c', hspans⟩
  · rintro ⟨c', hspans⟩
    exact ⟨_, found_regex.mpr ⟨c', hspans, rfl⟩⟩

/-- A filled text is found exactly if it has been filled with proper values. -/
theorem isSome_captures?_filled (hxs : Separated xs) :
    ((ofTokens true xs).regex.captures? (String.ofList (filled value xs))).isSome = true ↔
      ∀ name, .inr (some name) ∈ xs → value name ≠ [] ∧ ∀ a ∈ value name, ¬IsSeparator a := by
  rw [isSome_captures?_ofTokens]
  constructor
  · intro h name hname
    have hvalue := not_isSeparator_of_admits h
    obtain ⟨c', hspans⟩ := (@exists_spans_iff_admits [] _ [] {} 0 xs).mpr h
    exact ⟨(lookup_of_spans hxs hvalue hspans).1 name hname, hvalue name hname⟩
  · exact admits_filled hxs

theorem groups_ofTokens (escape : Bool) (xs : Tokens) :
    (ofTokens escape xs).groups = xs.countP (·.isRight) := by
  induction xs with
  | nil => rfl
  | cons x xs ih =>
    cases x with
    | inl a =>
      rw [ofTokens, groups, ih, List.countP_cons_of_neg Bool.false_ne_true]
      split <;> exact Nat.zero_add _
    | inr name =>
      rw [ofTokens, groups, ih, List.countP_cons_of_pos rfl]
      exact Nat.add_comm _ _

/-- What is captured from a filled text are the values. -/
theorem getElem?_captures?_filled (hxs : Separated xs) {groups : List (Option String)}
    (h : (ofTokens true xs).regex.captures? (String.ofList (filled value xs)) = some groups)
    {before after : Tokens} {name : List Char} (hsplit : xs = before ++ .inr (some name) :: after) :
    groups[before.countP (·.isRight) + 1]? = some (some (String.ofList (value name))) := by
  rw [Regex.captures?, String.toList_ofList] at h
  obtain ⟨c, hsearch, rfl⟩ := Option.map_eq_some_iff.mp h
  obtain ⟨c', hspans, rfl⟩ := found_regex.mp (found_of_search? hsearch)
  have hvalue := not_isSeparator_of_admits (exists_spans_iff_admits.mp ⟨c', hspans⟩)
  have hat := (lookup_of_spans hxs hvalue hspans).2.2 before name after hsplit
  have hgroups : before.countP (·.isRight) + 1 <
      (List.range ((ofTokens true xs).regex.groupCount + 1)).length := by
    rw [List.length_range, groupCount_regex, groups_ofTokens, hsplit, List.countP_append,
      List.countP_cons_of_pos rfl]
    omega
  have htext : filled value xs = filled value before ++ (value name ++ filled value after) := by
    rw [hsplit]
    exact filled_append value before _
  have hclose : (c'.closeAt 0 (filled value xs).length).spans.lookup
      (before.countP (·.isRight) + 1) = c'.spans.lookup (before.countP (·.isRight) + 1) := rfl
  rw [Nat.zero_add] at hat
  rw [List.getElem?_map, List.getElem?_eq_getElem hgroups, List.getElem_range, Option.map_some,
    hclose, hat, htext]
  simp

end HttpRouting
