import HttpRouting.Proofs.Search

/-!
# What expressions match

The work of an expression is done step by step. This file puts the steps together again: what an
expression spans is told by what its parts span. A sequence of parts is read from left to right, and
a group records the text that its part has read.

## Main results

* `Regex.covers_append` — work in sequence covers texts in sequence
* `Regex.spans_cat`, `Regex.spans_group`, … — what each kind of expression spans
* `Regex.spans_concat_cons` — what a list of parts spans
* `Regex.spans_star_chars` — an iteration spans the texts over a set of characters
-/

namespace HttpRouting.Regex

variable {pre mid post : List Char} {k l : List Task} {c c' : Captures} {r s : Regex}

/-- What covers some work covers its two halves one after the other. -/
theorem Covers.split {w : List Task} (h : Covers pre mid post w c c') (hw : k ++ l = w) :
    ∃ m₁ m₂ c₁, mid = m₁ ++ m₂ ∧ Covers pre m₁ (m₂ ++ post) k c c₁ ∧
      Covers (pre ++ m₁) m₂ post l c₁ c' := by
  have first : ∀ {pre mid post : List Char} {c c' : Captures}, Covers pre mid post l c c' →
      ∃ m₁ m₂ c₁, mid = m₁ ++ m₂ ∧ Covers pre m₁ (m₂ ++ post) [] c c₁ ∧
        Covers (pre ++ m₁) m₂ post l c₁ c' := by
    intro pre mid post c c' h
    exact ⟨[], mid, c, rfl, .done _ _ _, by simpa using h⟩
  -- Along the work: either the first half is over already, or it starts with the task at hand. What
  -- that task leaves to do comes before the rest of the first half.
  induction h generalizing k with
  | done =>
    obtain ⟨rfl, rfl⟩ := List.append_eq_nil_iff.mp hw
    exact first (.done _ _ _)
  | chars mem h ih =>
    rcases List.append_eq_cons_iff.mp hw with ⟨rfl, rfl⟩ | ⟨k, rfl, rfl⟩
    · exact first (.chars mem h)
    · obtain ⟨m₁, m₂, c₁, rfl, h₁, h₂⟩ := ih rfl
      exact ⟨_ :: m₁, m₂, c₁, rfl, .chars mem h₁, by simpa using h₂⟩
  | look holds h ih =>
    rcases List.append_eq_cons_iff.mp hw with ⟨rfl, rfl⟩ | ⟨k, rfl, rfl⟩
    · exact first (.look holds h)
    · obtain ⟨m₁, m₂, c₁, rfl, h₁, h₂⟩ := ih rfl
      rw [List.append_assoc] at holds
      exact ⟨m₁, m₂, c₁, rfl, .look holds h₁, h₂⟩
  | close h ih =>
    rcases List.append_eq_cons_iff.mp hw with ⟨rfl, rfl⟩ | ⟨k, rfl, rfl⟩
    · exact first (.close h)
    · obtain ⟨m₁, m₂, c₁, rfl, h₁, h₂⟩ := ih rfl
      exact ⟨m₁, m₂, c₁, rfl, .close h₁, h₂⟩
  | empty h ih =>
    rcases List.append_eq_cons_iff.mp hw with ⟨rfl, rfl⟩ | ⟨k, rfl, rfl⟩
    · exact first (.empty h)
    · obtain ⟨m₁, m₂, c₁, rfl, h₁, h₂⟩ := ih rfl
      exact ⟨m₁, m₂, c₁, rfl, .empty h₁, h₂⟩
  | group h ih =>
    rcases List.append_eq_cons_iff.mp hw with ⟨rfl, rfl⟩ | ⟨k, rfl, rfl⟩
    · exact first (.group h)
    · obtain ⟨m₁, m₂, c₁, rfl, h₁, h₂⟩ := ih (k := .run _ :: .close _ :: k) rfl
      exact ⟨m₁, m₂, c₁, rfl, .group h₁, h₂⟩
  | cat h ih =>
    rcases List.append_eq_cons_iff.mp hw with ⟨rfl, rfl⟩ | ⟨k, rfl, rfl⟩
    · exact first (.cat h)
    · obtain ⟨m₁, m₂, c₁, rfl, h₁, h₂⟩ := ih (k := .run _ :: .run _ :: k) rfl
      exact ⟨m₁, m₂, c₁, rfl, .cat h₁, h₂⟩
  | left h ih =>
    rcases List.append_eq_cons_iff.mp hw with ⟨rfl, rfl⟩ | ⟨k, rfl, rfl⟩
    · exact first (.left h)
    · obtain ⟨m₁, m₂, c₁, rfl, h₁, h₂⟩ := ih (k := .run _ :: k) rfl
      exact ⟨m₁, m₂, c₁, rfl, .left h₁, h₂⟩
  | right h ih =>
    rcases List.append_eq_cons_iff.mp hw with ⟨rfl, rfl⟩ | ⟨k, rfl, rfl⟩
    · exact first (.right h)
    · obtain ⟨m₁, m₂, c₁, rfl, h₁, h₂⟩ := ih (k := .run _ :: k) rfl
      exact ⟨m₁, m₂, c₁, rfl, .right h₁, h₂⟩
  | stop h ih =>
    rcases List.append_eq_cons_iff.mp hw with ⟨rfl, rfl⟩ | ⟨k, rfl, rfl⟩
    · exact first (.stop h)
    · obtain ⟨m₁, m₂, c₁, rfl, h₁, h₂⟩ := ih rfl
      exact ⟨m₁, m₂, c₁, rfl, .stop h₁, h₂⟩
  | more h ih =>
    rcases List.append_eq_cons_iff.mp hw with ⟨rfl, rfl⟩ | ⟨k, rfl, rfl⟩
    · exact first (.more h)
    · obtain ⟨m₁, m₂, c₁, rfl, h₁, h₂⟩ := ih (k := .run _ :: .run _ :: k) rfl
      exact ⟨m₁, m₂, c₁, rfl, .more h₁, h₂⟩

/-- Work in sequence covers texts in sequence. -/
theorem Covers.append {rest m₁ m₂ : List Char} {c₁ : Captures} (hk : Covers pre m₁ rest k c c₁)
    (hl : Covers (pre ++ m₁) m₂ post l c₁ c') (hrest : rest = m₂ ++ post) :
    Covers pre (m₁ ++ m₂) post (k ++ l) c c' := by
  induction hk with
  | done => simpa using hl
  | chars mem _ ih => exact .chars mem (ih (by simpa using hl) hrest)
  | look holds _ ih =>
    subst hrest
    rw [← List.append_assoc] at holds
    exact .look holds (ih hl rfl)
  | close _ ih => exact .close (ih hl hrest)
  | empty _ ih => exact .empty (ih hl hrest)
  | group _ ih => exact .group (ih hl hrest)
  | cat _ ih => exact .cat (ih hl hrest)
  | left _ ih => exact .left (ih hl hrest)
  | right _ ih => exact .right (ih hl hrest)
  | stop _ ih => exact .stop (ih hl hrest)
  | more _ ih => exact .more (ih hl hrest)

theorem covers_append : Covers pre mid post (k ++ l) c c' ↔
    ∃ m₁ m₂ c₁, mid = m₁ ++ m₂ ∧ Covers pre m₁ (m₂ ++ post) k c c₁ ∧
      Covers (pre ++ m₁) m₂ post l c₁ c' := by
  constructor
  · exact fun h => h.split rfl
  · rintro ⟨m₁, m₂, c₁, rfl, hk, hl⟩
    exact hk.append hl rfl

/-! ### One expression -/

theorem covers_nil : Covers pre mid post [] c c' ↔ mid = [] ∧ c' = c := by
  constructor
  · rintro ⟨⟩
    exact ⟨rfl, rfl⟩
  · rintro ⟨rfl, rfl⟩
    exact .done _ _ _

theorem covers_cons : Covers pre mid post (.run r :: k) c c' ↔
    ∃ m₁ m₂ c₁, mid = m₁ ++ m₂ ∧ Spans r pre m₁ (m₂ ++ post) c c₁ ∧
      Covers (pre ++ m₁) m₂ post k c₁ c' := covers_append (k := [.run r])

theorem spans_empty : Spans empty pre mid post c c' ↔ mid = [] ∧ c' = c := by
  constructor
  · intro h
    cases h with
    | empty h => exact covers_nil.mp h
  · exact fun h => .empty (covers_nil.mpr h)

theorem spans_chars {set : CharSet} :
    Spans (chars set) pre mid post c c' ↔ ∃ a ∈ set, mid = [a] ∧ c' = c := by
  constructor
  · intro h
    cases h with
    | chars mem h =>
      obtain ⟨rfl, rfl⟩ := covers_nil.mp h
      exact ⟨_, mem, rfl, rfl⟩
  · rintro ⟨a, mem, rfl, rfl⟩
    exact .chars mem (.done _ _ _)

theorem spans_char {a : Char} : Spans (char a) pre mid post c c' ↔ mid = [a] ∧ c' = c := by
  simp [char, spans_chars]

theorem spans_look {a : Assertion} : Spans (look a) pre mid post c c' ↔
    mid = [] ∧ a.holds pre.getLast? post.head? = true ∧ c' = c := by
  constructor
  · intro h
    cases h with
    | look holds h =>
      obtain ⟨rfl, rfl⟩ := covers_nil.mp h
      exact ⟨rfl, holds, rfl⟩
  · rintro ⟨rfl, holds, rfl⟩
    exact .look holds (.done _ _ _)

/-- A group records where its part has begun and ended. -/
theorem spans_group {i : Nat} : Spans (group i r) pre mid post c c' ↔
    ∃ c₁, Spans r pre mid post (c.openAt i pre.length) c₁ ∧
      c' = c₁.closeAt i (pre ++ mid).length := by
  constructor
  · intro h
    cases h with
    | group h =>
      obtain ⟨m₁, m₂, c₁, rfl, hr, hclose⟩ := covers_cons.mp h
      cases hclose with
      | close h =>
        obtain ⟨rfl, rfl⟩ := covers_nil.mp h
        rw [List.append_nil]
        exact ⟨c₁, hr, rfl⟩
  · rintro ⟨c₁, hr, rfl⟩
    refine .group (covers_cons.mpr ⟨mid, [], c₁, (List.append_nil mid).symm, hr, ?_⟩)
    exact .close (.done _ _ _)

theorem spans_cat : Spans (cat r s) pre mid post c c' ↔
    ∃ m₁ m₂ c₁, mid = m₁ ++ m₂ ∧ Spans r pre m₁ (m₂ ++ post) c c₁ ∧
      Spans s (pre ++ m₁) m₂ post c₁ c' := by
  refine Iff.trans ⟨fun h => ?_, .cat⟩ covers_cons
  cases h with
  | cat h => exact h

theorem spans_alt : Spans (alt r s) pre mid post c c' ↔
    Spans r pre mid post c c' ∨ Spans s pre mid post c c' := by
  constructor
  · intro h
    cases h with
    | left h => exact .inl h
    | right h => exact .inr h
  · rintro (h | h)
    · exact .left h
    · exact .right h

theorem spans_star {greedy : Bool} : Spans (star greedy r) pre mid post c c' ↔
    (mid = [] ∧ c' = c) ∨ ∃ m₁ m₂ c₁, mid = m₁ ++ m₂ ∧ Spans r pre m₁ (m₂ ++ post) c c₁ ∧
      Spans (star greedy r) (pre ++ m₁) m₂ post c₁ c' := by
  have rounds : Spans (star greedy r) pre mid post c c' ↔ Covers pre mid post [] c c' ∨
      Covers pre mid post [.run r, .run (star greedy r)] c c' := by
    constructor
    · intro h
      cases h with
      | stop h => exact .inl h
      | more h => exact .inr h
    · exact fun h => h.elim .stop .more
  exact rounds.trans (or_congr covers_nil covers_cons)

/-! ### Lists of parts -/

/-- The empty part spans nothing, so it may be left out of a sequence. -/
theorem spans_append : Spans (append r s) pre mid post c c' ↔
    ∃ m₁ m₂ c₁, mid = m₁ ++ m₂ ∧ Spans r pre m₁ (m₂ ++ post) c c₁ ∧
      Spans s (pre ++ m₁) m₂ post c₁ c' := by
  unfold append
  split
  · constructor
    · exact fun h => ⟨[], mid, c, rfl, spans_empty.mpr ⟨rfl, rfl⟩, by simpa using h⟩
    · rintro ⟨m₁, m₂, c₁, rfl, hempty, hs⟩
      obtain ⟨rfl, rfl⟩ := spans_empty.mp hempty
      simpa using hs
  · constructor
    · exact fun h => ⟨mid, [], c', by simp, by simpa using h, spans_empty.mpr ⟨rfl, rfl⟩⟩
    · rintro ⟨m₁, m₂, c₁, rfl, hr, hempty⟩
      obtain ⟨rfl, rfl⟩ := spans_empty.mp hempty
      simpa using hr
  · exact spans_cat

theorem spans_concat_nil : Spans (concat []) pre mid post c c' ↔ mid = [] ∧ c' = c := spans_empty

theorem spans_concat_cons {rs : List Regex} : Spans (concat (r :: rs)) pre mid post c c' ↔
    ∃ m₁ m₂ c₁, mid = m₁ ++ m₂ ∧ Spans r pre m₁ (m₂ ++ post) c c₁ ∧
      Spans (concat rs) (pre ++ m₁) m₂ post c₁ c' := spans_append

theorem spans_concat_append {rs rs' : List Regex} :
    Spans (concat (rs ++ rs')) pre mid post c c' ↔
      ∃ m₁ m₂ c₁, mid = m₁ ++ m₂ ∧ Spans (concat rs) pre m₁ (m₂ ++ post) c c₁ ∧
        Spans (concat rs') (pre ++ m₁) m₂ post c₁ c' := by
  induction rs generalizing pre mid c with
  | nil =>
    constructor
    · exact fun h => ⟨[], mid, c, rfl, spans_concat_nil.mpr ⟨rfl, rfl⟩, by simpa using h⟩
    · rintro ⟨m₁, m₂, c₁, rfl, hnil, h⟩
      obtain ⟨rfl, rfl⟩ := spans_concat_nil.mp hnil
      simpa using h
  | cons r rs ih =>
    rw [List.cons_append, spans_concat_cons]
    constructor
    · rintro ⟨m₁, m, c₁, rfl, hr, h⟩
      obtain ⟨m₂, m₃, c₂, rfl, hrs, hrs'⟩ := ih.mp h
      rw [List.append_assoc] at hr
      refine ⟨m₁ ++ m₂, m₃, c₂, (List.append_assoc _ _ _).symm, ?_, ?_⟩
      · exact spans_concat_cons.mpr ⟨m₁, m₂, c₁, rfl, hr, hrs⟩
      · rwa [← List.append_assoc]
    · rintro ⟨m, m₃, c₂, rfl, h, hrs'⟩
      obtain ⟨m₁, m₂, c₁, rfl, hr, hrs⟩ := spans_concat_cons.mp h
      rw [← List.append_assoc] at hrs'
      rw [← List.append_assoc] at hr
      exact ⟨m₁, m₂ ++ m₃, c₁, List.append_assoc _ _ _, hr, ih.mpr ⟨m₂, m₃, c₂, rfl, hrs, hrs'⟩⟩

/-- An iteration over a set of characters spans the texts over that set. -/
theorem spans_star_chars {greedy : Bool} {set : CharSet} :
    Spans (star greedy (chars set)) pre mid post c c' ↔ (∀ a ∈ mid, a ∈ set) ∧ c' = c := by
  induction mid generalizing pre with
  | nil =>
    rw [spans_star]
    constructor
    -- A round would read a character, and there is none.
    · rintro (⟨-, rfl⟩ | ⟨m₁, m₂, c₁, hnil, hchars, -⟩)
      · simp
      · obtain ⟨a, -, rfl, -⟩ := spans_chars.mp hchars
        simp at hnil
    · rintro ⟨-, rfl⟩
      exact .inl ⟨rfl, rfl⟩
  | cons b mid ih =>
    rw [spans_star]
    constructor
    · rintro (⟨hnil, -⟩ | ⟨m₁, m₂, c₁, hcons, hchars, hstar⟩)
      · cases hnil
      · obtain ⟨a, ha, rfl, rfl⟩ := spans_chars.mp hchars
        obtain ⟨rfl, rfl⟩ := List.cons.inj hcons
        obtain ⟨hall, rfl⟩ := ih.mp hstar
        exact ⟨List.forall_mem_cons.mpr ⟨ha, hall⟩, rfl⟩
    · rintro ⟨hall, rfl⟩
      obtain ⟨hb, hmid⟩ := List.forall_mem_cons.mp hall
      exact .inr ⟨[b], mid, _, rfl, spans_chars.mpr ⟨b, hb, rfl, rfl⟩, ih.mpr ⟨hmid, rfl⟩⟩

end HttpRouting.Regex
