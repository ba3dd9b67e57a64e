import HttpRouting.Proofs.RouteAnswer

/-!
# The grammar of parameter values

A parameter value is text with references in it. It is read from left to right, and where references
are written the longest one is taken. The reader knows nothing of this grammar: it looks for an
identifier, then for a number behind it, and falls back to the identifier alone. Both see the same
references in every value.

## Main definitions

* `Template.Spells` — how a reference is written
* `Template.Leads`, `Template.Reads` — the longest reference at a place, and all of a value

## Main results

* `Template.reference?_eq_some_iff`, `Template.reads_iff` — the reader follows the grammar
-/

namespace HttpRouting.Template

/-! ### References -/

/-- The digits of an index. -/
def IsIndex (ds : List Char) : Prop :=
  ds ≠ [] ∧ (∀ d ∈ ds, d.isDigit = true) ∧ decimal ds < 2 ^ 64

/-- How a reference is written: as a placeholder, as a group of a condition, or as a group of the
path. -/
inductive Spells : Reference → List Char → Prop where
  /-- A colon and a name. -/
  | placeholder {name : List Char} (hname : Identifier.isIdentifier name = true) :
      Spells (.placeholder (String.ofList name)) (':' :: name)
  /-- A colon, a name and an index in brackets. -/
  | indexed {name ds : List Char} (hname : Identifier.isIdentifier name = true)
      (hds : IsIndex ds) :
      Spells (.capture (Key.ofName (String.ofList name)) (decimal ds))
        (':' :: (name ++ '[' :: (ds ++ [']'])))
  /-- An index in brackets. -/
  | index {ds : List Char} (hds : IsIndex ds) :
      Spells (.capture .path (decimal ds)) ('[' :: (ds ++ [']']))

/-- A text starts with a reference, and with no longer one. -/
def Leads (cs : List Char) (r : Reference) (rest : List Char) : Prop :=
  ∃ text, Spells r text ∧ cs = text ++ rest ∧
    ∀ r' text' rest', Spells r' text' → cs = text' ++ rest' → text'.length ≤ text.length

/-- A value is read from left to right: where a reference is written the longest one is read, and
any other character stands for itself. -/
inductive Reads : List Char → List (Char ⊕ Reference) → Prop where
  /-- Nothing is left. -/
  | nil : Reads [] []
  /-- A reference. -/
  | reference {cs rest : List Char} {r : Reference} {xs : List (Char ⊕ Reference)}
      (h : Leads cs r rest) (hrest : Reads rest xs) : Reads cs (.inr r :: xs)
  /-- A character at which no reference starts. -/
  | char {c : Char} {cs : List Char} {xs : List (Char ⊕ Reference)}
      (h : ∀ r text rest, Spells r text → c :: cs ≠ text ++ rest) (hcs : Reads cs xs) :
      Reads (c :: cs) (.inl c :: xs)

variable {cs rest name ds : List Char} {r : Reference}

theorem bracket?_eq_some_iff {n : Nat} : bracket? cs = some (n, rest) ↔
    ∃ ds, IsIndex ds ∧ n = decimal ds ∧ cs = '[' :: (ds ++ ']' :: rest) := by
  constructor
  · intro h
    unfold bracket? at h
    split at h
    · next cs =>
      dsimp only at h
      split at h
      · next hdrop =>
        split at h
        · next hds =>
          obtain ⟨rfl, rfl⟩ := Prod.mk.inj (Option.some.inj h)
          refine ⟨_, ⟨hds.1, fun d hd => List.mem_takeWhile_imp hd, hds.2⟩, rfl, ?_⟩
          rw [← hdrop, List.takeWhile_append_dropWhile]
        · cases h
      · cases h
    · cases h
  · rintro ⟨ds, ⟨hne, hdigits, hlt⟩, rfl, rfl⟩
    have hstop : ∀ c ∈ (']' :: rest).head?, Char.isDigit c = false := by simp [Char.isDigit]
    obtain ⟨htake, hdrop⟩ := Identifier.takeWhile_append_of_all hdigits hstop
    simp only [bracket?, htake, hdrop]
    exact if_pos ⟨hne, hlt⟩

theorem reference?_colon (cs : List Char) : reference? (':' :: cs) =
    (Identifier.read? cs).bind fun p => match bracket? p.2 with
      | some (n, rest) => some (.capture (Key.ofName (String.ofList p.1)) n, rest)
      | none => some (.placeholder (String.ofList p.1), p.2) := rfl

theorem reference?_of_ne (h : cs.head? ≠ some ':') :
    reference? cs = (bracket? cs).map fun p => (.capture .path p.1, p.2) := by
  unfold reference?
  split
  · exact absurd rfl h
  · rfl

/-- The reader falls back to the name alone exactly if no index follows it. -/
theorem reference?_cases (h : reference? cs = some (r, rest)) :
    (∃ name, r = .placeholder (String.ofList name) ∧ cs = ':' :: (name ++ rest) ∧
      Identifier.isIdentifier name = true ∧ (∀ c ∈ rest.head?, Identifier.isRest c = false) ∧
      bracket? rest = none) ∨
    (∃ name ds, r = .capture (Key.ofName (String.ofList name)) (decimal ds) ∧
      cs = ':' :: (name ++ '[' :: (ds ++ ']' :: rest)) ∧
      Identifier.isIdentifier name = true ∧ IsIndex ds) ∨
    ∃ ds, r = .capture .path (decimal ds) ∧ cs = '[' :: (ds ++ ']' :: rest) ∧ IsIndex ds := by
  by_cases hcolon : cs.head? = some ':'
  · obtain ⟨cs, rfl⟩ := List.head?_eq_some_iff.mp hcolon
    rw [reference?_colon] at h
    obtain ⟨⟨name, after⟩, hread, hindex⟩ := Option.bind_eq_some_iff.mp h
    obtain ⟨hname, rfl, hafter⟩ := Identifier.read?_eq_some_iff.mp hread
    split at hindex
    · next hbracket =>
      obtain ⟨rfl, rfl⟩ := Prod.mk.inj (Option.some.inj hindex)
      obtain ⟨ds, hds, rfl, rfl⟩ := bracket?_eq_some_iff.mp hbracket
      exact .inr (.inl ⟨name, ds, rfl, rfl, hname, hds⟩)
    · next hbracket =>
      obtain ⟨rfl, rfl⟩ := Prod.mk.inj (Option.some.inj hindex)
      exact .inl ⟨name, rfl, rfl, hname, hafter, hbracket⟩
  · rw [reference?_of_ne hcolon] at h
    obtain ⟨⟨n, after⟩, hbracket, heq⟩ := Option.map_eq_some_iff.mp h
    obtain ⟨rfl, rfl⟩ := Prod.mk.inj heq
    obtain ⟨ds, hds, rfl, rfl⟩ := bracket?_eq_some_iff.mp hbracket
    exact .inr (.inr ⟨ds, rfl, rfl, hds⟩)

/-- Behind an identifier stands what could not be a part of it, so two readings of a text have the
same identifier. -/
theorem identifier_unique {name' rest' : List Char} (hname : ∀ c ∈ name, Identifier.isRest c = true)
    (hrest : ∀ c ∈ rest.head?, Identifier.isRest c = false)
    (hname' : ∀ c ∈ name', Identifier.isRest c = true)
    (hrest' : ∀ c ∈ rest'.head?, Identifier.isRest c = false)
    (h : name ++ rest = name' ++ rest') : name = name' ∧ rest = rest' := by
  obtain ⟨htake, hdrop⟩ := Identifier.takeWhile_append_of_all hname hrest
  obtain ⟨htake', hdrop'⟩ := Identifier.takeWhile_append_of_all hname' hrest'
  rw [h] at htake hdrop
  exact ⟨htake.symm.trans htake', hdrop.symm.trans hdrop'⟩

theorem isRest_bracket : ∀ c ∈ ('[' :: cs).head?, Identifier.isRest c = false := by
  intro c hc
  obtain rfl := Option.some.inj hc
  decide

/-- No identifier at the start of a text is longer than the one that is read. -/
theorem length_le_of_identifier {name' rest' : List Char}
    (hrest : ∀ c ∈ rest.head?, Identifier.isRest c = false)
    (hname' : Identifier.isIdentifier name' = true) (h : name ++ rest = name' ++ rest') :
    name'.length ≤ name.length := by
  rcases List.append_eq_append_iff.mp h with ⟨mid, rfl, rfl⟩ | ⟨mid, rfl, -⟩
  · cases mid with
    | nil => simp
    | cons c mid =>
      have hc := Identifier.isRest_of_isIdentifier hname' c (by simp)
      rw [hrest c rfl] at hc
      cases hc
  · simp

/-- A text that starts with a reference is read as one. -/
theorem isSome_reference? {text : List Char} (h : Spells r text) (rest : List Char) :
    (reference? (text ++ rest)).isSome = true := by
  have hread : ∀ {name : List Char}, Identifier.isIdentifier name = true → ∀ rest,
      (Identifier.read? (name ++ rest)).isSome = true := by
    intro name hname rest
    cases name with
    | nil => cases hname
    | cons c name => simp [Identifier.read?, (Bool.and_eq_true_iff.mp hname).1]
  have hcolon : ∀ {cs : List Char}, (Identifier.read? cs).isSome = true →
      (reference? (':' :: cs)).isSome = true := by
    intro cs hcs
    obtain ⟨p, hp⟩ := Option.isSome_iff_exists.mp hcs
    rw [reference?_colon, hp, Option.bind_some]
    split <;> rfl
  cases h with
  | placeholder hname => exact hcolon (hread hname _)
  | @indexed name ds hname hds =>
    have htext : ':' :: (name ++ '[' :: (ds ++ [']'])) ++ rest =
        ':' :: (name ++ '[' :: (ds ++ ']' :: rest)) := by simp
    rw [htext]
    exact hcolon (hread hname _)
  | @index ds hds =>
    have hbracket : bracket? ('[' :: (ds ++ ']' :: rest)) = some (decimal ds, rest) :=
      bracket?_eq_some_iff.mpr ⟨ds, hds, rfl, rfl⟩
    have htext : '[' :: (ds ++ [']']) ++ rest = '[' :: (ds ++ ']' :: rest) := by simp
    rw [htext, reference?_of_ne (by simp), hbracket]
    rfl

/-- A reference that stands alone is read as it is written. -/
theorem reference?_of_spells {text : List Char} (h : Spells r text) :
    reference? text = some (r, []) := by
  cases h with
  | @placeholder name hname =>
    rw [reference?_colon, Identifier.read?_of_isIdentifier hname]
    rfl
  | @indexed name ds hname hds =>
    have hread : Identifier.read? (name ++ '[' :: (ds ++ [']'])) =
        some (name, '[' :: (ds ++ [']'])) :=
      Identifier.read?_eq_some_iff.mpr ⟨hname, rfl, isRest_bracket⟩
    have hbracket : bracket? ('[' :: (ds ++ [']'])) = some (decimal ds, []) :=
      bracket?_eq_some_iff.mpr ⟨ds, hds, rfl, rfl⟩
    rw [reference?_colon, hread, Option.bind_some, hbracket]
  | @index ds hds =>
    have hbracket : bracket? ('[' :: (ds ++ [']'])) = some (decimal ds, []) :=
      bracket?_eq_some_iff.mpr ⟨ds, hds, rfl, rfl⟩
    rw [reference?_of_ne (by simp), hbracket]
    rfl

/-- The reader takes the longest reference. -/
theorem leads_of_reference? (h : reference? cs = some (r, rest)) : Leads cs r rest := by
  rcases reference?_cases h with ⟨name, rfl, rfl, hname, hrest, hnone⟩ |
    ⟨name, ds, rfl, rfl, hname, hds⟩ | ⟨ds, rfl, rfl, hds⟩
  · refine ⟨_, .placeholder hname, rfl, fun r' text' rest' hspells heq => ?_⟩
    cases hspells with
    | @placeholder name' hname' =>
      exact Nat.succ_le_succ (length_le_of_identifier hrest hname' (List.cons.inj heq).2)
    | @indexed name' ds' hname' hds' =>
      -- Then the index would have been read behind the name.
      have hnames : name ++ rest = name' ++ '[' :: (ds' ++ ']' :: rest') := by simpa using heq
      obtain ⟨-, rfl⟩ := identifier_unique (Identifier.isRest_of_isIdentifier hname) hrest
        (Identifier.isRest_of_isIdentifier hname') isRest_bracket hnames
      rw [bracket?_eq_some_iff.mpr ⟨ds', hds', rfl, rfl⟩] at hnone
      cases hnone
    | index hds' => cases heq
  · refine ⟨_, .indexed hname hds, by simp, fun r' text' rest' hspells heq => ?_⟩
    cases hspells with
    | @placeholder name' hname' =>
      have hle := length_le_of_identifier isRest_bracket hname' (List.cons.inj heq).2
      simp only [List.length_cons, List.length_append]
      omega
    | @indexed name' ds' hname' hds' =>
      have hnames : name ++ '[' :: (ds ++ ']' :: rest) =
          name' ++ '[' :: (ds' ++ ']' :: rest') := by simpa using heq
      obtain ⟨rfl, hindex⟩ := identifier_unique (Identifier.isRest_of_isIdentifier hname)
        isRest_bracket (Identifier.isRest_of_isIdentifier hname') isRest_bracket hnames
      have hread : bracket? ('[' :: (ds ++ ']' :: rest)) = some (decimal ds, rest) :=
        bracket?_eq_some_iff.mpr ⟨ds, hds, rfl, rfl⟩
      have hread' : bracket? ('[' :: (ds' ++ ']' :: rest')) = some (decimal ds', rest') :=
        bracket?_eq_some_iff.mpr ⟨ds', hds', rfl, rfl⟩
      rw [hindex] at hread
      obtain ⟨-, rfl⟩ := Prod.mk.inj (Option.some.inj (hread.symm.trans hread'))
      have hlength := congrArg List.length hindex
      simp only [List.length_cons, List.length_append] at hlength ⊢
      omega
    | index hds' => cases heq
  · refine ⟨_, .index hds, by simp, fun r' text' rest' hspells heq => ?_⟩
    cases hspells with
    | placeholder hname' => cases heq
    | indexed hname' hds' => cases heq
    | @index ds' hds' =>
      have hindex : '[' :: (ds ++ ']' :: rest) = '[' :: (ds' ++ ']' :: rest') := by simpa using heq
      have hread : bracket? ('[' :: (ds ++ ']' :: rest)) = some (decimal ds, rest) :=
        bracket?_eq_some_iff.mpr ⟨ds, hds, rfl, rfl⟩
      have hread' : bracket? ('[' :: (ds' ++ ']' :: rest')) = some (decimal ds', rest') :=
        bracket?_eq_some_iff.mpr ⟨ds', hds', rfl, rfl⟩
      rw [hindex] at hread
      obtain ⟨-, rfl⟩ := Prod.mk.inj (Option.some.inj (hread.symm.trans hread'))
      have hlength := congrArg List.length hindex
      simp only [List.length_cons, List.length_append] at hlength ⊢
      omega

theorem Leads.unique {r' : Reference} {rest' : List Char} (h : Leads cs r rest)
    (h' : Leads cs r' rest') : r = r' ∧ rest = rest' := by
  obtain ⟨text, hspells, rfl, hlongest⟩ := h
  obtain ⟨text', hspells', heq, hlongest'⟩ := h'
  have hlength := Nat.le_antisymm (hlongest' r text rest hspells rfl)
    (hlongest r' text' rest' hspells' heq)
  obtain ⟨rfl, rfl⟩ := List.append_inj heq hlength
  have hread := (reference?_of_spells hspells).symm.trans (reference?_of_spells hspells')
  exact ⟨(Prod.mk.inj (Option.some.inj hread)).1, rfl⟩

theorem reference?_eq_some_iff : reference? cs = some (r, rest) ↔ Leads cs r rest := by
  refine ⟨leads_of_reference?, fun h => ?_⟩
  obtain ⟨text, hspells, rfl, -⟩ := id h
  obtain ⟨⟨r', rest'⟩, hread⟩ := Option.isSome_iff_exists.mp (isSome_reference? hspells rest)
  obtain ⟨rfl, rfl⟩ := (leads_of_reference? hread).unique h
  exact hread

theorem reference?_eq_none_iff :
    reference? cs = none ↔ ∀ r text rest, Spells r text → cs ≠ text ++ rest := by
  constructor
  · rintro h r text rest hspells rfl
    have hsome := isSome_reference? hspells rest
    rw [h] at hsome
    cases hsome
  · intro h
    refine Option.eq_none_iff_forall_ne_some.mpr fun ⟨r, rest⟩ hread => ?_
    obtain ⟨text, hspells, heq, -⟩ := leads_of_reference? hread
    exact h r text rest hspells heq

/-- The reader sees what the grammar says. -/
theorem reads_iff {xs : List (Char ⊕ Reference)} : Reads cs xs ↔ xs = references cs := by
  constructor
  · intro h
    induction h with
    | nil => exact references_nil.symm
    | reference h hrest ih =>
      next cs rest r xs =>
      have hread := reference?_eq_some_iff.mpr h
      cases cs with
      | nil => cases hread
      | cons c cs =>
        rw [references]
        split
        · next hread' =>
          obtain ⟨rfl, rfl⟩ := Prod.mk.inj (Option.some.inj (hread.symm.trans hread'))
          rw [ih]
        · next hnone =>
          rw [hread] at hnone
          cases hnone
    | char h hcs ih =>
      rw [references]
      split
      · next hread =>
        rw [reference?_eq_none_iff.mpr h] at hread
        cases hread
      · rw [ih]
  · rintro rfl
    fun_induction references cs with
    | case1 => exact .nil
    | case2 c cs r rest hread ih => exact .reference (reference?_eq_some_iff.mp hread) ih
    | case3 c cs hnone ih => exact .char (reference?_eq_none_iff.mp hnone) ih

end HttpRouting.Template
