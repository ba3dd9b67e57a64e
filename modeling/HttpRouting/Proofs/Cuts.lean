import HttpRouting.Options
import HttpRouting.Proofs.FilledPath
import HttpRouting.Proofs.ScanSteps
import HttpRouting.Proofs.Seams

/-!
# Cutting out placeholders

Any text at all is cut into placeholders and characters that are kept: a single scan goes straight
over the text, and says at each colon whether it belongs to an escape, a class or the opening of a
group. Expanding the placeholders resumes the scan behind each of them, and the groups of the
longer text are counted by a scan of their own. The three scans stay in step, since each is in plain
text behind a placeholder and behind the group that has taken its place.

## Main definitions

* `Placeholder.Begins` — a text begins with a placeholder, which has the longest name
* `Placeholder.Cut` — the placeholders of a text, and what is kept
* `Placeholder.replaced` — the text with groups in place of its placeholders

## Main results

* `Placeholder.cut_iff`, `Placeholder.expand_of_cut` — what is expanded are the placeholders
* `Placeholder.length_captureOffsetsFrom_replaced` — the groups of the expanded text
* `Placeholder.expand_counts` — the index of each placeholder is the number of its group
-/

namespace HttpRouting.Placeholder

open Shape

/-- How a placeholder is written. -/
def spelling : Option (List Char) → List Char
  | some name => ':' :: name
  | none => [':', ':']

/-- A text begins with a placeholder: two colons, or a colon and a name that does not go on. -/
def Begins (cs : List Char) (name : Option (List Char)) (rest : List Char) : Prop :=
  cs = spelling name ++ rest ∧ ∀ n, name = some n →
    Identifier.isIdentifier n = true ∧ ∀ c ∈ rest.head?, Identifier.isRest c = false

/-- A text is cut from left to right. The scan goes straight over what has been cut out. -/
inductive Cut : Mode → List Char → Tokens → Prop where
  /-- Nothing is left. -/
  | nil (m : Mode) : Cut m [] []
  /-- A placeholder, where the scan reads a colon as plain text. -/
  | placeholder {m : Mode} {cs rest : List Char} {name : Option (List Char)} {xs : Tokens}
      (hm : m.settles ':' = true) (h : Begins cs name rest)
      (hrest : Cut (m.after (spelling name)) rest xs) : Cut m cs (.inr name :: xs)
  /-- Any other character is kept. -/
  | char {m : Mode} {c : Char} {cs : List Char} {xs : Tokens}
      (h : m.settles ':' = true → ∀ name rest, ¬Begins (c :: cs) name rest)
      (hcs : Cut (m.next c) cs xs) : Cut m (c :: cs) (.inl c :: xs)

/-- The text that has been cut. -/
def spelled (xs : Tokens) : List Char :=
  xs.flatMap fun
    | .inl c => [c]
    | .inr name => spelling name

/-- The text in which a group around a pattern has taken the place of each placeholder. -/
def replaced (pattern : List Char) (xs : Tokens) : List Char :=
  xs.flatMap fun
    | .inl c => [c]
    | .inr _ => '(' :: pattern ++ [')']

/-- What a piece is of the text that has been cut. -/
def Piece.cut? : Piece → Option (Char ⊕ Option (List Char))
  | .char c => some (.inl c)
  | .opening => none
  | .token name => some (.inr name)

variable {m : Mode} {cs rest : List Char} {name : Option (List Char)} {xs : Tokens}

/-! ### Placeholders -/

theorem begins_colon_iff : Begins (':' :: cs) name rest ↔ token? cs = some (name, rest) := by
  rw [Segment.token?_eq_some_iff, Begins]
  cases name with
  | none => simp [spelling]
  | some n =>
    simp only [spelling, List.cons_append, List.cons.injEq, true_and, Option.some.injEq,
      forall_eq', reduceCtorEq, false_and, or_false, exists_eq_left',
      Identifier.read?_eq_some_iff]
    exact and_left_comm

theorem Begins.exists_colon (h : Begins cs name rest) :
    ∃ cs', cs = ':' :: cs' ∧ token? cs' = some (name, rest) := by
  have hcolon : ∃ cs', cs = ':' :: cs' := by
    obtain ⟨rfl, -⟩ := h
    cases name <;> exact ⟨_, rfl⟩
  obtain ⟨cs', rfl⟩ := hcolon
  exact ⟨cs', rfl, begins_colon_iff.mp h⟩

/-- Letters of names are plain text. -/
theorem after_plain_of_isRest {cs : List Char} (h : ∀ c ∈ cs, Identifier.isRest c = true) :
    Mode.plain.after cs = .plain := by
  induction cs with
  | nil => rfl
  | cons c cs ih =>
    obtain ⟨hc, hcs⟩ := List.forall_mem_cons.mp h
    rw [Mode.after_cons, next_plain (ordinary_of_isRest hc), ih hcs]

/-- Behind a placeholder the scan is in plain text. -/
theorem after_spelling (hm : m.settles ':' = true) (h : Begins cs name rest) :
    m.after (spelling name) = .plain := by
  have hcolon : m.next ':' = .plain := next_of_settles hm
  cases name with
  | none =>
    rw [spelling, Mode.after_cons, hcolon]
    rfl
  | some n =>
    rw [spelling, Mode.after_cons, hcolon]
    exact after_plain_of_isRest (Identifier.isRest_of_isIdentifier (h.2 n rfl).1)

/-! ### Cuts -/

theorem pieces_placeholder (hm : m.settles ':' = true) (h : Begins cs name rest) :
    pieces m cs = openings m ':' ++ .token name :: pieces .plain rest := by
  obtain ⟨cs', rfl, htoken⟩ := h.exists_colon
  exact pieces_of_settles hm htoken

theorem pieces_char {c : Char}
    (h : m.settles ':' = true → ∀ name rest, ¬Begins (c :: cs) name rest) :
    pieces m (c :: cs) = openings m c ++ .char c :: pieces (m.next c) cs := by
  refine pieces_cons ?_
  rintro rfl hm
  refine Option.eq_none_iff_forall_ne_some.mpr fun p hp => ?_
  exact h hm p.1 p.2 (begins_colon_iff.mpr hp)

/-- Expanding a text finds the placeholders that are cut out of it. -/
theorem cut_iff : Cut m cs xs ↔ xs = (pieces m cs).filterMap Piece.cut? := by
  -- Openers are pieces as well, but they cut nothing out.
  have hopenings : ∀ (m : Mode) (c : Char) (ps : List Piece),
      (openings m c ++ ps).filterMap Piece.cut? = ps.filterMap Piece.cut? := by
    intro m c ps
    unfold openings
    split <;> rfl
  constructor
  · intro h
    induction h with
    | nil m => rw [pieces_nil]; rfl
    | placeholder hm h hrest ih =>
      rw [after_spelling hm h] at ih
      rw [pieces_placeholder hm h, hopenings, ih]
      rfl
    | char h hcs ih =>
      rw [pieces_char h, hopenings, ih]
      rfl
  · rintro rfl
    fun_induction pieces m cs with
    | case1 m => exact .nil m
    | case2 m c cs hc name rest htoken ih =>
      obtain ⟨rfl, hm⟩ := hc
      have hbegins := begins_colon_iff.mpr htoken
      rw [hopenings]
      refine .placeholder hm hbegins ?_
      rwa [after_spelling hm hbegins]
    | case3 m c cs hc hnone ih =>
      obtain ⟨rfl, hm⟩ := hc
      rw [hopenings]
      refine .char (fun _ name rest h => ?_) ?_
      · rw [begins_colon_iff.mp h] at hnone
        cases hnone
      · rwa [next_of_settles hm]
    | case4 m c cs hc ih =>
      rw [hopenings]
      refine .char (fun hm name rest h => ?_) ih
      obtain ⟨cs', heq, -⟩ := h.exists_colon
      obtain ⟨rfl, -⟩ := List.cons.inj heq
      exact hc ⟨rfl, hm⟩

theorem Cut.spelled_eq (h : Cut m cs xs) : spelled xs = cs := by
  induction h with
  | nil m => rfl
  | placeholder hm h hrest ih => rw [h.1, ← ih]; rfl
  | char h hcs ih => exact congrArg (_ :: ·) ih

/-- Expanding a text replaces what is cut out of it. -/
theorem expand_of_cut {source : String} (h : Cut .plain source.toList xs) (pattern : String) :
    (expand source pattern).source = String.ofList (replaced pattern.toList xs) := by
  have hpieces : ∀ ps : List Piece, ps.flatMap (·.expanded pattern.toList) =
      replaced pattern.toList (ps.filterMap Piece.cut?) := by
    intro ps
    induction ps with
    | nil => rfl
    | cons p ps ih => cases p <;> exact congrArg (_ ++ ·) ih
  rw [cut_iff.mp h, ← hpieces]
  rfl

/-! ### Groups -/

/-- The group that takes the place of a placeholder. -/
def groupText : List Char := '(' :: placeholderText ++ [')']

theorem after_groupText (hm : m.settles ':' = true) : m.after groupText = .plain := by
  have hbody : Mode.paren.after (placeholderText ++ [')']) = .plain := by decide
  rw [groupText, List.cons_append, Mode.after_cons, next_of_settles (Mode.settles_paren hm)]
  exact hbody

/-- The group is counted, and nothing in it. -/
theorem captureOffsetsFrom_groupText (hm : m.settles ':' = true) (offset : Nat) (cs : List Char) :
    captureOffsetsFrom m offset (groupText ++ cs) =
      captureOffsetsFrom m offset [] ++ offset :: captureOffsetsFrom .plain (offset + 11) cs := by
  have hparen : ∀ c ∈ (groupText ++ cs).head?, m.settles c = true := by
    rintro c ⟨⟩
    exact Mode.settles_paren hm
  have hplain : ∀ c ∈ cs.head?, (Mode.plain.after groupText).settles c = true := fun _ _ => rfl
  rw [captureOffsetsFrom_of_settles hparen, captureOffsetsFrom_append hplain]
  rfl

theorem captureOffsetsFrom_of_isRest {cs : List Char} (h : ∀ c ∈ cs, Identifier.isRest c = true)
    (offset : Nat) : captureOffsetsFrom .plain offset cs = [] := by
  induction cs generalizing offset with
  | nil => rfl
  | cons c cs ih =>
    obtain ⟨hc, hcs⟩ := List.forall_mem_cons.mp h
    rw [captureOffsetsFrom_plain, next_plain (ordinary_of_isRest hc)]
    exact ih hcs _

/-- No group is counted in a placeholder. -/
theorem captureOffsetsFrom_spelling (hm : m.settles ':' = true) (h : Begins cs name rest)
    (offset : Nat) : captureOffsetsFrom m offset cs = captureOffsetsFrom m offset [] ++
      captureOffsetsFrom .plain (offset + String.utf8Len (spelling name)) rest := by
  have hname : ∀ offset, captureOffsetsFrom .plain offset (spelling name) = [] := by
    intro offset
    cases name with
    | none => rfl
    | some n =>
      rw [spelling, captureOffsetsFrom_plain]
      exact captureOffsetsFrom_of_isRest (Identifier.isRest_of_isIdentifier (h.2 n rfl).1) _
  have hplain : ∀ c ∈ rest.head?, (Mode.plain.after (spelling name)).settles c = true := by
    intro c _
    rw [after_spelling rfl h]
    rfl
  obtain ⟨cs', hcs, -⟩ := h.exists_colon
  rw [captureOffsetsFrom_of_settles (by rw [hcs]; rintro c ⟨⟩; exact hm), h.1,
    captureOffsetsFrom_append hplain, hname, List.nil_append]

/-- The expanded text has the groups of the text and one for each placeholder. -/
theorem Cut.length_replaced (h : Cut m cs xs) (offset offset' : Nat) :
    (captureOffsetsFrom m offset (replaced placeholderText xs)).length =
      (captureOffsetsFrom m offset' cs).length + xs.countP (·.isRight) := by
  induction h generalizing offset offset' with
  | nil m => exact length_captureOffsetsFrom_eq m offset offset' []
  | @placeholder m cs rest name xs hm h hrest ih =>
    have hreplaced : replaced placeholderText (.inr name :: xs) =
        groupText ++ replaced placeholderText xs := rfl
    rw [after_spelling hm h] at ih
    rw [hreplaced, captureOffsetsFrom_groupText hm, captureOffsetsFrom_spelling hm h,
      List.length_append, List.length_append, List.length_cons,
      ih _ (offset' + String.utf8Len (spelling name)),
      length_captureOffsetsFrom_eq m offset offset', List.countP_cons_of_pos rfl]
    omega
  | @char m c cs xs h hcs ih =>
    have hreplaced : replaced placeholderText (.inl c :: xs) =
        c :: replaced placeholderText xs := rfl
    rw [hreplaced, length_captureOffsetsFrom_cons, length_captureOffsetsFrom_cons,
      ih _ (offset' + c.utf8Size), List.countP_cons_of_neg (by simp), Nat.add_assoc]

/-! ### Indexes -/

variable {before after : Tokens} {n : Nat}

/-- In front of a placeholder that is cut out, the scan of the expanded text reads a colon as plain
text, as the scan of the text does. -/
theorem Cut.settles_replaced (h : Cut m cs (before ++ .inr name :: after)) :
    (m.after (replaced placeholderText before)).settles ':' = true := by
  induction before generalizing m cs with
  | nil =>
    cases h with
    | placeholder hm _ _ => exact hm
  | cons x before ih =>
    cases h with
    | @placeholder m cs rest name' xs hm hbegins hrest =>
      have hreplaced : replaced placeholderText (.inr name' :: before) =
          groupText ++ replaced placeholderText before := rfl
      rw [after_spelling hm hbegins] at hrest
      rw [hreplaced, Mode.after_append, after_groupText hm]
      exact ih hrest
    | char _ hcs => exact ih hcs

theorem captures_openings (m : Mode) (c : Char) (ps : List Piece) (n : Nat) :
    captures n (openings m c ++ ps) = captures (n + (m.opened (some c)).toList.length) ps := by
  unfold openings
  cases m.opened (some c) <;> rfl

/-- The index of a placeholder is one more than the number of groups in front of it. -/
theorem Cut.getElem?_captures (h : Cut m cs (before ++ .inr name :: after)) (n : Nat) :
    (captures n (pieces m cs))[before.countP (·.isRight)]? = some (name.map String.ofList,
      n + (captureOffsetsFrom m 0 (replaced placeholderText before)).length + 1) := by
  induction before generalizing m cs n with
  | nil =>
    cases h with
    | placeholder hm hbegins hrest =>
      rw [pieces_placeholder hm hbegins, captures_openings, Mode.opened_of_settles hm,
        ← length_captureOffsetsFrom_nil m 0]
      rfl
  | cons x before ih =>
    cases h with
    | @placeholder m cs rest name' xs hm hbegins hrest =>
      have hreplaced : replaced placeholderText (.inr name' :: before) =
          groupText ++ replaced placeholderText before := rfl
      rw [after_spelling hm hbegins] at hrest
      rw [pieces_placeholder hm hbegins, captures_openings, Mode.opened_of_settles hm,
        ← length_captureOffsetsFrom_nil m 0, captures, List.countP_cons_of_pos rfl,
        List.getElem?_cons_succ, ih hrest, hreplaced, captureOffsetsFrom_groupText hm,
        List.length_append, List.length_cons, length_captureOffsetsFrom_eq .plain (0 + 11) 0]
      congr 2
      omega
    | @char m c cs xs hc hcs =>
      have hreplaced : replaced placeholderText (.inl c :: before) =
          c :: replaced placeholderText before := rfl
      rw [pieces_char hc, captures_openings, captures, List.countP_cons_of_neg (by simp),
        ih hcs, hreplaced, length_captureOffsetsFrom_cons,
        length_captureOffsetsFrom_eq (m.next c) (0 + c.utf8Size) 0, Nat.add_assoc n]

/-- The name of a placeholder. -/
def name? : Char ⊕ Option (List Char) → Option (Option String)
  | .inl _ => none
  | .inr name => some (name.map String.ofList)

theorem map_fst_captures (n : Nat) (ps : List Piece) :
    (captures n ps).map (·.1) = (ps.filterMap Piece.cut?).filterMap name? := by
  induction ps generalizing n with
  | nil => rfl
  | cons p ps ih =>
    cases p with
    | char c => exact ih n
    | opening => exact ih (n + 1)
    | token name => exact congrArg (_ :: ·) (ih (n + 1))

/-- The indexes of placeholders become larger and larger. -/
theorem pairwise_captures (n : Nat) (ps : List Piece) :
    (∀ i ∈ (captures n ps).map (·.2), n < i) ∧ ((captures n ps).map (·.2)).Pairwise (· < ·) := by
  induction ps generalizing n with
  | nil => exact ⟨nofun, .nil⟩
  | cons p ps ih =>
    cases p with
    | char c => exact ih n
    | opening => exact ⟨fun i hi => Nat.lt_of_succ_lt ((ih (n + 1)).1 i hi), (ih (n + 1)).2⟩
    | token name =>
      obtain ⟨hlt, hpairwise⟩ := ih (n + 1)
      refine ⟨?_, List.pairwise_cons.mpr ⟨hlt, hpairwise⟩⟩
      exact List.forall_mem_cons.mpr ⟨Nat.lt_succ_self n, fun i hi => Nat.lt_of_succ_lt (hlt i hi)⟩

/-- An expansion follows the cut of a text. -/
structure Expansion.Follows (e : Expansion) (source pattern : String) (xs : Tokens) : Prop where
  /-- Each placeholder is replaced by a group, and nothing else is changed. -/
  source_eq : e.source = String.ofList (replaced pattern.toList xs)
  /-- The placeholders are those that are cut out, in order. -/
  names_eq : e.placeholders.map (·.1) = xs.filterMap name?
  /-- The index of a placeholder is counted in the expanded text, up to its group. -/
  index_eq : ∀ before name after, xs = before ++ .inr name :: after →
    e.placeholders[before.countP (·.isRight)]? = some (name.map String.ofList,
      capturesBefore e.source (String.ofList (replaced pattern.toList before)).utf8ByteSize + 1)
  /-- The indexes become larger and larger. -/
  increasing : (e.placeholders.map (·.2)).Pairwise (· < ·)
  /-- Each placeholder adds one group. -/
  countCaptures_eq : countCaptures e.source = countCaptures source + xs.countP (·.isRight)

/-- Expanding any text at all, with the default pattern. It is cut in one way only, and what is
recorded of the placeholders agrees with the groups that are counted in the expanded text. -/
theorem expand_counts (source : String) :
    ∃ xs, spelled xs = source.toList ∧ (∀ ys, Cut .plain source.toList ys ↔ ys = xs) ∧
      (expand source ({} : Options).placeholderPattern).Follows source
        ({} : Options).placeholderPattern xs := by
  have hpattern : ({} : Options).placeholderPattern.toList = placeholderText := rfl
  have hcut : Cut .plain source.toList ((pieces .plain source.toList).filterMap Piece.cut?) :=
    cut_iff.mpr rfl
  generalize hxs : (pieces .plain source.toList).filterMap Piece.cut? = xs at hcut
  have hsource := expand_of_cut hcut ({} : Options).placeholderPattern
  refine ⟨xs, hcut.spelled_eq, fun ys => by rw [cut_iff, hxs], hsource, ?_, ?_, ?_, ?_⟩
  · rw [← hxs]
    exact map_fst_captures 0 _
  · rintro before name after rfl
    have hsplit : replaced placeholderText (before ++ .inr name :: after) =
        replaced placeholderText before ++ (groupText ++ replaced placeholderText after) :=
      List.flatMap_append
    have hsettles : ∀ c ∈ (groupText ++ replaced placeholderText after).head?,
        (Mode.plain.after (replaced placeholderText before)).settles c = true := by
      rintro c ⟨⟩
      exact Mode.settles_paren hcut.settles_replaced
    rw [hsource, hpattern, hsplit, capturesBefore_append hsettles]
    refine (hcut.getElem?_captures 0).trans ?_
    rw [Nat.zero_add, countCaptures, captureOffsets, String.toList_ofList]
  · exact (pairwise_captures 0 _).2
  · rw [hsource, hpattern, countCaptures, captureOffsets, String.toList_ofList]
    exact hcut.length_replaced 0 0

end HttpRouting.Placeholder
