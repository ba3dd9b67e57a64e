import HttpRouting.Proofs.Enclosed
import HttpRouting.Proofs.FilledPath

/-!
# Literal texts with other placeholders

Every placeholder of a text is replaced by the same pattern in parentheses, whatever stands around
it. If the pattern may stand in parentheses, then the expression of the text is made of the
expressions of its characters and, for each placeholder, of a group around the expression of the
pattern. The groups are numbered as the expansion of the text records them.

## Main definitions

* `Shape.splicedText`, `Shape.spliced` — the text with its placeholders expanded, and its parts
* `Shape.splicedRegex` — the expression of the whole text
* `Shape.numbered` — the placeholders with the indexes of their groups

## Main results

* `Shape.expand_literal` — what a literal text is expanded into
* `Shape.parse?_spliced` — its expression
* `Shape.groupCount_splicedRegex` — it has a group for each placeholder and no others
* `Shape.opensGroup_eq_false_of_parse?` — otherwise the second placeholder has another group
-/

namespace HttpRouting

open Placeholder Regex

namespace Shape

/-- A text whose placeholders have been expanded into a pattern. -/
def splicedText (pattern : List Char) (xs : Tokens) : List Char :=
  (ofTokens true xs).pieces.flatMap (·.expanded pattern)

/-- The expressions of characters and placeholders behind `n` groups: each placeholder is a group
around the same expression. -/
def spliced (r : Regex) : Tokens → Nat → List Regex
  | [], _ => []
  | .inl c :: xs, n => .char c :: spliced r xs n
  | .inr _ :: xs, n => .group (n + 1) r :: spliced r xs (n + 1)

/-- The expression of a whole text. -/
def splicedRegex (r : Regex) (xs : Tokens) : Regex :=
  concat (.look .textStart :: (spliced r xs 0 ++ [.look .textEnd]))

/-- The placeholders behind `n` groups with the indexes of their groups. -/
def numbered : Tokens → Nat → List (Option String × Nat)
  | [], _ => []
  | .inl _ :: xs, n => numbered xs n
  | .inr name :: xs, n => (name.map String.ofList, n + 1) :: numbered xs (n + 1)

/-- The lexemes of a text whose placeholders have been expanded into a pattern. -/
def splicedLexemes (ls : List Lexeme) : Tokens → List Lexeme
  | [] => []
  | .inl c :: xs =>
    ⟨.atom (.char c), if isMeta c then ['\\', c] else [c]⟩ :: splicedLexemes ls xs
  | .inr _ :: xs => openLexeme :: ls ++ [closeLexeme] ++ splicedLexemes ls xs

variable {source : String} {ls : List Lexeme} {r : Regex} {pattern : List Char}

/-! ### Expansion -/

theorem splicedText_inl (c : Char) (xs : Tokens) : splicedText pattern (.inl c :: xs) =
    (if isMeta c then ['\\', c] else [c]) ++ splicedText pattern xs := by
  rw [splicedText, ofTokens, Bool.true_and]
  split <;> rfl

theorem splicedText_inr (name : Option (List Char)) (xs : Tokens) :
    splicedText pattern (.inr name :: xs) = '(' :: pattern ++ [')'] ++ splicedText pattern xs := rfl

theorem captures_ofTokens (escape : Bool) (xs : Tokens) (n : Nat) :
    captures n (ofTokens escape xs).pieces = numbered xs n := by
  induction xs generalizing n with
  | nil => rfl
  | cons x xs ih =>
    cases x with
    | inl c =>
      rw [ofTokens, numbered, ← ih]
      split <;> rfl
    | inr name => exact congrArg _ (ih (n + 1))

/-- A literal text is expanded between its anchors. -/
theorem expand_literal (v pattern : String) : expand (Condition.literal v).source pattern =
    ⟨String.ofList ('^' :: splicedText pattern.toList (Segment.tokens v.toList) ++ ['$']),
      numbered (Segment.tokens v.toList) 0⟩ := by
  have hcaptures : captures 0
      (.char '^' :: ((ofText true v.toList).pieces ++ [.char '$'])) =
        numbered (Segment.tokens v.toList) 0 := by
    rw [captures, captures_append, captures, captures, List.append_nil, ofText, captures_ofTokens]
  rw [expand, (describes_literal v).pieces_eq, hcaptures, List.flatMap_cons, List.flatMap_append]
  rfl

/-! ### Reading -/

theorem lexes_spliced (h : Encloses pattern ls) (xs : Tokens) (tail : List Char) :
    Lexes [] (splicedText pattern xs ++ tail) (splicedLexemes ls xs) [] tail := by
  induction xs with
  | nil => simp [Lexes, splicedText, splicedLexemes, ofTokens, pieces]
  | cons x xs ih =>
    cases x with
    | inl c =>
      have hchar : Lexes [] ((if isMeta c then ['\\', c] else [c]) ++
          (splicedText pattern xs ++ tail))
          [⟨.atom (.char c), if isMeta c then ['\\', c] else [c]⟩] []
          (splicedText pattern xs ++ tail) := by
        split
        · next hmeta =>
          exact .one (l := ⟨.atom (.char c), ['\\', c]⟩) (read?_escaped hmeta _)
            (List.cons_ne_nil _ _) rfl
        · next hmeta => exact lexes_char (ordinary_of_isMeta (Bool.not_eq_true _ ▸ hmeta)) _ []
      rw [splicedText_inl, List.append_assoc]
      exact hchar.trans ih
    | inr name =>
      have hgroup := h [] (splicedText pattern xs ++ tail)
      have htext : splicedText pattern (.inr name :: xs) ++ tail =
          '(' :: (pattern ++ ')' :: (splicedText pattern xs ++ tail)) := by
        simp [splicedText_inr]
      rw [htext]
      exact hgroup.trans ih

theorem foldlM_spliced (h : Compiles source ls r) (hplain : ∀ l ∈ ls, l.token.opensGroup = false)
    (xs : Tokens) (b : Builder) (hflags : b.flags = {}) :
    ((splicedLexemes ls xs).map (·.token)).foldlM Builder.step? b =
      some (add b (spliced r xs b.groups) (xs.countP (·.isRight))) := by
  induction xs generalizing b with
  | nil => rfl
  | cons x xs ih =>
    cases x with
    | inl c =>
      have hrest := ih (b.push (.char c)) hflags
      rw [splicedLexemes, List.map_cons, List.foldlM_cons, step?_char hflags, Option.bind_eq_bind,
        Option.bind_some, hrest]
      refine congrArg some ?_
      simp [add, Builder.push, spliced]
    | inr name =>
      have hrest := ih (add b [.group (b.groups + 1) r] 1) hflags
      have htokens : (splicedLexemes ls (.inr name :: xs)).map (·.token) =
          groupTokens (ls.map (·.token)) ++ (splicedLexemes ls xs).map (·.token) := by
        simp [splicedLexemes, groupTokens]
      rw [htokens, List.foldlM_append, h.foldlM_groupTokens hplain b hflags, Option.bind_eq_bind,
        Option.bind_some, hrest, add_add]
      refine congrArg some ?_
      have hcount : (Sum.inr name :: xs).countP (·.isRight) = 1 + xs.countP (·.isRight) := by
        rw [List.countP_cons_of_pos rfl, Nat.add_comm]
      rw [hcount]
      rfl

/-- The expression of a literal text, for a pattern that may stand in parentheses. -/
theorem parse?_spliced (h : Compiles source ls r) (hencloses : Encloses source.toList ls)
    (hplain : ∀ l ∈ ls, l.token.opensGroup = false) (xs : Tokens) :
    parse? (String.ofList ('^' :: splicedText source.toList xs ++ ['$'])) =
      some (splicedRegex r xs) :=
  parse?_anchored (lexes_spliced hencloses xs ['$'])
    (foldlM_spliced h hplain xs (({} : Builder).push (.look .textStart)) rfl)

/-! ### Groups -/

theorem max_groupCount_spliced (hr : r.groupCount = 0) (xs : Tokens) (n : Nat) :
    max n (concat (spliced r xs n)).groupCount = n + xs.countP (·.isRight) := by
  induction xs generalizing n with
  | nil => exact Nat.max_zero n
  | cons x xs ih =>
    cases x with
    | inl c =>
      have hcons : (concat (spliced r (.inl c :: xs) n)).groupCount =
          (concat (spliced r xs n)).groupCount :=
        (groupCount_append _ _).trans (Nat.zero_max _)
      rw [hcons, ih, List.countP_cons_of_neg Bool.false_ne_true]
    | inr name =>
      have hcons : (concat (spliced r (.inr name :: xs) n)).groupCount =
          max (n + 1) (concat (spliced r xs (n + 1))).groupCount := by
        refine (groupCount_append _ (concat (spliced r xs (n + 1)))).trans ?_
        rw [groupCount, hr, Nat.max_zero]
      rw [hcons, ih, List.countP_cons_of_pos rfl]
      omega

theorem groupCount_splicedRegex (hr : r.groupCount = 0) (xs : Tokens) :
    (splicedRegex r xs).groupCount = xs.countP (·.isRight) := by
  have hparts := max_groupCount_spliced hr xs 0
  rw [Nat.zero_max, Nat.zero_add] at hparts
  have hlook : ∀ a : Assertion, (concat [.look a]).groupCount = 0 := fun _ => rfl
  have hregex : splicedRegex r xs =
      concat ([.look .textStart] ++ (spliced r xs 0 ++ [.look .textEnd])) := rfl
  rw [hregex, groupCount_concat_append, groupCount_concat_append, hlook, hlook, hparts,
    Nat.zero_max, Nat.max_zero]

/-- Of two placeholders, the second one has its group behind all groups that the pattern opens. -/
theorem exists_of_parse?_twice (h : Compiles source ls r) (hencloses : Encloses source.toList ls)
    {m n : Option (List Char)} {y : Regex}
    (hparse : parse? (String.ofList ('^' :: splicedText source.toList [.inr m, .inr n] ++ ['$'])) =
      some y) : ∃ x₁ x₂, y = concat [.look .textStart, .group 1 x₁,
        .group ((ls.map (·.token)).countP (·.opensGroup) + 2) x₂, .look .textEnd] := by
  have htokens : (splicedLexemes ls [.inr m, .inr n]).map (·.token) =
      groupTokens (ls.map (·.token)) ++ groupTokens (ls.map (·.token)) := by
    simp [splicedLexemes, groupTokens]
  have hlexes := lexemes?_anchored (lexes_spliced hencloses [.inr m, .inr n] ['$'])
  rw [parse?, String.toList_ofList, hlexes, Option.bind_eq_bind, Option.bind_some, ofTokens?]
    at hparse
  obtain ⟨b, hb, hfinish⟩ := Option.bind_eq_some_iff.mp hparse
  -- The anchors and the two groups are the parts of the expression.
  have hcaret : ({} : Builder).step? caretLexeme.token =
      some (({} : Builder).push (.look .textStart)) := rfl
  rw [List.map_append, List.map_cons, htokens, List.cons_append, List.foldlM_cons, hcaret,
    Option.bind_eq_bind, Option.bind_some, List.append_assoc, List.foldlM_append] at hb
  obtain ⟨b₁, hb₁, hb⟩ := Option.bind_eq_some_iff.mp hb
  rw [List.foldlM_append] at hb
  obtain ⟨b₂, hb₂, hb⟩ := Option.bind_eq_some_iff.mp hb
  obtain ⟨x₁, hflags₁, hbranches₁, hparts₁, houter₁, hgroups₁⟩ := h.exists_of_groupTokens hb₁
  obtain ⟨x₂, hflags₂, hbranches₂, hparts₂, houter₂, -⟩ := h.exists_of_groupTokens hb₂
  have hdollar : b₂.step? dollarLexeme.token = some (b₂.push (.look .textEnd)) := by
    have hflags : b₂.flags = {} := by rw [hflags₂, hflags₁]; rfl
    simp [Builder.step?, dollarLexeme, Atom.toRegex?, Anchor.toAssertion, hflags]
  have hb' : b₂.step? dollarLexeme.token >>= pure = some b := hb
  rw [hdollar] at hb'
  obtain rfl := Option.some.inj hb'
  have hsecond : b₁.groups + 1 = (ls.map (·.token)).countP (·.opensGroup) + 2 := by
    have hstart : (({} : Builder).push (.look .textStart)).groups = 0 := rfl
    omega
  have hparts : (b₂.push (.look .textEnd)).parts = [some (.look .textEnd),
      some (.group (b₁.groups + 1) x₂), some (.group 1 x₁), some (.look .textStart)] := by
    rw [Builder.push, hparts₂, hparts₁]
    rfl
  have hbranches : (b₂.push (.look .textEnd)).branches = [] := by
    rw [Builder.push, hbranches₂, hbranches₁]
    rfl
  unfold Builder.finish? at hfinish
  split at hfinish
  · refine ⟨x₁, x₂, (Option.some.inj hfinish).symm.trans ?_⟩
    rw [Builder.alternatives, Builder.sequence, hparts, hbranches, hsecond]
    rfl
  · cases hfinish

/-- Groups that capture inside the pattern move the group of the second placeholder. -/
theorem opensGroup_eq_false_of_parse? (h : Compiles source ls r)
    (hencloses : Encloses source.toList ls) {m n : Option (List Char)} {x : Regex}
    (hparse : parse? (String.ofList ('^' :: splicedText source.toList [.inr m, .inr n] ++ ['$'])) =
      some (splicedRegex x [.inr m, .inr n])) : ∀ l ∈ ls, l.token.opensGroup = false := by
  obtain ⟨x₁, x₂, hregex⟩ := exists_of_parse?_twice h hencloses hparse
  have hgroup : 2 = (ls.map (·.token)).countP (·.opensGroup) + 2 := by
    injection hregex with _ hrest
    injection hrest with _ hrest
    injection hrest with hgroup _
    injection hgroup
  have hcount : (ls.map (·.token)).countP (·.opensGroup) = 0 := by omega
  intro l hl
  exact Bool.not_eq_true _ ▸ List.countP_eq_zero.mp hcount l.token (List.mem_map_of_mem hl)

/-- If the last parenthesis is hidden, a text that ends in a placeholder is malformed. -/
theorem parse?_of_trails (h : Compiles source ls r) (htrails : Trails source.toList ls)
    (name : Option (List Char)) :
    parse? (String.ofList ('^' :: splicedText source.toList [.inr name] ++ ['$'])) = none := by
  obtain ⟨ls', hls', htokens⟩ := htrails [] ['$'] (by decide)
  have htext : '^' :: splicedText source.toList [.inr name] ++ ['$'] =
      '^' :: '(' :: (source.toList ++ ')' :: ['$']) := by
    simp [splicedText, ofTokens, pieces, Piece.expanded]
  have hcaret : Lexes [] ('^' :: '(' :: (source.toList ++ ')' :: ['$'])) [caretLexeme] []
      ('(' :: (source.toList ++ ')' :: ['$'])) :=
    .one (l := caretLexeme) rfl (List.cons_ne_nil _ _) rfl
  have hstep : ({} : Builder).step? caretLexeme.token =
      some (({} : Builder).push (.look .textStart)) := rfl
  unfold Lexes at hcaret
  rw [parse?, String.toList_ofList, htext, lexemes?, hcaret, hls', Option.map_some,
    Option.bind_eq_bind, Option.bind_some, List.singleton_append, List.map_cons, htokens, ofTokens?,
    List.foldlM_cons, hstep]
  refine Option.bind_eq_none_iff.mpr fun b hb => ?_
  exact h.finish?_of_trails hb

end Shape

end HttpRouting
