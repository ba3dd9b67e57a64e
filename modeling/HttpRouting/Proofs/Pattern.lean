import HttpRouting.Proofs.Shape

/-!
# Whole path patterns

The condition on a path is a shape between a caret and a dollar sign. It always compiles, and the
scan that counts groups agrees with the compiler about their number. The group that a placeholder is
expanded into is the one whose parenthesis the parser reads where the placeholder stood.

## Main definitions

* `Shape.pattern`, `Shape.regex` — the condition on a path and its expression
* `Piece.opensGroup`, `Token.opensGroup` — the pieces and tokens with which groups start
* `Builder.Steps` — what one token does to what has been read

## Main results

* `Shape.parse?_pattern` — the condition compiles
* `Shape.groupCount_regex`, `Shape.countCaptures_pattern` — its groups, counted twice
* `Shape.exists_lexemes_pattern` — the parenthesis that a placeholder is expanded into
-/

namespace HttpRouting

open Placeholder Regex

/-- Whether a piece starts a capturing group of the expanded pattern. -/
def Placeholder.Piece.opensGroup : Piece → Bool
  | .char _ => false
  | .opening | .token _ => true

/-- Whether a token starts a capturing group. -/
def Regex.Token.opensGroup : Regex.Token → Bool
  | .openGroup (.capturing _) => true
  | _ => false

namespace Shape

/-- The condition on a path of a given shape. -/
def pattern (s : Shape) : String := String.ofList ('^' :: s.expanded ++ ['$'])

/-- The expression for the condition on a path of a given shape. -/
def regex (s : Shape) : Regex := concat (.look .textStart :: s.parts 0 ++ [.look .textEnd])

theorem toList_pattern (s : Shape) : s.pattern.toList = '^' :: s.expanded ++ ['$'] :=
  String.toList_ofList

/-! ### Compiling -/

/-- The caret at the start of a condition. -/
def caretLexeme : Lexeme := ⟨.atom (.anchor .lineStart), ['^']⟩

/-- The dollar sign at the end of a condition. -/
def dollarLexeme : Lexeme := ⟨.atom (.anchor .lineEnd), ['$']⟩

/-- Anchors stand around the lexemes of what is between them. -/
theorem lexemes?_anchored {body : List Char} {ls : List Lexeme}
    (h : Lexes [] (body ++ ['$']) ls [] ['$']) :
    lexemes? ('^' :: body ++ ['$']) = some (caretLexeme :: ls ++ [dollarLexeme]) := by
  have hcaret : Lexes [] ('^' :: (body ++ ['$'])) [caretLexeme] [] (body ++ ['$']) :=
    .one (l := caretLexeme) rfl (List.cons_ne_nil _ _) rfl
  have hdollar : Lexes [] ['$'] [dollarLexeme] [] [] :=
    .one (l := dollarLexeme) rfl (List.cons_ne_nil _ _) rfl
  have hall : Lexes [] ('^' :: (body ++ ['$'])) _ [] [] := hcaret.trans (h.trans hdollar)
  have hend : lexemesFrom? false [] [] = some [] := by rw [lexemesFrom?]; rfl
  unfold Lexes at hall
  rw [lexemes?, List.cons_append, hall, hend]
  simp

/-- Between anchors, what is built outside of groups is a whole expression. -/
theorem parse?_of_foldlM {body : List Char} {ls : List Lexeme} {b : Builder}
    (h : Lexes [] (body ++ ['$']) ls [] ['$'])
    (hfold : (ls.map (·.token)).foldlM Builder.step? (({} : Builder).push (.look .textStart)) =
      some b) (hflags : b.flags = {}) (hbranches : b.branches = []) (houter : b.outer = []) :
    parse? (String.ofList ('^' :: body ++ ['$'])) =
      some (concat (b.parts.reverse.filterMap id ++ [.look .textEnd])) := by
  have hcaret : ({} : Builder).step? caretLexeme.token =
      some (({} : Builder).push (.look .textStart)) := rfl
  -- Without flags, anchors are those of the whole text.
  have hdollar : b.step? dollarLexeme.token = some (b.push (.look .textEnd)) := by
    simp [Builder.step?, dollarLexeme, Atom.toRegex?, Anchor.toAssertion, hflags]
  rw [parse?, String.toList_ofList, lexemes?_anchored h]
  simp only [Option.bind_eq_bind, Option.bind_some, ofTokens?, List.cons_append, List.map_cons,
    List.map_append, List.map_nil, List.foldlM_cons, List.foldlM_append, List.foldlM_nil, hcaret,
    hfold, hdollar]
  simp [Builder.finish?, Builder.alternatives, Builder.sequence, Builder.push, choice, hbranches,
    houter]

/-- Between anchors, the parts that are built make up a whole expression. -/
theorem parse?_anchored {body : List Char} {ls : List Lexeme} {rs : List Regex} {n : Nat}
    (h : Lexes [] (body ++ ['$']) ls [] ['$'])
    (hfold : (ls.map (·.token)).foldlM Builder.step? (({} : Builder).push (.look .textStart)) =
      some (add (({} : Builder).push (.look .textStart)) rs n)) :
    parse? (String.ofList ('^' :: body ++ ['$'])) =
      some (concat (.look .textStart :: (rs ++ [.look .textEnd]))) := by
  rw [parse?_of_foldlM h hfold rfl rfl rfl]
  simp [add, Builder.push]

theorem lexemes?_pattern {s : Shape} (tidy : s.Tidy) :
    lexemes? s.pattern.toList = some (caretLexeme :: s.lexemes ++ [dollarLexeme]) := by
  rw [toList_pattern]
  exact lexemes?_anchored (lexes_shape tidy (by simp) [])

/-- The condition on a path compiles. -/
theorem parse?_pattern {s : Shape} (tidy : s.Tidy) : parse? s.pattern = some s.regex :=
  parse?_anchored (lexes_shape tidy (by simp) []) (foldlM_step? tidy _ rfl)

/-! ### Counting groups -/

theorem groupCount_append (r s : Regex) :
    (append r s).groupCount = max r.groupCount s.groupCount := by
  unfold append
  split
  · exact (Nat.zero_max _).symm
  · exact (Nat.max_zero _).symm
  · rfl

theorem groupCount_concat_append (rs rs' : List Regex) :
    (concat (rs ++ rs')).groupCount = max (concat rs).groupCount (concat rs').groupCount := by
  induction rs with
  | nil => exact (Nat.zero_max _).symm
  | cons r rs ih =>
    have hcons : ∀ rs : List Regex,
        (concat (r :: rs)).groupCount = max r.groupCount (concat rs).groupCount :=
      fun rs => groupCount_append r (concat rs)
    rw [List.cons_append, hcons, hcons, ih, Nat.max_assoc]

/-- The groups of a shape are numbered one after the other. -/
theorem max_groupCount_parts (s : Shape) (n : Nat) :
    max n (concat (s.parts n)).groupCount = n + s.groups := by
  induction s generalizing n with
  | token name => exact Nat.max_eq_right (Nat.le_succ n)
  | opt s ih =>
    have hinner := ih (n + 1)
    have hcount : (concat ((opt s).parts n)).groupCount =
        max (n + 1) (concat (s.parts (n + 1))).groupCount := Nat.max_zero _
    rw [hcount, hinner, groups]
    omega
  | seq s t ihs iht =>
    rw [parts, groupCount_concat_append, ← Nat.max_assoc, ihs, iht, groups, Nat.add_assoc]
  | _ => exact Nat.max_zero n

/-- The expression has the groups of the shape. -/
theorem groupCount_regex (s : Shape) : s.regex.groupCount = s.groups := by
  have hparts := max_groupCount_parts s 0
  rw [Nat.zero_max, Nat.zero_add] at hparts
  have hlook : ∀ a : Assertion, (concat [.look a]).groupCount = 0 := fun _ => rfl
  have hregex : s.regex = concat ([.look .textStart] ++ (s.parts 0 ++ [.look .textEnd])) := rfl
  rw [hregex, groupCount_concat_append, groupCount_concat_append, hlook, hlook, hparts,
    Nat.zero_max, Nat.max_zero]

/-- The scan counts the groups of the shape. -/
theorem countCaptures_pattern {s : Shape} (tidy : s.Tidy) :
    countCaptures s.pattern = s.groups := by
  have hdollar : ['$'].head? ≠ some '?' := by simp
  obtain ⟨stop, hstop⟩ := length_captureOffsetsFrom tidy hdollar 1
  rw [countCaptures, captureOffsets, toList_pattern]
  exact hstop

end Shape

/-! ### Steps of the parser -/

namespace Regex

theorem eq_repeated_of_repeated? {greedy : Bool} {min : Nat} {max : Option Nat} {r s : Regex}
    (h : r.repeated? greedy min max = some s) : s = r.repeated greedy min max := by
  unfold repeated? at h
  split at h
  · exact (Option.some.inj h).symm
  · cases h

/-- The part that a finished group is. -/
def OpenGroup.part (g : OpenGroup) (r : Regex) : Regex := g.capture.elim r (.group · r)

/-- What one token does to a builder, if it can be read. -/
inductive Builder.Steps (b : Builder) : Token → Builder → Prop where
  /-- An atom is a part. -/
  | atom {a : Atom} {r : Regex} (h : a.toRegex? b.flags = some r) : Steps b (.atom a) (b.push r)
  /-- A class is a part. -/
  | bracket {k : Bracket} {s : CharSet} (h : k.toSet? b.flags = some s) :
      Steps b (.bracket k) (b.push (.chars s))
  /-- A group that does not capture may change the flags. -/
  | plain (edits : List FlagEdit) : Steps b (.openGroup (.plain edits)) (b.openGroup none edits)
  /-- A group that captures is counted, and its name has to be a new one. -/
  | capturing {name : Option String} (h : ∀ n ∈ name, n ∉ b.names) :
      Steps b (.openGroup (.capturing name)) { b.openGroup (some (b.groups + 1)) [] with
        groups := b.groups + 1
        names := name.toList ++ b.names }
  /-- The innermost group becomes a part of what is around it. -/
  | close {g : OpenGroup} {outer : List OpenGroup} (h : b.outer = g :: outer) :
      Steps b .closeGroup { b with
        flags := g.flags
        branches := g.branches
        parts := some (g.part b.alternatives) :: g.parts
        outer := outer }
  /-- Flags hold from here on. -/
  | setFlags (edits : List FlagEdit) : Steps b (.setFlags edits)
      { b with flags := b.flags.setAll edits, parts := none :: b.parts }
  /-- An alternative is finished. -/
  | bar : Steps b .bar { b with branches := b.sequence :: b.branches, parts := [] }
  /-- The last part is repeated. -/
  | times {min : Nat} {max : Option Nat} {marked : Bool} {r r' : Regex}
      {parts : List (Option Regex)} (hparts : b.parts = some r :: parts)
      (h : r.repeated? (marked == b.flags.swapGreed) min max = some r') :
      Steps b (.times min max marked) { b with parts := some r' :: parts }
  /-- Nothing happens. -/
  | ignored : Steps b .ignored b

theorem Builder.steps_of_step? {b b' : Builder} {t : Token} (h : b.step? t = some b') :
    b.Steps t b' := by
  cases t with
  | atom a =>
    obtain ⟨r, hr, h⟩ := Option.bind_eq_some_iff.mp h
    obtain rfl := Option.some.inj h
    exact .atom hr
  | bracket k =>
    obtain ⟨s, hs, h⟩ := Option.bind_eq_some_iff.mp h
    obtain rfl := Option.some.inj h
    exact .bracket hs
  | openGroup g =>
    rcases g with (_ | name) | edits
    · obtain rfl := Option.some.inj h
      exact .capturing nofun
    · unfold step? at h
      dsimp only at h
      split at h
      · cases h
      · next hname =>
        obtain rfl := Option.some.inj h
        exact .capturing fun n hn => Option.some.inj hn ▸ hname
    · obtain rfl := Option.some.inj h
      exact .plain edits
  | closeGroup =>
    unfold step? closeGroup? at h
    dsimp only at h
    split at h
    · cases h
    · next g outer hg =>
      obtain rfl := Option.some.inj h
      obtain ⟨_ | i, flags, branches, parts⟩ := g <;> exact .close hg
  | times min max marked =>
    unfold step? repeatLast? at h
    dsimp only at h
    split at h
    · next r parts hparts =>
      obtain ⟨r', hr', h⟩ := Option.bind_eq_some_iff.mp h
      obtain rfl := Option.some.inj h
      exact .times hparts hr'
    · cases h
  | setFlags edits =>
    obtain rfl := Option.some.inj h
    exact .setFlags edits
  | bar =>
    obtain rfl := Option.some.inj h
    exact .bar
  | ignored =>
    obtain rfl := Option.some.inj h
    exact .ignored

theorem Builder.Steps.step? {b b' : Builder} {t : Token} (h : b.Steps t b') :
    b.step? t = some b' := by
  cases h with
  | atom h => exact Option.bind_eq_some_iff.mpr ⟨_, h, rfl⟩
  | bracket h => exact Option.bind_eq_some_iff.mpr ⟨_, h, rfl⟩
  | @capturing name h =>
    cases name with
    | none => rfl
    | some name => exact if_neg (h name rfl)
  | @close g outer h =>
    unfold Builder.step? closeGroup?
    dsimp only
    rw [h]
    obtain ⟨_ | i, flags, branches, parts⟩ := g <;> rfl
  | times hparts h =>
    unfold Builder.step? repeatLast?
    rw [hparts]
    exact Option.bind_eq_some_iff.mpr ⟨_, h, rfl⟩
  | _ => rfl

end Regex

namespace Shape

/-- The parser numbers groups in the order of their parentheses. -/
theorem groups_step? {b b' : Builder} {t : Token} (h : b.step? t = some b') :
    b'.groups = b.groups + if t.opensGroup then 1 else 0 := by
  -- Only an opening parenthesis touches the counter.
  cases Builder.steps_of_step? h <;> rfl

theorem groups_foldlM_step? {ts : List Token} {b b' : Builder}
    (h : ts.foldlM Builder.step? b = some b') :
    b'.groups = b.groups + ts.countP (·.opensGroup) := by
  induction ts generalizing b with
  | nil =>
    obtain rfl := Option.some.inj h
    rfl
  | cons t ts ih =>
    rw [List.foldlM_cons] at h
    obtain ⟨b₁, hstep, h⟩ := Option.bind_eq_some_iff.mp h
    rw [ih h, groups_step? hstep, List.countP_cons, Nat.add_assoc, Nat.add_comm (ts.countP _)]

/-! ### The group of a placeholder -/

theorem text_lexemes (s : Shape) : s.lexemes.flatMap (·.text) = s.expanded := by
  induction s with
  | opt s ih => simp [lexemes, expanded, ih, openLexeme, maybeLexeme]
  | seq s t ihs iht => simp [lexemes, expanded, ihs, iht]
  | _ => rfl

theorem countP_opensGroup_lexemes (s : Shape) :
    s.lexemes.countP (·.token.opensGroup) = s.groups := by
  induction s with
  | opt s ih =>
    rw [lexemes, List.countP_append, List.countP_cons_of_pos rfl, ih]
    rfl
  | seq s t ihs iht => rw [lexemes, List.countP_append, ihs, iht, groups]
  | _ => rfl

theorem countP_opensGroup_pieces (s : Shape) : s.pieces.countP (·.opensGroup) = s.groups := by
  induction s with
  | opt s ih =>
    rw [pieces, List.cons_append, List.countP_cons_of_neg (by simp [Piece.opensGroup]),
      List.cons_append, List.countP_cons_of_pos rfl, List.countP_append, ih]
    rfl
  | seq s t ihs iht => rw [pieces, List.countP_append, ihs, iht, groups]
  | _ => rfl

/-- Some lexemes cover the text that some pieces are expanded into, and open the same groups. -/
def Aligned (ps : List Piece) (ls : List Lexeme) : Prop :=
  ls.flatMap (·.text) = ps.flatMap (·.expanded placeholderText) ∧
    ls.countP (·.token.opensGroup) = ps.countP (·.opensGroup)

theorem Aligned.append {ps ps' : List Piece} {ls ls' : List Lexeme} (h : Aligned ps ls)
    (h' : Aligned ps' ls') : Aligned (ps ++ ps') (ls ++ ls') := by
  obtain ⟨htext, hcount⟩ := h
  obtain ⟨htext', hcount'⟩ := h'
  refine ⟨?_, ?_⟩
  · rw [List.flatMap_append, List.flatMap_append, htext, htext']
  · rw [List.countP_append, List.countP_append, hcount, hcount']

theorem aligned_shape (s : Shape) : Aligned s.pieces s.lexemes := by
  refine ⟨?_, ?_⟩
  · rw [text_lexemes, flatMap_pieces]
  · rw [countP_opensGroup_lexemes, countP_opensGroup_pieces]

/-- In two lists put together, an element stands in the second one or in the first one. -/
theorem eq_append_or_of_append_eq {α : Type} {cs ds u w : List α} {c : α}
    (h : cs ++ ds = u ++ c :: w) :
    (∃ v, u = cs ++ v ∧ ds = v ++ c :: w) ∨ ∃ v, cs = u ++ c :: v ∧ w = v ++ ds := by
  rcases List.append_eq_append_iff.mp h with hsecond | ⟨v, hcs, hw⟩
  · exact .inl hsecond
  · cases v with
    | nil => exact .inl ⟨[], by simpa using hcs.symm, hw.symm⟩
    | cons d v =>
      obtain ⟨rfl, rfl⟩ := List.cons.inj hw
      exact .inr ⟨v, hcs, rfl⟩

/-- Where a placeholder stands among the pieces, there is a parenthesis among the lexemes. -/
theorem exists_lexemes {s : Shape} {before after : List Piece} {name : Option (List Char)}
    (h : s.pieces = before ++ .token name :: after) :
    ∃ ls ls', s.lexemes = ls ++ openLexeme :: ls' ∧ Aligned before ls := by
  induction s generalizing before after with
  | token name' =>
    cases before with
    | nil => exact ⟨[], _, rfl, rfl, rfl⟩
    | cons p before => simp [pieces] at h
  | opt s ih =>
    rcases before with _ | ⟨p, _ | ⟨p', before⟩⟩
    · simp [pieces] at h
    · simp [pieces] at h
    · simp only [pieces, List.cons_append, List.cons.injEq] at h
      obtain ⟨rfl, rfl, h⟩ := h
      -- The placeholder is not the parenthesis or the question mark behind the group.
      have hinner : ∃ after', s.pieces = before ++ .token name :: after' := by
        obtain ⟨mid, rfl, hmid⟩ | ⟨mid, hpieces, -⟩ := eq_append_or_of_append_eq h
        · rcases mid with _ | ⟨q, _ | ⟨q', mid⟩⟩ <;> simp at hmid
        · exact ⟨mid, hpieces⟩
      obtain ⟨after', hinner⟩ := hinner
      obtain ⟨ls, ls', hls, haligned⟩ := ih hinner
      refine ⟨openLexeme :: ls, ls' ++ [⟨.closeGroup, [')']⟩, maybeLexeme], ?_, ?_⟩
      · simp [lexemes, hls]
      · have hopen : Aligned [.char '(', .opening] [openLexeme] := ⟨rfl, rfl⟩
        exact hopen.append haligned
  | seq s t ihs iht =>
    rw [pieces] at h
    -- The placeholder stands in the second part, or in the first.
    obtain ⟨mid, rfl, hmid⟩ | ⟨mid, hpieces, rfl⟩ := eq_append_or_of_append_eq h
    · obtain ⟨ls, ls', hls, haligned⟩ := iht hmid
      refine ⟨s.lexemes ++ ls, ls', ?_, (aligned_shape s).append haligned⟩
      rw [lexemes, hls, List.append_assoc]
    · obtain ⟨ls, ls', hls, haligned⟩ := ihs hpieces
      refine ⟨ls, ls' ++ t.lexemes, ?_, haligned⟩
      rw [lexemes, hls, List.append_assoc, List.cons_append]
  | nil => simp [pieces] at h
  | char c => rcases before with _ | ⟨p, before⟩ <;> simp [pieces] at h
  | escaped c => rcases before with _ | ⟨p, _ | ⟨p', before⟩⟩ <;> simp [pieces] at h
  | either =>
    rcases before with _ | ⟨p₁, _ | ⟨p₂, _ | ⟨p₃, _ | ⟨p₄, before⟩⟩⟩⟩ <;> simp [pieces] at h
  | maybe c => rcases before with _ | ⟨p, _ | ⟨p', before⟩⟩ <;> simp [pieces] at h

/-- The parenthesis that a placeholder of a condition is expanded into, and the number of groups
that the parser has read before it. -/
theorem exists_lexemes_pattern {s : Shape} (tidy : s.Tidy) {before after : List Piece}
    {name : Option (List Char)} (h : s.pieces = before ++ .token name :: after) :
    ∃ ls ls' b, lexemes? s.pattern.toList = some (ls ++ openLexeme :: ls') ∧
      ls.flatMap (·.text) = '^' :: before.flatMap (·.expanded placeholderText) ∧
      (ls.map (·.token)).foldlM Builder.step? {} = some b ∧
      b.groups = before.countP (·.opensGroup) := by
  obtain ⟨ls, ls', hls, htext, hcount⟩ := exists_lexemes h
  have hlexemes : lexemes? s.pattern.toList =
      some ((caretLexeme :: ls) ++ openLexeme :: (ls' ++ [dollarLexeme])) := by
    rw [lexemes?_pattern tidy, hls]
    simp
  -- The parser gets to the end, so it gets to the parenthesis.
  have hparse := parse?_pattern tidy
  rw [parse?, hlexemes] at hparse
  obtain ⟨_, hall, hend⟩ := Option.bind_eq_some_iff.mp hparse
  obtain rfl := Option.some.inj hall
  obtain ⟨final, hfinal, -⟩ := Option.bind_eq_some_iff.mp hend
  rw [List.map_append, List.foldlM_append] at hfinal
  obtain ⟨b, hb, -⟩ := Option.bind_eq_some_iff.mp hfinal
  refine ⟨caretLexeme :: ls, ls' ++ [dollarLexeme], b, hlexemes, ?_, hb, ?_⟩
  · rw [List.flatMap_cons, htext]
    rfl
  · rw [groups_foldlM_step? hb, List.countP_map, List.countP_cons_of_neg Bool.false_ne_true]
    exact (Nat.zero_add _).trans hcount

end Shape

end HttpRouting
