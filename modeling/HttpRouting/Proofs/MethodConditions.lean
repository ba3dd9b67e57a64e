import HttpRouting.Proofs.RouteAnswer
import Mathlib.Data.List.Forall2

/-!
# Conditions on the method

Resource actions ask for one method or for a set of methods. A single method is a literal text. A
set becomes a pattern that lists its members, and because methods are compared without regard to
case, the pattern ignores case. Neither has placeholders, and both compile.

## Main definitions

* `wordRegex`, `wordsRegex` — the expressions for a word, and for a choice of words
* `ReadsLetter` — a character is read as a letter, perhaps in another case

## Main results

* `Segment.tokens_of_plain`, `Placeholder.expand_of_plain` — texts and patterns without colons
* `Shape.parse?_words` — a choice of words compiles
* `Condition.accepts_ofMethod` — the texts that a condition on one method accepts
* `MethodSet.isSome_captures?_source` — the texts that the pattern of a set accepts
* `MethodSet.accepts_iff`, `MethodSet.accepts_of_mem` — the same where case is ignored
-/

namespace HttpRouting

open Placeholder Regex

/-! ### Texts without placeholders -/

namespace Segment

variable {cs : List Char}

/-- A text without placeholders consists of its characters. -/
theorem tokens_eq_map (h : ∀ name, .inr name ∉ tokens cs) : tokens cs = cs.map .inl := by
  fun_induction tokens cs with
  | case1 => rfl
  | case2 cs name rest htoken ih => exact absurd List.mem_cons_self (h name)
  | case3 cs hnone ih =>
    rw [List.map_cons, ih fun name hname => h name (List.mem_cons_of_mem _ hname)]
  | case4 c cs hc ih =>
    rw [List.map_cons, ih fun name hname => h name (List.mem_cons_of_mem _ hname)]

theorem tokens_of_plain (h : ':' ∉ cs) : tokens cs = cs.map .inl := by
  induction cs with
  | nil => exact tokens_eq_nil.mpr rfl
  | cons c cs ih =>
    rw [List.mem_cons, not_or] at h
    rw [tokens_cons fun hcolon => absurd hcolon.symm h.1, ih h.2, List.map_cons]

end Segment

namespace Placeholder

/-- The scan keeps every character of a text without colons, and finds no placeholder. -/
theorem pieces_of_plain {cs : List Char} (h : ':' ∉ cs) (m : Mode) (pattern : List Char) :
    (pieces m cs).flatMap (·.expanded pattern) = cs ∧ ∀ name, .token name ∉ pieces m cs := by
  induction cs generalizing m with
  | nil =>
    rw [Shape.pieces_nil]
    exact ⟨rfl, fun _ => List.not_mem_nil⟩
  | cons c cs ih =>
    rw [List.mem_cons, not_or] at h
    obtain ⟨htext, htokens⟩ := ih h.2 (m.next c)
    have hopenings : ∀ p ∈ openings m c, p = .opening := by
      intro p hp
      unfold openings at hp
      split at hp
      · exact List.mem_singleton.mp hp
      · cases hp
    have hnothing : (openings m c).flatMap (·.expanded pattern) = [] := by
      refine List.flatMap_eq_nil_iff.mpr fun p hp => ?_
      rw [hopenings p hp]
      rfl
    rw [Shape.pieces_cons fun hcolon => absurd hcolon.symm h.1]
    refine ⟨?_, fun name hname => ?_⟩
    · rw [List.flatMap_append, hnothing, List.flatMap_cons, htext]
      rfl
    · rcases List.mem_append.mp hname with hname | hname
      · cases hopenings _ hname
      · exact htokens name ((List.mem_cons.mp hname).resolve_left nofun)

theorem expand_of_plain {source : String} (h : ':' ∉ source.toList) (pattern : String) :
    expand source pattern = ⟨source, []⟩ := by
  obtain ⟨htext, htokens⟩ := pieces_of_plain h .plain pattern.toList
  simp only [expand, htext, String.ofList_toList, captures_eq_nil.mpr htokens]

end Placeholder

namespace Condition

variable {s : String}

theorem isPlain_pattern (h : ':' ∉ s.toList) : (pattern s).IsPlain :=
  congrArg Expansion.placeholders (expand_of_plain h defaultPlaceholder)

theorem regex?_pattern (h : ':' ∉ s.toList) : (pattern s).regex? = Regex.parse? s := by
  rw [regex?, source, expand_of_plain h]

/-- A literal text without placeholders is accepted and nothing else. -/
theorem accepts_literal {t : String} (h : (literal t).IsPlain) (u : String) :
    (literal t).accepts u = true ↔ u = t := by
  have htokens := Segment.tokens_eq_map (isPlain_literal.mp h)
  have hshape := Shape.describes_literal t
  rw [accepts, regex?, hshape.expand_eq, Shape.parse?_pattern hshape.tidy, Option.bind_some,
    Shape.isSome_captures?_regex, Shape.ofText, htokens]
  simp only [Shape.reads_ofTokens_map_inl, exists_eq_right, ← String.toList_inj]

end Condition

/-! ### Words -/

/-- The expression for a word under some flags. -/
def wordRegex (f : Flags) (w : List Char) : Regex := concat (w.map (Atom.charRegex f))

/-- The expression for a whole text that is one of some words under some flags. -/
def wordsRegex (f : Flags) (ws : List (List Char)) : Regex :=
  concat [.look .textStart, .group 1 (choice (ws.map (wordRegex f))), .look .textEnd]

namespace Shape

/-- The lexemes of a word. -/
def wordLexemes (w : List Char) : List Lexeme := w.map fun c => ⟨.atom (.char c), [c]⟩

/-- The lexemes of some words with bars between them. -/
def wordsLexemes (ws : List (List Char)) : List Lexeme :=
  List.intercalate [⟨.bar, ['|']⟩] (ws.map wordLexemes)

theorem lexes_word {w : List Char} (hw : ∀ c ∈ w, Ordinary c) (o : List Bool) (tail : List Char) :
    Lexes o (w ++ tail) (wordLexemes w) o tail := by
  induction w with
  | nil => simp [Lexes, wordLexemes]
  | cons c w ih =>
    obtain ⟨hc, hw⟩ := List.forall_mem_cons.mp hw
    exact (lexes_char hc (w ++ tail) o).trans (ih hw)

theorem lexes_words {ws : List (List Char)} (hws : ∀ w ∈ ws, ∀ c ∈ w, Ordinary c) (o : List Bool)
    (tail : List Char) :
    Lexes o (List.intercalate ['|'] ws ++ tail) (wordsLexemes ws) o tail := by
  induction ws with
  | nil => simp [Lexes, wordsLexemes]
  | cons w ws ih =>
    obtain ⟨hw, hws⟩ := List.forall_mem_cons.mp hws
    cases ws with
    | nil => simpa [wordsLexemes] using lexes_word hw o tail
    | cons w' ws =>
      have hbar : Lexes o ('|' :: (List.intercalate ['|'] (w' :: ws) ++ tail)) [⟨.bar, ['|']⟩] o
          (List.intercalate ['|'] (w' :: ws) ++ tail) :=
        .one (l := ⟨.bar, ['|']⟩) rfl (List.cons_ne_nil _ _) rfl
      have hall := (lexes_word hw o _).trans (hbar.trans (ih hws))
      simpa [wordsLexemes, List.intercalate_cons_cons] using hall

theorem foldlM_word (w : List Char) (b : Builder) :
    ((wordLexemes w).map (·.token)).foldlM Builder.step? b =
      some (add b (w.map (Atom.charRegex b.flags)) 0) := by
  induction w generalizing b with
  | nil => rfl
  | cons c w ih =>
    have hstep : b.step? (.atom (.char c)) = some (b.push (Atom.charRegex b.flags c)) := rfl
    have hcons : ((wordLexemes (c :: w)).map (·.token)).foldlM Builder.step? b =
        (b.step? (.atom (.char c))).bind
          (((wordLexemes w).map (·.token)).foldlM Builder.step? ·) := rfl
    rw [hcons, hstep, Option.bind_some, ih]
    simp [add, Builder.push]

/-- The builder keeps its groups and flags while it reads words, and has a choice of all of them in
the end. -/
theorem exists_foldlM_words {ws : List (List Char)} (hws : ws ≠ []) (b : Builder)
    (hparts : b.parts = []) :
    ∃ b', ((wordsLexemes ws).map (·.token)).foldlM Builder.step? b = some b' ∧
      b'.outer = b.outer ∧
      b'.alternatives = choice (b.branches.reverse ++ ws.map (wordRegex b.flags)) := by
  induction ws generalizing b with
  | nil => exact absurd rfl hws
  | cons w ws ih =>
    have hsequence : (add b (w.map (Atom.charRegex b.flags)) 0).sequence =
        wordRegex b.flags w := by
      simp [Builder.sequence, add, hparts, wordRegex]
    cases ws with
    | nil =>
      refine ⟨add b (w.map (Atom.charRegex b.flags)) 0, ?_, rfl, ?_⟩
      · rw [← foldlM_word w b, wordsLexemes, List.map_singleton, List.intercalate_singleton]
      · rw [Builder.alternatives, hsequence]
        simp [add]
    | cons w' ws =>
      have hbar : (add b (w.map (Atom.charRegex b.flags)) 0).step? .bar =
          some { b with branches := wordRegex b.flags w :: b.branches, parts := [] } := by
        rw [← hsequence]
        rfl
      obtain ⟨b', hb', houter, halternatives⟩ := ih (List.cons_ne_nil w' ws)
        { b with branches := wordRegex b.flags w :: b.branches, parts := [] } rfl
      have hsplit : (wordsLexemes (w :: w' :: ws)).map (·.token) =
          (wordLexemes w).map (·.token) ++
            .bar :: (wordsLexemes (w' :: ws)).map (·.token) := by
        simp [wordsLexemes, List.intercalate_cons_cons]
      refine ⟨b', ?_, houter, ?_⟩
      · rw [hsplit, List.foldlM_append, foldlM_word]
        simp only [Option.bind_eq_bind, Option.bind_some, List.foldlM_cons, hbar]
        exact hb'
      · rw [halternatives]
        simp

theorem foldlM_of_step? {b b' : Builder} {t : Regex.Token} (h : b.step? t = some b')
    (ts : List Regex.Token) : (t :: ts).foldlM Builder.step? b = ts.foldlM Builder.step? b' := by
  rw [List.foldlM_cons, h]
  rfl

/-- The flag that lets a pattern ignore case. -/
def ignoreCaseLexeme : Lexeme := ⟨.setFlags [(.ignoreCase, true)], "(?i)".toList⟩

/-- The tokens of a choice of words between anchors build the expression for it, behind changes of
flags only. -/
theorem exists_foldlM_anchoredWords {ws : List (List Char)} (hne : ws ≠ []) (ignored : Bool)
    (parts : List (Option Regex)) (hparts : parts.filterMap id = []) :
    ∃ b', ((caretLexeme :: openLexeme :: (wordsLexemes ws ++ [⟨.closeGroup, [')']⟩,
        dollarLexeme])).map (·.token)).foldlM Builder.step?
          { flags := { ignoreCase := ignored }, parts } = some b' ∧
      b'.finish? = some (wordsRegex { ignoreCase := ignored } ws) := by
  -- The words stand in the group, and the flags hold from before the caret to the end.
  obtain ⟨b, hb, houter, halternatives⟩ := exists_foldlM_words hne
    (opened { flags := { ignoreCase := ignored }, parts := some (.look .textStart) :: parts }) rfl
  have hclose : b.step? .closeGroup = some { b with
      flags := { ignoreCase := ignored }
      branches := []
      parts := some (.group 1 b.alternatives) :: some (.look .textStart) :: parts
      outer := [] } := by
    simp only [Builder.step?, Builder.closeGroup?, houter]
    rfl
  have hrest : ((wordsLexemes ws ++ [⟨.closeGroup, [')']⟩, dollarLexeme]).map
      (·.token)).foldlM Builder.step? (opened
        { flags := { ignoreCase := ignored }, parts := some (.look .textStart) :: parts }) =
      ([dollarLexeme].map (·.token)).foldlM Builder.step? { b with
        flags := { ignoreCase := ignored }
        branches := []
        parts := some (.group 1 b.alternatives) :: some (.look .textStart) :: parts
        outer := [] } := by
    rw [List.map_append, List.foldlM_append, hb]
    exact foldlM_of_step? hclose _
  have hsequence : ∀ x y z : Regex,
      (some x :: some y :: some z :: parts).reverse.filterMap id = [z, y, x] := by
    intro x y z
    rw [List.filterMap_reverse]
    exact congrArg (fun rs => (x :: y :: z :: rs).reverse) hparts
  have hchoice : b.alternatives = choice (ws.map (wordRegex { ignoreCase := ignored })) :=
    halternatives
  refine ⟨_, hrest, congrArg (fun rs => some (concat rs)) ((hsequence _ _ _).trans ?_)⟩
  rw [hchoice]
  rfl

/-- A choice of words compiles, whether it ignores case or not. -/
theorem parse?_words {ws : List (List Char)} (hne : ws ≠ [])
    (hws : ∀ w ∈ ws, ∀ c ∈ w, Ordinary c)
    (hhead : (List.intercalate ['|'] ws ++ [')', '$']).head? ≠ some '?') {ignored : Bool}
    {source : String}
    (hsource : source.toList = (if ignored then "(?i)".toList else []) ++
      '^' :: '(' :: (List.intercalate ['|'] ws ++ [')', '$'])) :
    parse? source = some (wordsRegex { ignoreCase := ignored } ws) := by
  have hflags : Lexes [] source.toList (if ignored then [ignoreCaseLexeme] else []) []
      ('^' :: '(' :: (List.intercalate ['|'] ws ++ [')', '$'])) := by
    rw [hsource]
    cases ignored with
    | true => exact .one (l := ignoreCaseLexeme) rfl (List.cons_ne_nil _ _) rfl
    | false => simp [Lexes]
  have hcaret : Lexes [] ('^' :: '(' :: (List.intercalate ['|'] ws ++ [')', '$'])) [caretLexeme] []
      ('(' :: (List.intercalate ['|'] ws ++ [')', '$'])) :=
    .one (l := caretLexeme) rfl (List.cons_ne_nil _ _) rfl
  have hdollar : Lexes [] ['$'] [dollarLexeme] [] [] :=
    .one (l := dollarLexeme) rfl (List.cons_ne_nil _ _) rfl
  have hend : lexemesFrom? false [] [] = some [] := by rw [lexemesFrom?]; rfl
  have hlexemes : lexemes? source.toList = some ((if ignored then [ignoreCaseLexeme] else []) ++
      caretLexeme :: openLexeme :: (wordsLexemes ws ++ [⟨.closeGroup, [')']⟩, dollarLexeme])) := by
    have hall := hflags.trans (hcaret.trans ((lexes_open hhead []).trans
      ((lexes_words hws [false] [')', '$']).trans ((lexes_close ['$'] []).trans hdollar))))
    unfold Lexes at hall
    rw [lexemes?, hall, hend, Option.map_some, List.append_nil]
    simp
  -- The flag leaves an absent part behind, because it cannot be repeated.
  have hstart : ((if ignored then [ignoreCaseLexeme] else []).map (·.token)).foldlM Builder.step?
      {} = some { flags := { ignoreCase := ignored }
                  parts := if ignored then [none] else [] } := by
    cases ignored <;> rfl
  obtain ⟨b, hb, hfinish⟩ := exists_foldlM_anchoredWords hne ignored
    (if ignored then [none] else []) (by cases ignored <;> rfl)
  rw [parse?, hlexemes]
  simp only [Option.bind_eq_bind, Option.bind_some, ofTokens?, List.map_append, List.foldlM_append,
    hstart, hb, hfinish]

end Shape

/-! ### What words match -/

/-- A character is read as a letter of a word: it is one of its case variants if case is ignored,
and else it is the letter itself. -/
def ReadsLetter : Bool → Char → Char → Prop
  | true, a, d => a ∈ CharSet.variantsOf true d
  | false, a, d => a = d

section Spans

variable {pre mid post : List Char} {c c' : Captures}

theorem spans_choice {rs : List Regex} (hrs : rs ≠ []) :
    Spans (choice rs) pre mid post c c' ↔ ∃ r ∈ rs, Spans r pre mid post c c' := by
  induction rs with
  | nil => exact absurd rfl hrs
  | cons r rs ih =>
    cases rs with
    | nil => simp [choice]
    | cons r' rs =>
      have hchoice : choice (r :: r' :: rs) = alt r (choice (r' :: rs)) := rfl
      rw [hchoice, spans_alt, ih (List.cons_ne_nil r' rs)]
      simp only [List.exists_mem_cons_iff]

/-- A word is matched by the texts that have for each of its characters one that is read as it. -/
theorem spans_wordRegex {ignored : Bool} {w : List Char} :
    Spans (wordRegex { ignoreCase := ignored } w) pre mid post c c' ↔
      List.Forall₂ (ReadsLetter ignored) mid w ∧ c' = c := by
  have hletter : ∀ (d : Char) (pre mid post : List Char) (c c' : Captures),
      Spans (Atom.charRegex { ignoreCase := ignored } d) pre mid post c c' ↔
        ∃ a, ReadsLetter ignored a d ∧ mid = [a] ∧ c' = c := by
    intro d pre mid post c c'
    cases ignored with
    | true => exact spans_chars
    | false => exact spans_char.trans ⟨fun h => ⟨d, rfl, h⟩, fun ⟨_, ha, h⟩ => ha ▸ h⟩
  induction w generalizing pre mid with
  | nil =>
    rw [List.forall₂_nil_right_iff]
    exact spans_concat_nil
  | cons d w ih =>
    have hcons : wordRegex { ignoreCase := ignored } (d :: w) =
      concat (Atom.charRegex { ignoreCase := ignored } d ::
        w.map (Atom.charRegex { ignoreCase := ignored })) := rfl
    rw [hcons, spans_concat_cons, List.forall₂_cons_right_iff]
    constructor
    · rintro ⟨m₁, m₂, c₁, rfl, hchar, hrest⟩
      obtain ⟨a, ha, rfl, rfl⟩ := (hletter ..).mp hchar
      obtain ⟨hm₂, rfl⟩ := ih.mp hrest
      exact ⟨⟨a, m₂, ha, hm₂, rfl⟩, rfl⟩
    · rintro ⟨⟨a, m, ha, hm, rfl⟩, rfl⟩
      exact ⟨[a], m, _, rfl, (hletter ..).mpr ⟨a, ha, rfl, rfl⟩, ih.mpr ⟨hm, rfl⟩⟩

/-- A choice of words matches the texts that are read as one of them. -/
theorem isSome_captures?_wordsRegex {ignored : Bool} {ws : List (List Char)} (hws : ws ≠ [])
    {text : String} : ((wordsRegex { ignoreCase := ignored } ws).captures? text).isSome = true ↔
      ∃ w ∈ ws, List.Forall₂ (ReadsLetter ignored) text.toList w := by
  have hregex : wordsRegex { ignoreCase := ignored } ws = concat (.look .textStart ::
    ([.group 1 (choice (ws.map (wordRegex { ignoreCase := ignored })))] ++
      [.look .textEnd])) := rfl
  have hne : ws.map (wordRegex { ignoreCase := ignored }) ≠ [] := by simpa using hws
  rw [← String.ofList_toList (s := text), isSome_captures?, hregex, String.toList_ofList]
  simp only [found_anchored, concat_singleton, spans_group, spans_choice hne,
    List.mem_map, exists_exists_and_eq_and, spans_wordRegex]
  constructor
  · rintro ⟨_, _, ⟨_, ⟨w, hw, htext, -⟩, -⟩, -⟩
    exact ⟨w, hw, htext⟩
  · rintro ⟨w, hw, htext⟩
    exact ⟨_, _, ⟨_, ⟨w, hw, htext, rfl⟩, rfl⟩, rfl⟩

end Spans

/-! ### Methods -/

namespace Method

/-- What is to be known of the names of methods. -/
theorem all_token (m : Method) : m.token.toList ≠ [] ∧ (m.token.toList.all fun c =>
    Shape.Ordinary c ∧ c ≠ ':' ∧
      CharSet.variantsOf true c = .ofList (c :: c.toUpper :: if c = 's' then ['ſ'] else []) ∧
      c.toUpper ∈ Unicode.capitals ∧ c ≠ 'ſ') = true := by
  cases m <;> decide +kernel

theorem ordinary_token (m : Method) : ∀ c ∈ m.token.toList, Shape.Ordinary c :=
  fun c hc => (of_decide_eq_true (List.all_eq_true.mp m.all_token.2 c hc)).1

theorem plain_token (m : Method) : ':' ∉ m.token.toList :=
  fun hc => (of_decide_eq_true (List.all_eq_true.mp m.all_token.2 ':' hc)).2.1 rfl

/-- The name of a method is one of its case variants. -/
theorem mem_variantsOf_token (m : Method) :
    ∀ c ∈ m.token.toList, c ∈ CharSet.variantsOf true c := by
  intro c hc
  rw [(of_decide_eq_true (List.all_eq_true.mp m.all_token.2 c hc)).2.2.1, CharSet.mem_ofList]
  exact List.mem_cons_self

end Method

namespace Condition

/-- The condition on a method has no placeholder, and it is tested as it is given. -/
theorem tested_ofMethod (m : Method) :
    (ofMethod m).IsPlain ∧ (ofMethod m).tested .method = ofMethod m := by
  cases m <;> decide +kernel

theorem isPlain_ofMethod (m : Method) : (ofMethod m).IsPlain := (tested_ofMethod m).1

/-- A method is accepted in any case, that is, if its small letters are the name of the method. -/
theorem accepts_ofMethod (m : Method) (text : String) :
    ((ofMethod m).tested .method).accepts text = true ↔ text = m.token := by
  rw [(tested_ofMethod m).2]
  exact accepts_literal (isPlain_ofMethod m) text

end Condition

namespace MethodSet

variable {s : MethodSet}

/-- A set that is not the empty one has a member. -/
theorem exists_mem (h : s.isEmpty = false) : ∃ m, m ∈ s := by
  by_contra hnone
  have hmethod : ∀ i < 7, ∃ m ∈ Method.all, m.bit = i := by decide
  have hzero : s.bits = 0#7 := by
    refine BitVec.eq_of_getLsbD_eq fun i hi => ?_
    obtain ⟨m, -, rfl⟩ := hmethod i hi
    rw [BitVec.getLsbD_zero]
    exact Bool.eq_false_iff.mpr fun hm => hnone ⟨m, hm⟩
  have hempty : s = empty := congrArg MethodSet.mk hzero
  rw [hempty] at h
  cases h

/-- The names of the members. -/
def words (s : MethodSet) : List (List Char) := s.toList.map fun m => m.token.toList

theorem toList_source (s : MethodSet) :
    s.source.toList = '^' :: '(' :: (List.intercalate ['|'] s.words ++ [')', '$']) := by
  rw [source, String.toList_append, String.toList_append, String.toList_intercalate, List.map_map]
  rfl

theorem ordinary_words : ∀ w ∈ s.words, ∀ c ∈ w, Shape.Ordinary c := by
  intro w hw
  obtain ⟨m, -, rfl⟩ := List.mem_map.mp hw
  exact m.ordinary_token

/-- The pattern of a set has no colons, with the flag in front or without. -/
theorem plain_source (s : MethodSet) : ':' ∉ s.source.toList := by
  have hwords : ':' ∉ List.intercalate ['|'] s.words := by
    unfold words
    induction s.toList with
    | nil => exact List.not_mem_nil
    | cons m ms ih =>
      cases ms with
      | nil => simpa using m.plain_token
      | cons m' ms => simpa [List.intercalate_cons_cons, m.plain_token] using ih
  rw [toList_source]
  simpa using hwords

theorem tested_ofMethods (s : MethodSet) : (Condition.ofMethods s).tested .method =
    .pattern (String.ofList ("(?i)".toList ++ s.source.toList)) := by
  have hstart : "(?i)".toList.isPrefixOf s.source.toList = false := by
    rw [toList_source]
    rfl
  rw [Condition.tested, if_pos rfl, Condition.ofMethods, Condition.foldCase, hstart]
  rfl

/-- The pattern of a set accepts what is read as the name of a member, behind the flag that ignores
case and without it. -/
theorem isSome_captures?_source (h : s.toList ≠ []) (ignored : Bool) {source : String}
    (hsource : source.toList = (if ignored then "(?i)".toList else []) ++ s.source.toList) :
    ∃ regex, parse? source = some regex ∧ ∀ text, (regex.captures? text).isSome = true ↔
      ∃ m ∈ s, List.Forall₂ (ReadsLetter ignored) text.toList m.token.toList := by
  have hne : s.words ≠ [] := by simpa [words] using h
  -- The first name starts with a letter, so the parenthesis opens a capturing group.
  have hhead : (List.intercalate ['|'] s.words ++ [')', '$']).head? ≠ some '?' := by
    obtain ⟨m, ms, hms⟩ := List.exists_cons_of_ne_nil h
    have hletter : m.token.toList ≠ [] ∧ '?' ∉ m.token.toList :=
      ⟨m.all_token.1, fun hc => m.ordinary_token '?' hc (by decide)⟩
    obtain ⟨c, cs, hc⟩ := List.exists_cons_of_ne_nil hletter.1
    have hwords : ∃ rest, List.intercalate ['|'] s.words = c :: rest := by
      rw [words, hms, List.map_cons, hc]
      cases ms.map fun m : Method => m.token.toList with
      | nil => exact ⟨cs, List.intercalate_singleton⟩
      | cons w ws => exact ⟨_, List.intercalate_cons_cons⟩
    obtain ⟨rest, hrest⟩ := hwords
    rw [hrest]
    rintro ⟨rfl⟩
    exact hletter.2 (hc ▸ List.mem_cons_self)
  rw [toList_source] at hsource
  refine ⟨_, Shape.parse?_words hne ordinary_words hhead hsource, fun text => ?_⟩
  rw [isSome_captures?_wordsRegex hne]
  simp only [words, List.mem_map, mem_toList, exists_exists_and_eq_and]

/-- The condition that a method is in a set accepts the names of the members, in any case. -/
theorem accepts_iff (h : s.toList ≠ []) {text : String} :
    ((Condition.ofMethods s).tested .method).accepts text = true ↔
      ∃ m ∈ s, List.Forall₂ (fun a d => a ∈ CharSet.variantsOf true d) text.toList
        m.token.toList := by
  have hplain : ':' ∉ (String.ofList ("(?i)".toList ++ s.source.toList)).toList := by
    rw [String.toList_ofList, List.mem_append, not_or]
    exact ⟨by decide, s.plain_source⟩
  obtain ⟨regex, hregex, haccepts⟩ := isSome_captures?_source h true
    (String.toList_ofList (l := "(?i)".toList ++ s.source.toList))
  rw [tested_ofMethods, Condition.accepts, Condition.regex?_pattern hplain, hregex]
  exact haccepts text

/-- A set accepts its members. -/
theorem accepts_of_mem {m : Method} (h : m ∈ s) :
    ((Condition.ofMethods s).tested .method).accepts m.token = true := by
  refine (accepts_iff (List.ne_nil_of_mem (mem_toList.mpr h))).mpr ⟨m, h, ?_⟩
  exact List.forall₂_same.mpr m.mem_variantsOf_token

end MethodSet

end HttpRouting
