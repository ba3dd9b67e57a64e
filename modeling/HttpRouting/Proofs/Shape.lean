import HttpRouting.Options
import HttpRouting.Placeholder.Expansion
import HttpRouting.Condition.Basic
import Mathlib.Data.Bool.AllAny

/-!
# Shapes of paths

The same path is read three times: by the scan that finds its placeholders, by the scan that counts
the groups of what they have been expanded into, and by the parser of patterns. None of the readings
knows the others. A shape is what all of them should see. It covers the patterns that declarations
make by themselves: literal texts, placeholders, and optional parts.

Every reading is described for a shape with an arbitrary text behind it, so readings of parts add up
to readings of the whole.

## Main definitions

* `Shape` — the shapes
* `Shape.Spells` — a text has a shape
* `Shape.pieces`, `Shape.lexemes`, `Shape.parts` — what the readings see of it
* `Shape.Tidy` — a shape whose characters mean themselves

## Main results

* `Shape.pieces_of_spells` — the placeholders that are found
* `Shape.length_captureOffsetsFrom` — the groups that are counted
* `Shape.lexes_shape` — the tokens that are read
* `Shape.foldlM_step?` — the expression that is built
-/

namespace HttpRouting

open Placeholder Regex

/-- The shape of a path pattern, or of a part of one. -/
inductive Shape where
  /-- Nothing. -/
  | nil
  /-- A character. -/
  | char (c : Char)
  /-- A character behind a backslash. -/
  | escaped (c : Char)
  /-- A placeholder. -/
  | token (name : Option (List Char))
  /-- A semicolon or a slash. -/
  | either
  /-- A character that may be left out. -/
  | maybe (c : Char)
  /-- A group that may be left out. -/
  | opt (s : Shape)
  /-- Two shapes one after the other. -/
  | seq (s t : Shape)

namespace Shape

/-- A text consists of a text of the given shape and a tail. -/
def Spells : Shape → List Char → List Char → Prop
  | nil, cs, tail => cs = tail
  | char c, cs, tail => cs = c :: tail ∧ (c = ':' → token? tail = none)
  | escaped c, cs, tail => cs = '\\' :: c :: tail
  | token name, cs, tail => ∃ cs', cs = ':' :: cs' ∧ token? cs' = some (name, tail)
  | either, cs, tail => cs = '[' :: ';' :: '/' :: ']' :: tail
  | maybe c, cs, tail => cs = c :: '?' :: tail
  | opt s, cs, tail =>
    ∃ d ds, cs = '(' :: d :: ds ∧ d ≠ '?' ∧ s.Spells (d :: ds) (')' :: '?' :: tail)
  | seq s t, cs, tail => ∃ mid, s.Spells cs mid ∧ t.Spells mid tail

/-- The number of capturing groups, placeholders included. -/
def groups : Shape → Nat
  | nil | char _ | escaped _ | either | maybe _ => 0
  | token _ => 1
  | opt s => s.groups + 1
  | seq s t => s.groups + t.groups

/-- The characters that have no meaning of their own outside a class. -/
def Ordinary (c : Char) : Prop :=
  c ∉ ['\\', '.', '^', '$', '[', '(', ')', '|', '?', '*', '+', '{']

instance (c : Char) : Decidable (Ordinary c) := inferInstanceAs (Decidable (_ ∉ _))

/-- The pieces that the scan for placeholders finds. -/
def pieces : Shape → List Piece
  | nil => []
  | char c => [.char c]
  | escaped c => [.char '\\', .char c]
  | token name => [.token name]
  | either => [.char '[', .char ';', .char '/', .char ']']
  | maybe c => [.char c, .char '?']
  | opt s => .char '(' :: .opening :: s.pieces ++ [.char ')', .char '?']
  | seq s t => s.pieces ++ t.pieces

/-- The characters that a placeholder does not match. -/
def separators : List Char := ['/', '.', ',', ';', '?']

/-- The class of characters that a placeholder matches, as it is written in a pattern. -/
def placeholderClass : Bracket :=
  .nested true (separators.foldl (fun b c => .union b (.range c c)) .nothing)

/-- The set of characters that a placeholder matches. -/
def placeholderSet : CharSet :=
  .compl (separators.foldl (fun s c => .union s (.range c c)) .never)

/-- The expression for the text of a placeholder. -/
def placeholderRegex : Regex := .cat (.chars placeholderSet) (.star true (.chars placeholderSet))

/-- The expressions that the parser makes of a shape behind `n` groups. -/
def parts : Shape → Nat → List Regex
  | nil, _ => []
  | char c, _ => [.char c]
  | escaped c, _ => [.char c]
  | token _, n => [.group (n + 1) placeholderRegex]
  | either, _ => [.chars (.union (.union .never (.range ';' ';')) (.range '/' '/'))]
  | maybe c, _ => [.alt (.char c) .empty]
  | opt s, n => [.alt (.group (n + 1) (concat (s.parts (n + 1)))) .empty]
  | seq s t, n => s.parts n ++ t.parts (n + s.groups)

/-- Characters mean themselves, behind a backslash or without, and optional groups are small enough
to be repeated. -/
def Tidy : Shape → Prop
  | nil | token _ | either => True
  | char c | maybe c => Ordinary c
  | escaped c => isMeta c = true
  | opt s => s.Tidy ∧ ∀ n, (concat (s.parts n)).weight + 64 ≤ maxWeight
  | seq s t => s.Tidy ∧ t.Tidy

/-! ### Placeholders -/

theorem pieces_nil (m : Mode) : Placeholder.pieces m [] = [] := by rw [Placeholder.pieces]

theorem next_of_settles {m : Mode} {c : Char} (h : m.settles c = true) :
    m.next c = Mode.afterPlain c := by
  unfold Mode.next
  rw [if_pos h]

/-- A character that starts no placeholder is kept. -/
theorem pieces_cons {m : Mode} {c : Char} {cs : List Char}
    (h : c = ':' → m.settles c = true → token? cs = none) :
    Placeholder.pieces m (c :: cs) =
      openings m c ++ .char c :: Placeholder.pieces (m.next c) cs := by
  rw [Placeholder.pieces]
  split
  · next hc =>
    obtain ⟨rfl, hsettles⟩ := hc
    split
    · next htoken => simp [h rfl hsettles] at htoken
    · rw [next_of_settles hsettles]
      rfl
  · rfl

theorem pieces_of_settles {m : Mode} {cs rest : List Char} {name : Option (List Char)}
    (hm : m.settles ':' = true) (h : token? cs = some (name, rest)) :
    Placeholder.pieces m (':' :: cs) =
      openings m ':' ++ .token name :: Placeholder.pieces .plain rest := by
  rw [Placeholder.pieces, if_pos ⟨rfl, hm⟩]
  split
  · next htoken =>
    obtain ⟨rfl, rfl⟩ := Prod.mk.inj (Option.some.inj (h.symm.trans htoken))
    rfl
  · next htoken =>
    rw [h] at htoken
    cases htoken

theorem pieces_token {cs rest : List Char} {name : Option (List Char)}
    (h : token? cs = some (name, rest)) :
    Placeholder.pieces .plain (':' :: cs) = .token name :: Placeholder.pieces .plain rest :=
  pieces_of_settles rfl h

theorem next_plain {c : Char} (h : Ordinary c) : Mode.plain.next c = .plain := by
  simp only [Ordinary, List.mem_cons, List.not_mem_nil, or_false, not_or] at h
  simp [Mode.next, Mode.settles, Mode.afterPlain, h]

theorem pieces_ordinary {c : Char} {cs : List Char} (hc : Ordinary c)
    (h : c = ':' → token? cs = none) :
    Placeholder.pieces .plain (c :: cs) = .char c :: Placeholder.pieces .plain cs := by
  rw [pieces_cons fun hcolon _ => h hcolon, next_plain hc]
  rfl

/-- Behind a parenthesis a group has been opened, unless a question mark follows. -/
theorem pieces_paren {c : Char} {cs : List Char} (h : c ≠ '?') :
    Placeholder.pieces .paren (c :: cs) = .opening :: Placeholder.pieces .plain (c :: cs) := by
  have hsettles : Mode.paren.settles c = true := by simpa [Mode.settles] using h
  have hopenings : openings .paren c = [.opening] := by simp [openings, Mode.opened, h]
  have hnext : Mode.paren.next c = Mode.plain.next c := by
    rw [next_of_settles hsettles, next_of_settles rfl]
  -- The scan looks for a placeholder behind the parenthesis as it does elsewhere, so both cases of
  -- that are followed.
  by_cases hcolon : c = ':' ∧ (token? cs).isSome = true
  · obtain ⟨rfl, htoken⟩ := hcolon
    obtain ⟨⟨name, rest⟩, htoken⟩ := Option.isSome_iff_exists.mp htoken
    rw [pieces_token htoken, pieces_of_settles hsettles htoken, hopenings]
    rfl
  · have hnone : c = ':' → token? cs = none := fun hc => by simpa [hc] using hcolon
    rw [pieces_cons fun hc _ => hnone hc, pieces_cons fun hc _ => hnone hc, hopenings, hnext]
    rfl

/-- The scan finds the pieces of a shape in a text that has it. -/
theorem pieces_of_spells {s : Shape} {cs tail : List Char} (h : s.Spells cs tail)
    (tidy : s.Tidy) :
    Placeholder.pieces .plain cs = s.pieces ++ Placeholder.pieces .plain tail := by
  induction s generalizing cs tail with
  | nil =>
    obtain rfl : cs = tail := h
    rfl
  | char c =>
    obtain ⟨rfl, hcolon⟩ := h
    exact pieces_ordinary tidy hcolon
  | escaped c =>
    obtain rfl : cs = '\\' :: c :: tail := h
    have hmode : Mode.plain.next '\\' = .escape := rfl
    rw [pieces_cons (by simp), hmode, pieces_cons (by simp [Mode.settles])]
    rfl
  | token name =>
    obtain ⟨cs', rfl, htoken⟩ := h
    exact pieces_token htoken
  | either =>
    -- Inside a class the scan keeps every character.
    obtain rfl : cs = '[' :: ';' :: '/' :: ']' :: tail := h
    rw [pieces_cons (by simp), pieces_cons (by simp), pieces_cons (by simp),
      pieces_cons (by simp)]
    rfl
  | maybe c =>
    obtain rfl : cs = c :: '?' :: tail := h
    rw [pieces_ordinary tidy fun _ => rfl, pieces_cons (by simp)]
    rfl
  | opt s ih =>
    obtain ⟨d, ds, rfl, hd, hs⟩ := h
    have hmode : Mode.plain.next '(' = .paren := rfl
    rw [pieces_cons (by simp), hmode, pieces_paren hd, ih hs tidy.1, pieces_cons (by simp),
      pieces_cons (by simp), pieces, List.append_assoc]
    rfl
  | seq s t ihs iht =>
    obtain ⟨mid, hs, ht⟩ := h
    rw [ihs hs tidy.1, iht ht tidy.2, pieces, List.append_assoc]

/-! ### Expanded text -/

/-- The pattern for the text of a placeholder. -/
def placeholderText : List Char := '[' :: '^' :: separators ++ [']', '+']

/-- The text of a shape whose placeholders have been expanded. -/
def expanded : Shape → List Char
  | nil => []
  | char c => [c]
  | escaped c => ['\\', c]
  | token _ => '(' :: placeholderText ++ [')']
  | either => "[;/]".toList
  | maybe c => [c, '?']
  | opt s => '(' :: s.expanded ++ ")?".toList
  | seq s t => s.expanded ++ t.expanded

theorem flatMap_pieces (s : Shape) :
    s.pieces.flatMap (·.expanded placeholderText) = s.expanded := by
  induction s with
  | opt s ih =>
    rw [pieces, expanded, ← ih]
    simp [Piece.expanded]
  | seq s t ihs iht => simp [pieces, expanded, ihs, iht]
  | _ => rfl

/-- No text of a tidy shape starts with a question mark. -/
theorem head?_expanded {s : Shape} (tidy : s.Tidy) {tail : List Char}
    (h : tail.head? ≠ some '?') : (s.expanded ++ tail).head? ≠ some '?' := by
  induction s generalizing tail with
  | nil => exact h
  | char c =>
    rintro ⟨rfl⟩
    exact (by decide : ¬Ordinary '?') tidy
  | maybe c =>
    rintro ⟨rfl⟩
    exact (by decide : ¬Ordinary '?') tidy
  | seq s t ihs iht =>
    rw [expanded, List.append_assoc]
    exact ihs tidy.1 (iht tidy.2 h)
  | _ => simp [expanded]

/-! ### Groups -/

theorem captureOffsetsFrom_plain (offset : Nat) (c : Char) (cs : List Char) :
    captureOffsetsFrom .plain offset (c :: cs) =
      captureOffsetsFrom (Mode.plain.next c) (offset + c.utf8Size) cs := rfl

theorem captureOffsetsFrom_paren {cs : List Char} (h : cs.head? ≠ some '?') (offset : Nat) :
    captureOffsetsFrom .paren offset cs =
      (offset - 1) :: captureOffsetsFrom .plain offset cs := by
  cases cs with
  | nil => rfl
  | cons c cs =>
    have hc : c ≠ '?' := by simpa using h
    have hopened : Mode.paren.opened (some c) = some 1 := by simp [Mode.opened, hc]
    have hsettles : Mode.paren.settles c = true := by simpa [Mode.settles] using hc
    rw [captureOffsetsFrom, hopened, captureOffsetsFrom_plain, next_of_settles hsettles,
      next_of_settles rfl]
    rfl

/-- The scan counts the groups of a tidy shape, from wherever the shape starts. -/
theorem length_captureOffsetsFrom {s : Shape} (tidy : s.Tidy) {tail : List Char}
    (htail : tail.head? ≠ some '?') (offset : Nat) :
    ∃ offset', (captureOffsetsFrom .plain offset (s.expanded ++ tail)).length =
      s.groups + (captureOffsetsFrom .plain offset' tail).length := by
  -- Offsets move on along the text, but they do not change how many groups there are.
  induction s generalizing tail offset with
  | nil => exact ⟨offset, (Nat.zero_add _).symm⟩
  | char c =>
    refine ⟨offset + c.utf8Size, ?_⟩
    rw [expanded, List.cons_append, captureOffsetsFrom_plain, next_plain tidy]
    exact (Nat.zero_add _).symm
  | escaped c => exact ⟨offset + 1 + c.utf8Size, (Nat.zero_add _).symm⟩
  | token name =>
    -- The class behind the parenthesis shows that a group has been opened.
    exact ⟨offset + 11, Nat.add_comm _ _⟩
  | either => exact ⟨offset + 4, (Nat.zero_add _).symm⟩
  | maybe c =>
    refine ⟨offset + c.utf8Size + 1, ?_⟩
    rw [expanded, List.cons_append, captureOffsetsFrom_plain, next_plain tidy]
    exact (Nat.zero_add _).symm
  | opt s ih =>
    have hclose : (')' :: '?' :: tail).head? ≠ some '?' := by simp
    obtain ⟨stop, hstop⟩ := ih tidy.1 hclose (offset + 1)
    refine ⟨stop + 1 + 1, ?_⟩
    have hmode : Mode.plain.next '(' = .paren := rfl
    have htext : (opt s).expanded ++ tail = '(' :: (s.expanded ++ ')' :: '?' :: tail) := by
      simp [expanded]
    rw [htext, captureOffsetsFrom_plain, hmode,
      captureOffsetsFrom_paren (head?_expanded tidy.1 hclose), List.length_cons]
    have hoffset : '('.utf8Size = 1 := rfl
    rw [hoffset, hstop, groups, Nat.add_right_comm]
    rfl
  | seq s t ihs iht =>
    obtain ⟨mid, hmid⟩ := ihs tidy.1 (head?_expanded tidy.2 htail) offset
    obtain ⟨stop, hstop⟩ := iht tidy.2 htail mid
    refine ⟨stop, ?_⟩
    rw [expanded, List.append_assoc, hmid, hstop, groups, Nat.add_assoc]

/-! ### Tokens -/

/-- The class of a semicolon and a slash, as it is written in a pattern. -/
def eitherClass : Bracket :=
  .nested false (.union (.union .nothing (.range ';' ';')) (.range '/' '/'))

/-- The parenthesis that opens a capturing group. -/
def openLexeme : Lexeme := ⟨.openGroup (.capturing none), ['(']⟩

/-- The question mark behind something that may be left out. -/
def maybeLexeme : Lexeme := ⟨.times 0 (some 1) false, ['?']⟩

/-- The lexemes that are read from a shape. -/
def lexemes : Shape → List Lexeme
  | nil => []
  | char c => [⟨.atom (.char c), [c]⟩]
  | escaped c => [⟨.atom (.char c), ['\\', c]⟩]
  | token _ =>
    [openLexeme, ⟨.bracket placeholderClass, '[' :: '^' :: separators ++ [']']⟩,
      ⟨.times 1 none false, ['+']⟩, ⟨.closeGroup, [')']⟩]
  | either => [⟨.bracket eitherClass, "[;/]".toList⟩]
  | maybe c => [⟨.atom (.char c), [c]⟩, maybeLexeme]
  | opt s => openLexeme :: s.lexemes ++ [⟨.closeGroup, [')']⟩, maybeLexeme]
  | seq s t => s.lexemes ++ t.lexemes

theorem read?_char {c : Char} (h : Ordinary c) (rest : List Char) :
    Token.read? false (c :: rest) = some (.atom (.char c), rest) := by
  simp only [Ordinary, List.mem_cons, List.not_mem_nil, or_false, not_or] at h
  unfold Token.read?
  split
  · next hverbose => simp at hverbose
  · split <;> simp_all

theorem read?_escaped {c : Char} (h : isMeta c = true) (rest : List Char) :
    Token.read? false ('\\' :: c :: rest) = some (.atom (.char c), rest) := by
  have escaped : ∀ c ∈ ['\\', '.', '+', '*', '?', '(', ')', '|', '[', ']', '{', '}', '^', '$', '#',
      '&', '-', '~'], Token.read? false ('\\' :: c :: rest) = some (.atom (.char c), rest) := by
    simp only [List.forall_mem_cons]
    exact ⟨rfl, rfl, rfl, rfl, rfl, rfl, rfl, rfl, rfl, rfl, rfl, rfl, rfl, rfl, rfl, rfl, rfl, rfl,
      by simp⟩
  exact escaped c (by simpa [isMeta] using h)

theorem read?_open {rest : List Char} (h : rest.head? ≠ some '?') :
    Token.read? false ('(' :: rest) = some (.openGroup (.capturing none), rest) := by
  change Token.group? false rest = _
  unfold Token.group? advance
  rw [if_neg Bool.false_ne_true]
  split <;> simp_all

theorem read?_maybe {rest : List Char} (h : rest.head? ≠ some '?') :
    Token.read? false ('?' :: rest) = some (.times 0 (some 1) false, rest) := by
  change some (Token.marked 0 (some 1) rest) = _
  unfold Token.marked
  split <;> simp_all

/-- The characters that stand for themselves anywhere in a class. -/
def Member (c : Char) : Prop := c ∉ ['\\', '[', ']', '-', '&', '~']

instance (c : Char) : Decidable (Member c) := inferInstanceAs (Decidable (_ ∉ _))

theorem readFrom?_cons {c d : Char} (hc : Member c) (hd : d ≠ '-') (l : Bracket.Level)
    (rest : List Char) :
    Bracket.readFrom? false l [] (c :: d :: rest) =
      Bracket.readFrom? false (l.push (.range c c)) [] (d :: rest) := by
  simp only [Member, List.mem_cons, List.not_mem_nil, or_false, not_or] at hc
  have hop : SetOp.read? c (d :: rest) = none := by simp [SetOp.read?, hc]
  have hitem : Bracket.item? false c (d :: rest) = some (.range c c, d :: rest) := by
    simp [Bracket.item?, Bracket.atom?, hc, next, advance, hd, Bracket.ofAtom?]
  have hstep : Bracket.step? false l [] (c :: d :: rest) =
      some (.inr (l.push (.range c c), []), d :: rest) := by
    simp [Bracket.step?, next, advance, hc, hop, hitem]
  rw [Bracket.readFrom?, hstep]
  simp

/-- A class that lists members only is read as the list of them. -/
theorem readFrom?_members {cs : List Char} (hcs : ∀ c ∈ cs, Member c) (l : Bracket.Level)
    (rest : List Char) :
    Bracket.readFrom? false l [] (cs ++ ']' :: rest) =
      some ((cs.foldl (fun l c => l.push (.range c c)) l).close, rest) := by
  induction cs generalizing l with
  | nil =>
    rw [List.nil_append, Bracket.readFrom?]
    rfl
  | cons c cs ih =>
    obtain ⟨hc, hcs⟩ := List.forall_mem_cons.mp hcs
    -- No member is followed by a dash, so none of them starts a range.
    obtain ⟨d, ds, hd, hnext⟩ : ∃ d ds, cs ++ ']' :: rest = d :: ds ∧ d ≠ '-' := by
      cases cs with
      | nil => exact ⟨']', rest, rfl, by decide⟩
      | cons d ds =>
        refine ⟨d, ds ++ ']' :: rest, rfl, ?_⟩
        rintro rfl
        exact (by decide : ¬Member '-') (hcs '-' List.mem_cons_self)
    rw [List.cons_append, hd, readFrom?_cons hc hnext, ← hd, ih hcs, List.foldl_cons]

theorem openDashes?_cons {c : Char} (h : c ≠ '-') (l : Bracket.Level) (rest : List Char) :
    Bracket.Level.openDashes? false l (c :: rest) = some (l, c :: rest) := by
  rw [Bracket.Level.openDashes?]
  simp [next, advance, h]

theorem read?_bracket {cs rest : List Char} {b : Bracket}
    (h : Bracket.read? false cs = some (b, rest)) :
    Token.read? false ('[' :: cs) = some (.bracket b, rest) := by
  have hread : Token.read? false ('[' :: cs) =
      (Bracket.read? false cs).bind fun p => some (.bracket p.1, p.2) := rfl
  rw [hread, h]
  rfl

theorem read?_placeholderClass (rest : List Char) :
    Token.read? false ('[' :: '^' :: separators ++ ']' :: rest) =
      some (.bracket placeholderClass, rest) := by
  have hopen : Bracket.Level.open? false ('^' :: separators ++ ']' :: rest) =
      some ({ negated := true }, separators ++ ']' :: rest) := by
    simp [Bracket.Level.open?, openDashes?_cons, next, advance, separators]
  have hmembers : ∀ c ∈ separators, Member c := List.all_iff_forall_prop.mp (by decide)
  have hclass : Bracket.read? false ('^' :: separators ++ ']' :: rest) =
      some (placeholderClass, rest) := by
    rw [Bracket.read?, hopen]
    exact readFrom?_members hmembers { negated := true } rest
  exact read?_bracket hclass

theorem read?_eitherClass (rest : List Char) :
    Token.read? false ('[' :: ';' :: '/' :: ']' :: rest) =
      some (.bracket eitherClass, rest) := by
  have hopen : Bracket.Level.open? false (';' :: '/' :: ']' :: rest) =
      some ({ negated := false }, [';', '/'] ++ ']' :: rest) := by
    simp [Bracket.Level.open?, openDashes?_cons, next, advance]
  have hmembers : ∀ c ∈ [';', '/'], Member c := List.all_iff_forall_prop.mp (by decide)
  have hclass : Bracket.read? false (';' :: '/' :: ']' :: rest) = some (eitherClass, rest) := by
    rw [Bracket.read?, hopen]
    exact readFrom?_members hmembers { negated := false } rest
  exact read?_bracket hclass

/-- From a text some lexemes are read, and then those of a tail, in whatever groups it stands. -/
def Lexes (outer : List Bool) (cs : List Char) (ls : List Lexeme) (outer' : List Bool)
    (tail : List Char) : Prop :=
  lexemesFrom? false outer cs = (lexemesFrom? false outer' tail).map (ls ++ ·)

theorem Lexes.trans {o o₁ o₂ : List Bool} {cs mid tail : List Char} {ls ls' : List Lexeme}
    (h : Lexes o cs ls o₁ mid) (h' : Lexes o₁ mid ls' o₂ tail) :
    Lexes o cs (ls ++ ls') o₂ tail := by
  unfold Lexes at *
  rw [h, h', Option.map_map]
  congr 1
  funext ls''
  simp

/-- One lexeme, given what it does to the groups that are open. -/
theorem Lexes.one {l : Lexeme} {tail : List Char} {o o' : List Bool}
    (h : Token.read? false (l.text ++ tail) = some (l.token, tail)) (hne : l.text ≠ [])
    (hscope : l.token.scope false o = (false, o')) : Lexes o (l.text ++ tail) [l] o' tail := by
  have hnonempty : (l.text ++ tail).isEmpty = false := by simp [hne]
  -- The reader goes on only if the text has become shorter.
  have hshorter : tail.length < (l.text ++ tail).length := by
    have := List.length_pos_iff.mpr hne
    simp [this]
  have htake : (l.text ++ tail).take ((l.text ++ tail).length - tail.length) = l.text := by simp
  unfold Lexes
  rw [lexemesFrom?, hnonempty, if_neg Bool.false_ne_true, h]
  dsimp only
  rw [if_pos hshorter, htake, hscope]
  cases lexemesFrom? false o' tail with
  | none => rfl
  | some ls => rfl

theorem lexes_open {tail : List Char} (h : tail.head? ≠ some '?') (o : List Bool) :
    Lexes o ('(' :: tail) [openLexeme] (false :: o) tail :=
  .one (l := openLexeme) (read?_open h) (List.cons_ne_nil _ _) rfl

theorem lexes_close (tail : List Char) (o : List Bool) :
    Lexes (false :: o) (')' :: tail) [⟨.closeGroup, [')']⟩] o tail :=
  .one (l := ⟨.closeGroup, [')']⟩) rfl (List.cons_ne_nil _ _) rfl

theorem lexes_maybe {tail : List Char} (h : tail.head? ≠ some '?') (o : List Bool) :
    Lexes o ('?' :: tail) [maybeLexeme] o tail :=
  .one (l := maybeLexeme) (read?_maybe h) (List.cons_ne_nil _ _) rfl

theorem lexes_char {c : Char} (h : Ordinary c) (tail : List Char) (o : List Bool) :
    Lexes o (c :: tail) [⟨.atom (.char c), [c]⟩] o tail :=
  .one (l := ⟨.atom (.char c), [c]⟩) (read?_char h tail) (List.cons_ne_nil _ _) rfl

theorem lexes_token (name : Option (List Char)) (tail : List Char) (o : List Bool) :
    Lexes o ((token name).expanded ++ tail) (token name).lexemes o tail := by
  have hopen : Lexes o ('(' :: (placeholderText ++ ')' :: tail)) [openLexeme] (false :: o)
      (placeholderText ++ ')' :: tail) := lexes_open (by simp [placeholderText]) o
  have hclass : Lexes (false :: o) (placeholderText ++ ')' :: tail)
      [⟨.bracket placeholderClass, '[' :: '^' :: separators ++ [']']⟩] (false :: o)
      ('+' :: ')' :: tail) :=
    .one (l := ⟨.bracket placeholderClass, '[' :: '^' :: separators ++ [']']⟩)
      (read?_placeholderClass ('+' :: ')' :: tail)) (List.cons_ne_nil _ _) rfl
  have hplus : Lexes (false :: o) ('+' :: ')' :: tail) [⟨.times 1 none false, ['+']⟩] (false :: o)
      (')' :: tail) :=
    .one (l := ⟨.times 1 none false, ['+']⟩) rfl (List.cons_ne_nil _ _) rfl
  exact hopen.trans (hclass.trans (hplus.trans (lexes_close tail o)))

/-- The parser reads the lexemes of a tidy shape, in whatever groups it stands. -/
theorem lexes_shape {s : Shape} (tidy : s.Tidy) {tail : List Char}
    (htail : tail.head? ≠ some '?') (o : List Bool) :
    Lexes o (s.expanded ++ tail) s.lexemes o tail := by
  induction s generalizing tail o with
  | nil => simp [Lexes, expanded, lexemes]
  | char c => exact lexes_char tidy tail o
  | escaped c =>
    exact .one (l := ⟨.atom (.char c), ['\\', c]⟩) (read?_escaped tidy tail)
      (List.cons_ne_nil _ _) rfl
  | token name => exact lexes_token name tail o
  | either =>
    exact .one (l := ⟨.bracket eitherClass, ['[', ';', '/', ']']⟩) (read?_eitherClass tail)
      (List.cons_ne_nil _ _) rfl
  | maybe c => exact (lexes_char tidy ('?' :: tail) o).trans (lexes_maybe htail o)
  | opt s ih =>
    have hclose : (')' :: '?' :: tail).head? ≠ some '?' := by simp
    have hopen : Lexes o ('(' :: (s.expanded ++ ')' :: '?' :: tail)) [openLexeme] (false :: o)
        (s.expanded ++ ')' :: '?' :: tail) := lexes_open (head?_expanded tidy.1 hclose) o
    have hinner := ih tidy.1 hclose (false :: o)
    have hrest := (lexes_close ('?' :: tail) o).trans (lexes_maybe htail o)
    simpa [expanded, lexemes] using hopen.trans (hinner.trans hrest)
  | seq s t ihs iht =>
    rw [expanded, List.append_assoc]
    exact (ihs tidy.1 (head?_expanded tidy.2 htail) o).trans (iht tidy.2 htail o)

/-! ### Expressions -/

/-- A builder that has read some more parts and groups. -/
def add (b : Builder) (rs : List Regex) (n : Nat) : Builder :=
  { b with parts := rs.reverse.map some ++ b.parts, groups := b.groups + n }

theorem add_add (b : Builder) (rs rs' : List Regex) (n n' : Nat) :
    add (add b rs n) rs' n' = add b (rs ++ rs') (n + n') := by
  simp [add, Nat.add_assoc]

/-- A part that is marked by a question mark may be left out. -/
theorem repeated?_maybe {r : Regex} (hne : r ≠ .empty) (hweight : r.weight ≤ maxWeight) :
    repeated? true 0 (some 1) r = some (.alt r .empty) := by
  unfold repeated?
  rw [if_pos (.inr (by simpa using hweight))]
  unfold repeated
  split
  · rfl
  · cases r with
    | empty => exact absurd rfl hne
    | _ => rfl

theorem step?_maybe {b : Builder} (hflags : b.flags = {}) {r : Regex} (hne : r ≠ .empty)
    (hweight : r.weight ≤ maxWeight) :
    (b.push r).step? maybeLexeme.token = some (b.push (.alt r .empty)) := by
  have hrepeated := repeated?_maybe hne hweight
  simp [Builder.step?, maybeLexeme, Builder.repeatLast?, Builder.push, hflags, hrepeated]

theorem weight_char_le (c : Char) : (Regex.char c).weight ≤ 128 := by
  have hsize := c.utf8Size_le_four
  have hweight : (Regex.char c).weight = 32 * c.utf8Size := if_pos rfl
  omega

theorem step?_char {b : Builder} (hflags : b.flags = {}) (c : Char) :
    b.step? (.atom (.char c)) = some (b.push (.char c)) := by
  simp [Builder.step?, Atom.toRegex?, Atom.charRegex, hflags]

theorem step?_bracket {b : Builder} (hflags : b.flags = {}) {k : Bracket} {set : CharSet}
    (hset : k.toSet? {} = some set) : b.step? (.bracket k) = some (b.push (.chars set)) := by
  simp [Builder.step?, hflags, hset]

theorem step?_plus {b : Builder} (hflags : b.flags = {}) :
    (b.push (.chars placeholderSet)).step? (.times 1 none false) =
      some (b.push placeholderRegex) := by
  have hrepeated : repeated? true 1 none (.chars placeholderSet) = some placeholderRegex := by
    decide
  simp [Builder.step?, Builder.repeatLast?, Builder.push, hflags, hrepeated]

/-- A builder that has just read the parenthesis of a capturing group. -/
def opened (b : Builder) : Builder :=
  { b.openGroup (some (b.groups + 1)) [] with groups := b.groups + 1 }

/-- The parts that have been read since a group was opened are its contents. -/
theorem step?_close (b : Builder) (rs : List Regex) (n : Nat) :
    (add (opened b) rs n).step? .closeGroup =
      some (add b [.group (b.groups + 1) (concat rs)] (n + 1)) := by
  have hsequence : (add (opened b) rs n).sequence = concat rs := by
    simp [Builder.sequence, add, opened, Builder.openGroup]
  simp only [Builder.step?, Builder.closeGroup?, Builder.alternatives, hsequence]
  simp [add, opened, Builder.openGroup, choice, Nat.add_assoc, Nat.add_comm 1]

/-- The parser builds the parts of a tidy shape, whatever it has read before. -/
theorem foldlM_step? {s : Shape} (tidy : s.Tidy) (b : Builder) (hflags : b.flags = {}) :
    (s.lexemes.map (·.token)).foldlM Builder.step? b =
      some (add b (s.parts b.groups) s.groups) := by
  induction s generalizing b with
  | nil => rfl
  | char c =>
    simp only [lexemes, List.map_cons, List.map_nil, List.foldlM_cons, List.foldlM_nil,
      step?_char hflags]
    rfl
  | escaped c =>
    simp only [lexemes, List.map_cons, List.map_nil, List.foldlM_cons, List.foldlM_nil,
      step?_char hflags]
    rfl
  | token name =>
    have hopen : b.step? openLexeme.token = some (opened b) := rfl
    have hset : placeholderClass.toSet? {} = some placeholderSet := rfl
    have hclass := step?_bracket (b := opened b) hflags hset
    have hclose : ((opened b).push placeholderRegex).step? .closeGroup =
        some (add b [.group (b.groups + 1) placeholderRegex] 1) :=
      step?_close b [placeholderRegex] 0
    simp only [lexemes, List.map_cons, List.map_nil, List.foldlM_cons, List.foldlM_nil,
      Option.bind_eq_bind, Option.bind_some, hopen, hclass, step?_plus (b := opened b) hflags,
      hclose]
    rfl
  | either =>
    simp only [lexemes, List.map_cons, List.map_nil, List.foldlM_cons, List.foldlM_nil,
      step?_bracket hflags (k := eitherClass) rfl]
    rfl
  | maybe c =>
    have hweight := Nat.le_trans (weight_char_le c) (by decide : 128 ≤ maxWeight)
    simp only [lexemes, List.map_cons, List.map_nil, List.foldlM_cons, List.foldlM_nil,
      step?_char hflags, Option.bind_eq_bind, Option.bind_some,
      step?_maybe hflags (r := .char c) nofun hweight]
    rfl
  | opt s ih =>
    obtain ⟨hs, hweight⟩ := tidy
    have hopen : b.step? openLexeme.token = some (opened b) := rfl
    have hclose := step?_close b (s.parts (b.groups + 1)) s.groups
    -- The parser limits the size of what is repeated, and a question mark counts as a repetition.
    have hsmall : (Regex.group (b.groups + 1) (concat (s.parts (b.groups + 1)))).weight ≤
        maxWeight := by
      rw [Regex.weight, Nat.add_comm]
      exact hweight (b.groups + 1)
    have hmaybe : (add b [.group (b.groups + 1) (concat (s.parts (b.groups + 1)))]
        (s.groups + 1)).step? maybeLexeme.token =
        some (add b ((opt s).parts b.groups) (opt s).groups) :=
      step?_maybe (b := add b [] (s.groups + 1)) hflags nofun hsmall
    rw [lexemes, List.map_append, List.map_cons, List.foldlM_append, List.foldlM_cons, hopen]
    simp only [Option.bind_eq_bind, Option.bind_some, ih hs (opened b) hflags]
    simp only [List.map_cons, List.map_nil, List.foldlM_cons, List.foldlM_nil]
    refine (congrArg (Option.bind · _) hclose).trans ?_
    exact (congrArg (Option.bind · pure) hmaybe).trans rfl
  | seq s t ihs iht =>
    have ht := iht tidy.2 (add b (s.parts b.groups) s.groups) hflags
    rw [lexemes, List.map_append, List.foldlM_append, ihs tidy.1 b hflags]
    refine ht.trans ?_
    rw [add_add]
    rfl

end Shape

end HttpRouting
