import HttpRouting.Proofs.ClassScan
import HttpRouting.Proofs.Enclosed

/-!
# The scan and the tokens of a pattern

The scan does not parse a pattern, but it goes over the text of each token as if it did: it is in
plain text again behind the token, it has shown a group if the token opens one, and it has read no
colon in it as plain text that belongs to the token. Three things can lead it astray: the verbose
mode, of which it knows nothing, a class in a class, and a bracket in the name of a group. There it
may still be right; whether it is can be seen from the text of the token alone. The name of a
property is harmless, except that a colon in it is read as plain text.

## Main definitions

* `Regex.Lexeme.suspect` — a token by which the scan may be led astray
* `Regex.Lexeme.asksForProperty` — an escape that may have a colon in it
* `Regex.Lexeme.Agrees` — the scan sees of a token what the parser sees
* `Placeholder.Spared` — a colon that is not the first of a placeholder
* `Placeholder.Mode.Follows` — the scan goes over tokens one after the other

## Main results

* `Regex.Token.exists_of_read?` — the scan agrees about every token that is not suspect
* `Regex.follows_of_lexemesFrom?` — the scan of a whole pattern
-/

namespace HttpRouting

open Placeholder Regex

/-! ### Colons -/

namespace Placeholder

/-- In a text that is scanned, every colon that is read as plain text stands before a character of
the text that makes no placeholder of it. -/
def KeepsColons (m : Mode) : List Char → Prop
  | [] => True
  | c :: cs => (c = ':' → m.settles ':' = true →
      ∃ d ∈ cs.head?, Identifier.isStart d = false ∧ d ≠ ':') ∧ KeepsColons (m.next c) cs

instance decidableKeepsColons (m : Mode) : (cs : List Char) → Decidable (KeepsColons m cs)
  | [] => isTrue trivial
  | c :: cs =>
    have := decidableKeepsColons (m.next c) cs
    decidable_of_iff ((c = ':' → m.settles ':' = true →
        (cs.head?.any fun d => !Identifier.isStart d && d != ':') = true) ∧
      KeepsColons (m.next c) cs) (by simp [KeepsColons, Option.any_eq_true])

variable {m m' : Mode} {cs ds : List Char}

theorem Quiet.keepsColons (h : Quiet m cs m') : KeepsColons m cs := by
  induction h with
  | nil => trivial
  | cons hopened hcolon hcs ih =>
    refine ⟨fun hc hm => ?_, ih⟩
    rw [hcolon hc] at hm
    cases hm

theorem keepsColons_of_not_mem (h : ':' ∉ cs) (m : Mode) : KeepsColons m cs := by
  induction cs generalizing m with
  | nil => trivial
  | cons c cs ih =>
    obtain ⟨hc, hcs⟩ := not_or.mp (mt List.mem_cons.mpr h)
    exact ⟨fun heq => absurd heq.symm hc, ih hcs _⟩

/-- A colon between two texts is not the first of a placeholder: the scan does not read it as plain
text, or what follows it is neither a name nor another colon. -/
def Spared (m : Mode) (cs ds : List Char) : Prop :=
  (m.after cs).settles ':' = true → ∃ d ∈ ds.head?, Identifier.isStart d = false ∧ d ≠ ':'

theorem KeepsColons.spared (h : KeepsColons m (cs ++ ':' :: ds)) : Spared m cs ds := by
  induction cs generalizing m with
  | nil => exact h.1 rfl
  | cons c cs ih => exact ih h.2

end Placeholder

namespace Regex

/-! ### Tokens -/

/-- The scan may be led astray by a token that is read in the verbose mode, by a class with another
class in it, and by a bracket in the name of a group. -/
def Lexeme.suspect (v : Bool) (l : Lexeme) : Bool :=
  v || match l.token with
    | .bracket b => !b.isFlat
    | .openGroup (.capturing (some name)) => name.toList.contains '['
    | _ => false

/-- The token asks for a property, whose name may have a colon. -/
def Lexeme.asksForProperty (l : Lexeme) : Bool :=
  match l.token with
  | .atom a => a.isProperty
  | _ => false

/-- The scan sees of a token what the parser sees: a group is shown exactly if the token opens one,
and plain text follows. -/
structure Lexeme.Agrees (l : Lexeme) : Prop where
  /-- The groups that are shown. -/
  offsets_eq : captureOffsetsFrom .plain 0 l.text = if l.token.opensGroup then [0] else []
  /-- The token is over; only a parenthesis by itself waits for the next character. -/
  settled : Mode.plain.after l.text = .plain ∨ l.text = ['(']

instance (l : Lexeme) : Decidable l.Agrees :=
  decidable_of_iff (_ ∧ _) ⟨fun h => ⟨h.1, h.2⟩, fun h => ⟨h.1, h.2⟩⟩

/-- An escape, a class, or the opening of a group. -/
def Lexeme.IsSyntax (l : Lexeme) : Prop :=
  match l.token with
  | .atom _ => l.text.head? = some '\\'
  | .bracket _ | .openGroup _ | .setFlags _ => True
  | _ => False

instance (l : Lexeme) : Decidable l.IsSyntax := by
  unfold Lexeme.IsSyntax
  split <;> infer_instance

variable {v : Bool} {cs rest text : List Char} {t : Token} {c : Char}

/-- What is known of the text of a token and of what follows it. -/
structure Token.ReadFrom (v : Bool) (t : Token) (text rest : List Char) : Prop where
  /-- Something has been read. -/
  ne_nil : text ≠ []
  /-- A parenthesis by itself captures, so that no question mark follows. -/
  head_ne : text = ['('] → rest.head? ≠ some '?'
  /-- The scan agrees. -/
  agrees : Lexeme.suspect v ⟨t, text⟩ = false → Lexeme.Agrees ⟨t, text⟩
  /-- Syntax starts with no colon, and the scan keeps the colons in it, unless they stand in the
  name of a property. -/
  colons : Lexeme.IsSyntax ⟨t, text⟩ → text.head? ≠ some ':' ∧
    (Lexeme.suspect v ⟨t, text⟩ = false → Lexeme.asksForProperty ⟨t, text⟩ = false →
      KeepsColons .plain text)

theorem Lexeme.agrees_of_quiet (ht : t.opensGroup = false) (h : Quiet .plain text .plain) :
    Lexeme.Agrees ⟨t, text⟩ := by
  refine ⟨?_, .inl h.after_eq⟩
  rw [h.captureOffsetsFrom_eq, if_neg (by simp [ht])]

namespace Token

/-- A token that is scanned quietly. -/
theorem readFrom_of_quiet (ht : t.opensGroup = false) (hc : c ≠ '(') (hcolon : c ≠ ':')
    (h : Lexeme.suspect v ⟨t, c :: text⟩ = false → Quiet .plain (c :: text) .plain) :
    ReadFrom v t (c :: text) rest where
  ne_nil := List.cons_ne_nil c text
  head_ne heq := absurd (List.cons.inj heq).1 hc
  agrees hsuspect := Lexeme.agrees_of_quiet ht (h hsuspect)
  colons _ := ⟨by simpa using hcolon, fun hsuspect _ => (h hsuspect).keepsColons⟩

theorem verbose_of_suspect (h : Lexeme.suspect v ⟨t, text⟩ = false) : v = false := by
  cases v with
  | false => rfl
  | true => cases h

/-- Harmless characters show no group, and plain text goes on behind them. -/
theorem scan_of_harmless {cs : List Char} (h : ∀ c ∈ cs, Harmless c) (offset : Nat) :
    captureOffsetsFrom .plain offset cs = [] ∧ Mode.plain.after cs = .plain := by
  induction cs generalizing offset with
  | nil => exact ⟨rfl, rfl⟩
  | cons c cs ih =>
    obtain ⟨hc, hcs⟩ := List.forall_mem_cons.mp h
    obtain ⟨hoffsets, hafter⟩ := ih hcs (offset + c.utf8Size)
    have hnext := (Mode.next_of_harmless hc).1
    refine ⟨?_, ?_⟩
    · rw [Shape.captureOffsetsFrom_plain, hnext, hoffsets]
    · rw [Mode.after, List.foldl_cons, hnext]
      exact hafter

/-- A token of characters without a meaning for the scan. -/
theorem exists_of_takesInert (ht : t.opensGroup = false) (hc : Inert c)
    (h : TakesInert v cs rest) : ∃ text, c :: cs = text ++ rest ∧ ReadFrom v t text rest := by
  obtain ⟨text, rfl, htext⟩ := h
  have hparen : c ≠ '(' := by
    rintro rfl
    exact absurd hc (by decide)
  have hcolon : c ≠ ':' := by
    rintro rfl
    exact absurd hc (by decide)
  refine ⟨c :: text, rfl, readFrom_of_quiet ht hparen hcolon fun hsuspect => ?_⟩
  exact quiet_of_inert (.inl rfl)
    (List.forall_mem_cons.mpr ⟨hc, htext (verbose_of_suspect hsuspect)⟩)

/-- A character that stands for itself. -/
theorem readFrom_char (hnext : Mode.plain.next c = .plain) (hparen : c ≠ '(') (hescape : c ≠ '\\') :
    ReadFrom v (.atom (.char c)) [c] rest where
  ne_nil := List.cons_ne_nil c []
  head_ne heq := absurd (List.cons.inj heq).1 hparen
  agrees _ := by
    refine ⟨?_, .inl hnext⟩
    rw [Shape.captureOffsetsFrom_plain, hnext]
    rfl
  colons hescaped := absurd (Option.some.inj hescaped) hescape

/-- The backslash of an escape covers the character behind it, and then nothing harms. -/
theorem exists_of_escaped? {a : Atom} (h : Atom.escaped? v cs = some (a, rest)) :
    ∃ text, '\\' :: cs = text ++ rest ∧ ReadFrom v (.atom a) text rest := by
  obtain ⟨d, text, rfl, htext⟩ := Atom.exists_of_escaped? h
  refine ⟨'\\' :: d :: text, rfl, ?_⟩
  exact
    { ne_nil := List.cons_ne_nil _ _
      head_ne := fun heq => absurd (List.cons.inj heq).1 (by decide)
      agrees := fun hsuspect => by
        obtain ⟨hoffsets, hafter⟩ := scan_of_harmless (htext (verbose_of_suspect hsuspect)).1
          (0 + '\\'.utf8Size + d.utf8Size)
        refine ⟨?_, .inl hafter⟩
        rw [captureOffsetsFrom, captureOffsetsFrom]
        exact hoffsets
      colons := fun _ => by
        refine ⟨by simp, fun hsuspect hplain => ⟨fun heq => absurd heq (by decide),
          fun _ hsettles => ?_, ?_⟩⟩
        · cases hsettles
        · refine keepsColons_of_not_mem ?_ _
          exact (htext (verbose_of_suspect hsuspect)).2 hplain }

theorem exists_of_bracket? {b : Bracket} (h : Bracket.read? v cs = some (b, rest)) :
    ∃ text, '[' :: cs = text ++ rest ∧ ReadFrom v (.bracket b) text rest := by
  obtain ⟨text, rfl, htext⟩ := Bracket.exists_of_read? h
  refine ⟨'[' :: text, rfl, readFrom_of_quiet rfl (by decide) (by decide) fun hsuspect => ?_⟩
  refine .cons rfl (by decide) (htext (verbose_of_suspect hsuspect) ?_)
  have hflat := (Bool.or_eq_false_iff.mp hsuspect).2
  simpa using hflat

/-! ### Openings of groups -/

/-- The texts behind the parenthesis that opens a group. -/
inductive Opener : Token → List Char → Prop where
  /-- A group without a name. -/
  | unnamed : Opener (.openGroup (.capturing none)) []
  /-- A group with a name behind a letter. -/
  | named {name : List Char} (h : isGroupName name = true) :
      Opener (.openGroup (.capturing (some (String.ofList name))))
        ('?' :: 'P' :: '<' :: (name ++ ['>']))
  /-- A group with a name. -/
  | angled {name : List Char} (h : isGroupName name = true) :
      Opener (.openGroup (.capturing (some (String.ofList name)))) ('?' :: '<' :: (name ++ ['>']))
  /-- A group with flags. -/
  | flags {letters : List Char} {edits : List FlagEdit} (h : FlagEdit.parse? letters = some edits) :
      Opener (.openGroup (.plain edits)) ('?' :: (letters ++ [':']))
  /-- Flags alone. -/
  | setFlags {letters : List Char} {edits : List FlagEdit}
      (h : FlagEdit.parse? letters = some edits) :
      Opener (.setFlags edits) ('?' :: (letters ++ [')']))

theorem exists_of_group? (h : group? v cs = some (t, rest)) :
    ∃ skipped text, cs = skipped ++ (text ++ rest) ∧ (v = false → skipped = []) ∧
      Opener t text ∧ (text = [] → rest.head? ≠ some '?') := by
  obtain ⟨skipped, hcs, hskipped⟩ : ∃ skipped, cs = skipped ++ advance v cs ∧
      (v = false → skipped = []) := by
    cases v with
    | false => exact ⟨[], rfl, fun _ => rfl⟩
    | true =>
      obtain ⟨skipped, hskipped⟩ := exists_skipBlank false cs
      exact ⟨skipped, hskipped, nofun⟩
  unfold group? at h
  split at h
  · next hadvance =>
    obtain ⟨name, hname, rfl, rfl⟩ := exists_of_groupName? h
    refine ⟨skipped, _, ?_, hskipped, .named hname, nofun⟩
    rw [hadvance] at hcs
    simpa using hcs
  · next hadvance =>
    obtain ⟨name, hname, rfl, rfl⟩ := exists_of_groupName? h
    refine ⟨skipped, _, ?_, hskipped, .angled hname, nofun⟩
    rw [hadvance] at hcs
    simpa using hcs
  · next hadvance =>
    obtain ⟨letters, edits, hedits, ⟨rfl, rfl⟩ | ⟨rfl, rfl⟩⟩ := exists_of_flags? h
    · refine ⟨skipped, _, ?_, hskipped, .flags hedits, nofun⟩
      rw [hadvance] at hcs
      simpa using hcs
    · refine ⟨skipped, _, ?_, hskipped, .setFlags hedits, nofun⟩
      rw [hadvance] at hcs
      simpa using hcs
  · next hno =>
    obtain ⟨rfl, rfl⟩ := Prod.mk.inj (Option.some.inj h)
    refine ⟨skipped, [], hcs, hskipped, .unnamed, fun _ hhead => ?_⟩
    obtain ⟨r, hr⟩ := List.head?_eq_some_iff.mp hhead
    exact hno r hr

/-- The characters of group names. -/
theorem ne_of_isGroupName {name : List Char} (h : isGroupName name = true) :
    ∀ c ∈ name, c ∉ ['\\', '(', ':', '=', '!'] := by
  have hletter : ∀ c ∈ name, (c == '_' || c == '.' || c == '[' || c == ']' ||
      Unicode.isAlphanumeric c) = true := by
    cases name with
    | nil => nofun
    | cons c name =>
      obtain ⟨hc, hname⟩ := Bool.and_eq_true_iff.mp h
      refine List.forall_mem_cons.mpr ⟨?_, fun d hd => List.all_eq_true.mp hname d hd⟩
      rcases Bool.or_eq_true_iff.mp hc with hc | hc
      · simp [hc]
      · simp [Unicode.isAlphanumeric, hc]
  have hother : (['\\', '(', ':', '=', '!'].any fun c => c == '_' || c == '.' || c == '[' ||
      c == ']' || Unicode.isAlphanumeric c) = false := by decide +kernel
  intro c hc hmem
  rw [List.any_eq_true.mpr ⟨c, hmem, hletter c hc⟩] at hother
  cases hother

/-- The name of a group and the bracket behind it. -/
theorem quiet_groupName {name : List Char} (h : isGroupName name = true) (hbracket : '[' ∉ name) :
    Quiet .plain (name ++ ['>']) .plain := by
  refine quiet_plain (List.forall_mem_append.mpr
    ⟨fun c hc => ?_, List.forall_mem_singleton.mpr (by decide)⟩)
  · have hne := ne_of_isGroupName h c hc
    have hc' : c ≠ '[' := by
      rintro rfl
      exact hbracket hc
    simp only [List.mem_cons, List.not_mem_nil, or_false, not_or] at hne
    simp [Mode.next, Mode.settles, Mode.afterPlain, hne, hc']

/-- Flags are letters and dashes. -/
theorem isFlagChar_of_parse? {letters : List Char} {edits : List FlagEdit}
    (h : FlagEdit.parse? letters = some edits) :
    ∀ c ∈ letters, Mode.isFlagChar c = true ∧ c ≠ ':' ∧ c ≠ '<' ∧ c ≠ 'P' := by
  unfold FlagEdit.parse? at h
  dsimp only at h
  split at h
  · next hletters =>
    intro c hc
    rcases Bool.or_eq_true_iff.mp (List.all_eq_true.mp hletters.2.2 c hc) with hdash | hletter
    · obtain rfl := eq_of_beq hdash
      decide
    · unfold Flag.ofChar? at hletter
      split at hletter
      all_goals first | decide | cases hletter
  · cases h

/-- Flags, and the colon or parenthesis behind them, are passed over. -/
theorem quiet_flags {letters : List Char} (hletters : ∀ c ∈ letters, Mode.isFlagChar c = true ∧
    c ≠ ':' ∧ c ≠ '<' ∧ c ≠ 'P') {m : Mode} (hm : m = .question ∨ m = .flags) {c : Char}
    (hc : c = ':' ∨ c = ')') : Quiet m (letters ++ [c]) .plain := by
  induction letters generalizing m with
  | nil =>
    rcases hm with rfl | rfl <;> rcases hc with rfl | rfl <;>
      exact .cons rfl (by decide) (.nil rfl)
  | cons d letters ih =>
    obtain ⟨⟨hflag, hcolon, hangle, hname⟩, hrest⟩ := List.forall_mem_cons.mp hletters
    have hnext : m.next d = .flags := by
      rcases hm with rfl | rfl <;>
        simp [Mode.next, Mode.settles, Mode.afterFlag, hflag, hcolon, hangle, hname]
    have hopened : m.opened (some d) = none := by rcases hm with rfl | rfl <;> rfl
    refine .cons hopened (fun h => absurd h hcolon) ?_
    rw [hnext]
    exact ih hrest (.inr rfl)

theorem quiet_flagOpening {letters : List Char} {edits : List FlagEdit}
    (h : FlagEdit.parse? letters = some edits) (hc : c = ':' ∨ c = ')') :
    Quiet .plain ('(' :: '?' :: (letters ++ [c])) .plain :=
  .cons rfl (by decide) (.cons rfl (by decide) (quiet_flags (isFlagChar_of_parse? h) (.inl rfl) hc))

/-- What the scan sees of the opening of a group. -/
theorem agrees_of_opener (h : Opener t text)
    (hsuspect : Lexeme.suspect false ⟨t, '(' :: text⟩ = false) :
    Lexeme.Agrees ⟨t, '(' :: text⟩ ∧ KeepsColons .plain ('(' :: text) := by
  have hname : ∀ {name : List Char}, isGroupName name = true →
      Lexeme.suspect false ⟨.openGroup (.capturing (some (String.ofList name))), '(' :: text⟩ =
        false → Quiet .plain (name ++ ['>']) .plain ∧ ':' ∉ name ∧
          ∀ c ∈ (name ++ ['>']).head?, Mode.angle.settles c = true := by
    intro name hname hsuspect
    have hbracket : '[' ∉ name := by simpa [Lexeme.suspect] using hsuspect
    have hne := ne_of_isGroupName hname
    refine ⟨quiet_groupName hname hbracket, fun hmem => hne ':' hmem (by decide), fun c hc => ?_⟩
    cases name with
    | nil => cases hname
    | cons d name =>
      obtain rfl := Option.some.inj hc
      have hd := hne d List.mem_cons_self
      simp only [List.mem_cons, List.not_mem_nil, or_false, not_or] at hd
      simp [Mode.settles, hd]
  -- The scan counts an opener at the parenthesis, and at `(?P<`; in `(?<` it waits for the next
  -- character, which a name settles.
  cases h with
  | unnamed => exact ⟨⟨rfl, .inr rfl⟩, by decide⟩
  | @named name h =>
    obtain ⟨hquiet, hcolon, -⟩ := hname h hsuspect
    have hoffsets : captureOffsetsFrom .plain 0 ('(' :: '?' :: 'P' :: '<' :: (name ++ ['>'])) =
        0 :: captureOffsetsFrom .plain 4 (name ++ ['>']) := rfl
    refine ⟨⟨?_, .inl hquiet.after_eq⟩, keepsColons_of_not_mem (by simp [hcolon]) _⟩
    rw [hoffsets, hquiet.captureOffsetsFrom_eq]
    rfl
  | @angled name h =>
    obtain ⟨hquiet, hcolon, hsettles⟩ := hname h hsuspect
    have hoffsets : captureOffsetsFrom .plain 0 ('(' :: '?' :: '<' :: (name ++ ['>'])) =
        captureOffsetsFrom .angle 3 (name ++ ['>']) := rfl
    refine ⟨⟨?_, .inl ?_⟩, keepsColons_of_not_mem (by simp [hcolon]) _⟩
    · rw [hoffsets, captureOffsetsFrom_of_settles hsettles, hquiet.captureOffsetsFrom_eq]
      rfl
    · exact (Mode.after_of_settles (by simp) hsettles).trans hquiet.after_eq
  | flags h =>
    have hquiet := quiet_flagOpening h (.inl rfl)
    exact ⟨Lexeme.agrees_of_quiet rfl hquiet, hquiet.keepsColons⟩
  | setFlags h =>
    have hquiet := quiet_flagOpening h (.inr rfl)
    exact ⟨Lexeme.agrees_of_quiet rfl hquiet, hquiet.keepsColons⟩

theorem exists_of_paren (h : group? v cs = some (t, rest)) :
    ∃ text, '(' :: cs = text ++ rest ∧ ReadFrom v t text rest := by
  obtain ⟨skipped, text, rfl, hskipped, hopener, hhead⟩ := exists_of_group? h
  have hscan : Lexeme.suspect v ⟨t, '(' :: (skipped ++ text)⟩ = false →
      Lexeme.Agrees ⟨t, '(' :: (skipped ++ text)⟩ ∧
        KeepsColons .plain ('(' :: (skipped ++ text)) := by
    intro hsuspect
    obtain rfl := verbose_of_suspect hsuspect
    obtain rfl := hskipped rfl
    exact agrees_of_opener hopener hsuspect
  refine ⟨'(' :: (skipped ++ text), by simp, ?_⟩
  exact
    { ne_nil := List.cons_ne_nil _ _
      head_ne := fun heq => hhead (List.append_eq_nil_iff.mp (List.cons.inj heq).2).2
      agrees := fun hsuspect => (hscan hsuspect).1
      colons := fun _ => ⟨by simp, fun hsuspect _ => (hscan hsuspect).2⟩ }

/-- What is ignored in the verbose mode starts with no parenthesis. -/
theorem exists_of_ignored (hignored : (v && (c == '#' || Unicode.isBlank c)) = true) :
    ∃ text, c :: cs = text ++ advance v (c :: cs) ∧
      ReadFrom v .ignored text (advance v (c :: cs)) := by
  obtain ⟨rfl, hc⟩ := Bool.and_eq_true_iff.mp hignored
  obtain ⟨b, hb⟩ : ∃ b, skipBlank false (c :: cs) = skipBlank b cs := by
    rcases Bool.or_eq_true_iff.mp hc with hmark | hblank
    · exact ⟨true, by rw [skipBlank, if_neg Bool.false_ne_true, if_pos hmark]⟩
    · by_cases hmark : (c == '#') = true
      · exact ⟨true, by rw [skipBlank, if_neg Bool.false_ne_true, if_pos hmark]⟩
      · refine ⟨false, ?_⟩
        rw [skipBlank, if_neg Bool.false_ne_true, if_neg hmark, if_pos hblank]
  obtain ⟨skipped, hskipped⟩ := exists_skipBlank b cs
  have hparen : c ≠ '(' := by
    rintro rfl
    exact absurd hc (by decide +kernel)
  refine ⟨c :: skipped, ?_, ?_⟩
  · rw [advance, if_pos rfl, hb, List.cons_append, ← hskipped]
  · exact
      { ne_nil := List.cons_ne_nil _ _
        head_ne := fun heq => absurd (List.cons.inj heq).1 hparen
        agrees := fun h => absurd h Bool.noConfusion
        colons := fun h => h.elim }

theorem opensGroup_marked (min : Nat) (max : Option Nat) (cs : List Char) :
    (marked min max cs).1.opensGroup = false := by
  unfold marked
  split <;> rfl

theorem exists_of_marked {min : Nat} {max : Option Nat} (hc : Inert c)
    (h : some (marked min max cs) = some (t, rest)) :
    ∃ text, c :: cs = text ++ rest ∧ ReadFrom v t text rest := by
  have hmarked := Option.some.inj h
  have hplain := opensGroup_marked min max cs
  have htakes := @takesInert_marked v min max cs
  rw [hmarked] at hplain htakes
  exact exists_of_takesInert hplain hc htakes

theorem exists_of_bounds? (hc : Inert c) (h : bounds? v cs = some (t, rest)) :
    ∃ text, c :: cs = text ++ rest ∧ ReadFrom v t text rest := by
  refine exists_of_takesInert ?_ hc (takesInert_bounds? h)
  rw [bounds?_eq] at h
  obtain ⟨p, -, h⟩ := Option.bind_eq_some_iff.mp h
  obtain ⟨q, -, h⟩ := Option.bind_eq_some_iff.mp h
  unfold closing? at h
  split at h
  · next r _ =>
    split at h
    · have ht : (marked p.1 q.1 (advance v r)).1 = t := congrArg Prod.fst (Option.some.inj h)
      rw [← ht, opensGroup_marked]
    · cases h
  · cases h

/-- Every token is read from the start of the text, and the scan agrees about it. -/
theorem exists_of_read? (h : read? v cs = some (t, rest)) :
    ∃ text, cs = text ++ rest ∧ ReadFrom v t text rest := by
  cases cs with
  | nil => cases h
  | cons c cs =>
    by_cases hignored : (v && (c == '#' || Unicode.isBlank c)) = true
    · rw [read?_of_ignored hignored] at h
      obtain ⟨rfl, rfl⟩ := Prod.mk.inj (Option.some.inj h)
      exact exists_of_ignored hignored
    · unfold read? at h
      dsimp only at h
      rw [if_neg hignored] at h
      split at h
      case h_1 =>
        obtain ⟨⟨a, r⟩, ha, h⟩ := Option.bind_eq_some_iff.mp h
        obtain ⟨rfl, rfl⟩ := Prod.mk.inj (Option.some.inj h)
        exact exists_of_escaped? ha
      case h_5 =>
        obtain ⟨⟨b, r⟩, hb, h⟩ := Option.bind_eq_some_iff.mp h
        obtain ⟨rfl, rfl⟩ := Prod.mk.inj (Option.some.inj h)
        exact exists_of_bracket? hb
      case h_6 => exact exists_of_paren h
      case h_9 | h_10 | h_11 => exact exists_of_marked (by decide) h
      case h_12 => exact exists_of_bounds? (by decide) h
      case h_13 hescape _ _ _ hbracket hparen _ _ _ _ _ _ =>
        obtain ⟨rfl, rfl⟩ := Prod.mk.inj (Option.some.inj h)
        refine ⟨[c], rfl, readFrom_char ?_ hparen hescape⟩
        simp only [imp_false] at hescape hbracket hparen
        simp [Mode.next, Mode.settles, Mode.afterPlain, hescape, hbracket, hparen]
      all_goals
        obtain ⟨rfl, rfl⟩ := Prod.mk.inj (Option.some.inj h)
        exact exists_of_takesInert rfl (by decide) (.refl _ v cs)

end Token

/-! ### Patterns -/

/-- The lexemes of a pattern, each with the verbose flag under which it has been read. -/
def readings (v : Bool) (outer : List Bool) : List Lexeme → List (Bool × Lexeme)
  | [] => []
  | l :: ls => (v, l) :: readings (l.token.scope v outer).1 (l.token.scope v outer).2 ls

theorem exists_of_lexemesFrom?_cons {outer : List Bool} {l : Lexeme} {ls : List Lexeme}
    (h : lexemesFrom? v outer cs = some (l :: ls)) :
    ∃ rest, cs = l.text ++ rest ∧ l.token.ReadFrom v l.text rest ∧
      lexemesFrom? (l.token.scope v outer).1 (l.token.scope v outer).2 rest = some ls := by
  rw [lexemesFrom?] at h
  split at h
  · cases h
  · split at h
    · cases h
    · next t rest hread =>
      obtain ⟨text, rfl, hfrom⟩ := Token.exists_of_read? hread
      split at h
      · obtain ⟨ls', hls', h⟩ := Option.bind_eq_some_iff.mp h
        obtain ⟨rfl, rfl⟩ := List.cons.inj (Option.some.inj h)
        have htext : (text ++ rest).take ((text ++ rest).length - rest.length) = text := by
          rw [List.length_append, Nat.add_sub_cancel, List.take_left]
        refine ⟨rest, ?_, ?_, hls'⟩
        · rw [htext]
        · rw [htext]
          exact hfrom
      · cases h

end Regex

namespace Placeholder.Mode

/-- The scan goes over some tokens one after the other: where a token begins, what was opened before
has settled, and the scan agrees about the token. -/
inductive Follows : Mode → List Lexeme → Prop where
  /-- Nothing is left. -/
  | nil (m : Mode) : Follows m []
  /-- A token. -/
  | cons {m : Mode} {l : Lexeme} {ls : List Lexeme} (hne : l.text ≠ [])
      (hm : ∀ c ∈ l.text.head?, m.settles c = true) (hl : l.Agrees)
      (hls : Follows (Mode.plain.after l.text) ls) : Follows m (l :: ls)

theorem Follows.settles {m : Mode} {ls : List Lexeme} (h : m.Follows ls) :
    ∀ c ∈ (ls.flatMap (·.text)).head?, m.settles c = true := by
  cases h with
  | nil => nofun
  | @cons m l ls hne hm hl hls =>
    intro c hc
    refine hm c ?_
    rwa [List.flatMap_cons, List.head?_append_of_ne_nil _ hne] at hc

end Placeholder.Mode

namespace Regex

variable {v : Bool} {cs : List Char} {outer : List Bool} {ls : List Lexeme}

/-- The lexemes of a pattern put together are the pattern. -/
theorem flatMap_text_of_lexemesFrom? (h : lexemesFrom? v outer cs = some ls) :
    ls.flatMap (·.text) = cs := by
  induction ls generalizing v outer cs with
  | nil =>
    rw [lexemesFrom?] at h
    split at h
    · next hempty => exact (List.isEmpty_iff.mp hempty).symm
    · split at h
      · cases h
      · split at h
        · obtain ⟨ls, -, h⟩ := Option.bind_eq_some_iff.mp h
          cases h
        · cases h
  | cons l ls ih =>
    obtain ⟨rest, rfl, -, hrest⟩ := exists_of_lexemesFrom?_cons h
    rw [List.flatMap_cons, ih hrest]

/-- The scan goes over the tokens of a pattern if it agrees about those that are suspect. -/
theorem follows_of_lexemesFrom? (h : lexemesFrom? v outer cs = some ls)
    (hls : ∀ p ∈ readings v outer ls, p.2.suspect p.1 = true → p.2.Agrees) {m : Mode}
    (hm : ∀ c ∈ cs.head?, m.settles c = true) : m.Follows ls := by
  induction ls generalizing v outer cs m with
  | nil => exact .nil m
  | cons l ls ih =>
    obtain ⟨rest, rfl, hfrom, hrest⟩ := exists_of_lexemesFrom?_cons h
    obtain ⟨hfirst, hothers⟩ := List.forall_mem_cons.mp hls
    have hl : l.Agrees := by
      cases hsuspect : l.suspect v with
      | true => exact hfirst hsuspect
      | false => exact hfrom.agrees hsuspect
    rw [List.head?_append_of_ne_nil _ hfrom.ne_nil] at hm
    refine .cons hfrom.ne_nil hm hl (ih hrest hothers fun c hc => ?_)
    rcases hl.settled with hplain | hparen
    · rw [hplain]
      rfl
    · -- A parenthesis by itself is settled by what follows it, which is no question mark.
      have hne : c ≠ '?' := by
        rintro rfl
        exact hfrom.head_ne hparen hc
      rw [hparen]
      exact bne_iff_ne.mpr hne

end Regex

end HttpRouting
