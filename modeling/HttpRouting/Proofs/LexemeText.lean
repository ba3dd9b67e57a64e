import HttpRouting.Proofs.TokenEnds

/-!
# What tokens are read from

Whatever is read has been read from the start of the text, so the lexemes of a pattern put together
are the pattern. Without the verbose flag nothing is skipped on the way, and the text of a token is
known well enough to be scanned: digits, braces and names are read from characters that have no
meaning of their own. Only the name of a property may have a colon in it, between a kind of property
and a value.

## Main definitions

* `Regex.Harmless` — a character that starts and ends nothing, in plain text or in a class
* `Regex.Inert` — a harmless character that is no colon
* `Regex.Takes` — something is read from characters of some kind

## Main results

* `Regex.Atom.exists_of_escaped?` — the text of an escape
* `Regex.Token.takesInert_bounds?` — the text of a counted repetition
* `Regex.Token.exists_of_groupName?`, `Regex.Token.exists_of_flags?` — the texts of openings
-/

namespace HttpRouting.Regex

/-- A character that starts neither an escape nor a class nor a group, and ends no class. -/
def Harmless (c : Char) : Prop := c ∉ ['\\', '[', ']', '(']

instance (c : Char) : Decidable (Harmless c) := inferInstanceAs (Decidable (_ ∉ _))

/-- A character that has no meaning of its own, neither in plain text nor in a class. -/
def Inert (c : Char) : Prop := c ∉ ['\\', '[', ']', '(', ':']

instance (c : Char) : Decidable (Inert c) := inferInstanceAs (Decidable (_ ∉ _))

theorem inert_iff {c : Char} : Inert c ↔ Harmless c ∧ c ≠ ':' := by
  simp [Inert, Harmless, and_assoc]

/-- Something is read from the start of a text. Without the verbose flag it is read from characters
of some kind. -/
def Takes (p : Char → Prop) (v : Bool) (cs rest : List Char) : Prop :=
  ∃ text, cs = text ++ rest ∧ (v = false → ∀ c ∈ text, p c)

/-- Something is read from characters that have no meaning of their own. -/
abbrev TakesInert : Bool → List Char → List Char → Prop := Takes Inert

variable {v : Bool} {cs mid rest : List Char} {c : Char} {p q : Char → Prop}

namespace Takes

theorem refl (p : Char → Prop) (v : Bool) (cs : List Char) : Takes p v cs cs :=
  ⟨[], rfl, fun _ => nofun⟩

theorem trans (h : Takes p v cs mid) (h' : Takes p v mid rest) : Takes p v cs rest := by
  obtain ⟨text, rfl, htext⟩ := h
  obtain ⟨text', rfl, htext'⟩ := h'
  refine ⟨text ++ text', (List.append_assoc _ _ _).symm, fun hv => ?_⟩
  exact List.forall_mem_append.mpr ⟨htext hv, htext' hv⟩

theorem cons (hc : p c) (h : Takes p v cs rest) : Takes p v (c :: cs) rest := by
  obtain ⟨text, rfl, htext⟩ := h
  exact ⟨c :: text, rfl, fun hv => List.forall_mem_cons.mpr ⟨hc, htext hv⟩⟩

theorem mono (h : Takes p v cs rest) (hpq : ∀ c, p c → q c) : Takes q v cs rest := by
  obtain ⟨text, rfl, htext⟩ := h
  exact ⟨text, rfl, fun hv c hc => hpq c (htext hv c hc)⟩

end Takes

/-- A character is inert if no character with a meaning has a property that it has. -/
theorem inert_of {p : Char → Bool} (h : p c = true)
    (hp : ['\\', '[', ']', '(', ':'].any p = false) : Inert c := by
  intro hmem
  rw [List.any_eq_true.mpr ⟨c, hmem, h⟩] at hp
  cases hp

/-- A character is harmless if no character with a meaning has a property that it has. -/
theorem harmless_of {p : Char → Bool} (h : p c = true)
    (hp : ['\\', '[', ']', '('].any p = false) : Harmless c := by
  intro hmem
  rw [List.any_eq_true.mpr ⟨c, hmem, h⟩] at hp
  cases hp

/-! ### White space and comments -/

theorem exists_skipBlank (b : Bool) (cs : List Char) :
    ∃ skipped, cs = skipped ++ skipBlank b cs := by
  induction cs generalizing b with
  | nil => exact ⟨[], rfl⟩
  | cons c cs ih =>
    have hcons : ∀ b, ∃ skipped, c :: cs = skipped ++ skipBlank b cs := by
      intro b
      obtain ⟨skipped, hskipped⟩ := ih b
      exact ⟨c :: skipped, congrArg (c :: ·) hskipped⟩
    rw [skipBlank]
    split
    · exact hcons _
    · split
      · exact hcons _
      · split
        · exact hcons _
        · exact ⟨[], rfl⟩

theorem takesInert_advance (v : Bool) (cs : List Char) : TakesInert v cs (advance v cs) := by
  cases v with
  | false => exact .refl _ false cs
  | true =>
    obtain ⟨skipped, hskipped⟩ := exists_skipBlank false cs
    exact ⟨skipped, hskipped, nofun⟩

/-- Without the verbose flag the next character is the first one. -/
theorem exists_of_next (h : next v cs = some (c, rest)) :
    ∃ skipped, cs = skipped ++ c :: rest ∧ (v = false → skipped = []) := by
  unfold next at h
  split at h
  · cases h
  · next d r hadvance =>
    obtain ⟨rfl, rfl⟩ := Prod.mk.inj (Option.some.inj h)
    cases v with
    | false => exact ⟨[], hadvance, fun _ => rfl⟩
    | true =>
      obtain ⟨skipped, hskipped⟩ := exists_skipBlank false cs
      refine ⟨skipped, hskipped.trans (congrArg (skipped ++ ·) hadvance), fun hv => ?_⟩
      cases hv

theorem takes_next (h : next v cs = some (c, rest)) (hc : p c) : Takes p v cs rest := by
  obtain ⟨skipped, rfl, hskipped⟩ := exists_of_next h
  refine ⟨skipped ++ [c], by simp, fun hv => ?_⟩
  rw [hskipped hv]
  exact List.forall_mem_singleton.mpr hc

/-! ### Names of properties -/

section Names

open Unicode

theorem harmless_of_isNamed {name : List Char} {names : List String}
    (h : isNamed name names = true) : ∀ c ∈ name, Harmless c := fun c hc =>
  harmless_of (List.all_eq_true.mp (Bool.and_eq_true_iff.mp h).1 c hc) (by decide)

theorem harmless_of_property? {kind : PropertyKind} {name : List Char} {x : Property}
    (h : kind.property? name = some x) : ∀ c ∈ name, Harmless c := by
  obtain ⟨code, hcode, -⟩ := Option.map_eq_some_iff.mp h
  obtain ⟨names, hfind, -⟩ := Option.bind_eq_some_iff.mp hcode
  exact harmless_of_isNamed (List.find?_some hfind)

theorem harmless_of_plain {name : List Char} {x : Property}
    (h : (PropertyName.plain name).find? = some x) : ∀ c ∈ name, Harmless c := by
  rcases Option.or_eq_some_iff.mp h with h | ⟨-, h⟩
  · exact harmless_of_property? h
  · rcases Option.or_eq_some_iff.mp h with h | ⟨-, h⟩ <;> exact harmless_of_property? h

theorem harmless_of_valued {kind value : List Char} {x : Property}
    (h : (PropertyName.valued kind value).find? = some x) :
    (∀ c ∈ kind, Harmless c) ∧ ∀ c ∈ value, Harmless c := by
  obtain ⟨k, hk, h⟩ := Option.bind_eq_some_iff.mp h
  obtain ⟨entry, hfind, -⟩ := Option.map_eq_some_iff.mp hk
  have hnamed := List.find?_some hfind
  exact ⟨harmless_of_isNamed hnamed, harmless_of_property? h⟩

end Names

/-! ### Escapes -/

theorem inert_of_hexValue? {d : Nat} (h : hexValue? c = some d) : Inert c := by
  have hdigit : (hexValue? c).isSome = true := by rw [h]; rfl
  exact inert_of (p := fun c => (hexValue? c).isSome) hdigit (by decide)

theorem takesInert_hexDigits? {n : Nat} {ds : List Nat} (h : hexDigits? v n cs = some (ds, rest)) :
    TakesInert v cs rest := by
  induction n generalizing cs ds with
  | zero =>
    obtain ⟨-, rfl⟩ := Prod.mk.inj (Option.some.inj h)
    exact .refl _ v cs
  | succ n ih =>
    simp only [hexDigits?, Option.bind_eq_bind, Option.bind_eq_some_iff, Prod.exists] at h
    obtain ⟨c, r, hc, d, hd, ds', r', hds, hresult⟩ := h
    obtain ⟨-, rfl⟩ := Prod.mk.inj (Option.some.inj hresult)
    exact (takes_next hc (inert_of_hexValue? hd)).trans (ih hds)

theorem takesInert_bracedHexDigits? {ds : List Nat} (h : bracedHexDigits? v cs = some (ds, rest)) :
    TakesInert v cs rest := by
  fun_induction bracedHexDigits? v cs generalizing ds with
  | case1 cs hnext => cases h
  | case2 cs r hnext =>
    obtain ⟨-, rfl⟩ := Prod.mk.inj (Option.some.inj h)
    exact takes_next hnext (by decide)
  | case3 cs c r hnext hc ih =>
    simp only [Option.bind_eq_bind, Option.bind_eq_some_iff, Prod.exists] at h
    obtain ⟨d, hd, ds', r', hds, hresult⟩ := h
    obtain ⟨-, rfl⟩ := Prod.mk.inj (Option.some.inj hresult)
    exact (takes_next hnext (inert_of_hexValue? hd)).trans (ih hds)

namespace Atom

theorem takesInert_code? {n : Nat} {mk : Char → Atom} {a : Atom}
    (h : code? v n mk cs = some (a, rest)) : TakesInert v cs rest := by
  simp only [code?, Option.bind_eq_bind, Option.bind_eq_some_iff, Prod.exists] at h
  obtain ⟨c, r, hc, h⟩ := h
  split at h
  · next hbrace =>
    obtain ⟨⟨digits, r'⟩, hdigits, h⟩ := Option.bind_eq_some_iff.mp h
    dsimp only at h
    split at h
    · cases h
    · obtain ⟨b, hb, h⟩ := Option.bind_eq_some_iff.mp h
      obtain ⟨-, rfl⟩ := Prod.mk.inj (Option.some.inj h)
      subst hbrace
      exact (takes_next hc (by decide)).trans (takesInert_bracedHexDigits? hdigits)
  · obtain ⟨⟨digits, r'⟩, hdigits, h⟩ := Option.bind_eq_some_iff.mp h
    obtain ⟨b, hb, h⟩ := Option.bind_eq_some_iff.mp h
    obtain ⟨-, rfl⟩ := Prod.mk.inj (Option.some.inj h)
    exact takesInert_hexDigits? hdigits

theorem takesInert_boundaryName? {name : List Char} (h : boundaryName? v cs = some (name, rest)) :
    TakesInert v cs rest := by
  fun_induction boundaryName? v cs generalizing name with
  | case1 cs hnext => cases h
  | case2 cs r hnext =>
    obtain ⟨-, rfl⟩ := Prod.mk.inj (Option.some.inj h)
    exact takes_next hnext (by decide)
  | case3 cs c r hnext hc hletter ih =>
    simp only [Option.bind_eq_bind, Option.bind_eq_some_iff, Prod.exists] at h
    obtain ⟨name', r', hname, hresult⟩ := h
    obtain ⟨-, rfl⟩ := Prod.mk.inj (Option.some.inj hresult)
    exact (takes_next hnext (inert_of hletter (by decide))).trans (ih hname)
  | case4 => cases h

theorem takesInert_boundary? {a : Atom} (h : boundary? v cs = some (a, rest)) :
    TakesInert v cs rest := by
  unfold boundary? at h
  split at h
  · next cs =>
    obtain ⟨⟨c, r⟩, hc, h⟩ := Option.bind_eq_some_iff.mp h
    dsimp only at h
    split at h
    · obtain ⟨⟨name, r'⟩, hname, h⟩ := Option.bind_eq_some_iff.mp h
      obtain ⟨b, hb, h⟩ := Option.bind_eq_some_iff.mp h
      obtain ⟨-, rfl⟩ := Prod.mk.inj (Option.some.inj h)
      exact .cons (by decide) (takesInert_boundaryName? hname)
    · obtain ⟨-, rfl⟩ := Prod.mk.inj (Option.some.inj h)
      exact .refl _ v _
  · obtain ⟨-, rfl⟩ := Prod.mk.inj (Option.some.inj h)
    exact .refl _ v _

/-- Whether the atom asks for a property. -/
def isProperty : Atom → Bool
  | property _ _ => true
  | _ => false

theorem takes_bracedText? {text : List Char} (h : bracedText? v cs = some (text, rest)) :
    Takes (fun c => c ∈ text ∨ c = '}') v cs rest := by
  fun_induction bracedText? v cs generalizing text with
  | case1 cs hnext => cases h
  | case2 cs r hnext =>
    obtain ⟨-, rfl⟩ := Prod.mk.inj (Option.some.inj h)
    exact takes_next hnext (.inr rfl)
  | case3 cs c r hnext hc ih =>
    simp only [Option.bind_eq_bind, Option.bind_eq_some_iff, Prod.exists] at h
    obtain ⟨text', r', htext, hresult⟩ := h
    obtain ⟨rfl, rfl⟩ := Prod.mk.inj (Option.some.inj hresult)
    exact (takes_next hnext (.inl List.mem_cons_self)).trans
      ((ih htext).mono fun d hd => hd.imp_left (List.mem_cons_of_mem c))

/-- The name of a property is read from its characters, and from braces around them. -/
theorem takes_propertyText? {text : List Char} (h : propertyText? v cs = some (text, rest)) :
    Takes (fun c => c ∈ text ∨ c = '{' ∨ c = '}') v cs rest := by
  simp only [propertyText?, Option.bind_eq_bind, Option.bind_eq_some_iff, Prod.exists] at h
  obtain ⟨c, r, hc, h⟩ := h
  split at h
  · next hbrace =>
    exact (takes_next hc (.inr (.inl hbrace))).trans
      ((takes_bracedText? h).mono fun d hd => hd.imp_right .inr)
  · obtain ⟨rfl, rfl⟩ := Prod.mk.inj (Option.some.inj h)
    exact takes_next hc (.inl (List.mem_singleton.mpr rfl))

theorem eq_append_of_splitAt? {mark before after : List Char}
    (h : splitAt? mark cs = some (before, after)) : cs = before ++ (mark ++ after) := by
  induction cs generalizing before with
  | nil => cases h
  | cons c cs ih =>
    unfold splitAt? at h
    split at h
    · next hmark =>
      obtain ⟨rfl, rfl⟩ := Prod.mk.inj (Option.some.inj h)
      obtain ⟨tail, htail⟩ := List.isPrefixOf_iff_prefix.mp hmark
      rw [← htail, List.drop_left]
      rfl
    · obtain ⟨⟨before', after'⟩, hsplit, h⟩ := Option.map_eq_some_iff.mp h
      obtain ⟨rfl, rfl⟩ := Prod.mk.inj h
      rw [ih hsplit]
      rfl

/-- Only harmless characters name properties. -/
theorem harmless_of_ofPropertyText? {negated : Bool} {text : List Char} {a : Atom}
    (h : ofPropertyText? negated text = some a) : a.isProperty = true ∧ ∀ c ∈ text, Harmless c := by
  obtain ⟨p, hp, rfl⟩ := Option.map_eq_some_iff.mp h
  refine ⟨rfl, ?_⟩
  split at hp
  · next kind value hsplit =>
    rw [eq_append_of_splitAt? hsplit]
    obtain ⟨hkind, hvalue⟩ := harmless_of_valued hp
    have hmark : ∀ c ∈ ['!', '='], Harmless c :=
      List.forall_mem_cons.mpr ⟨by decide, List.forall_mem_singleton.mpr (by decide)⟩
    exact List.forall_mem_append.mpr ⟨hkind, List.forall_mem_append.mpr ⟨hmark, hvalue⟩⟩
  · split at hp
    · next kind value hsplit =>
      obtain ⟨hkind, hvalue⟩ := harmless_of_valued hp
      obtain ⟨mark, hmark, hsplit⟩ : ∃ mark, Harmless mark ∧
          splitAt? [mark] text = some (kind, value) := by
        rcases Option.or_eq_some_iff.mp hsplit with hcolon | ⟨-, hequals⟩
        · exact ⟨':', by decide, hcolon⟩
        · exact ⟨'=', by decide, hequals⟩
      rw [eq_append_of_splitAt? hsplit]
      exact List.forall_mem_append.mpr
        ⟨hkind, List.forall_mem_append.mpr ⟨List.forall_mem_singleton.mpr hmark, hvalue⟩⟩
    · exact harmless_of_plain hp

theorem takes_property? {negated : Bool} {a : Atom} (h : property? v negated cs = some (a, rest)) :
    a.isProperty = true ∧ Takes Harmless v cs rest := by
  simp only [property?, Option.bind_eq_bind, Option.bind_eq_some_iff, Prod.exists] at h
  obtain ⟨text, r, htext, b, hb, h⟩ := h
  obtain ⟨rfl, rfl⟩ := Prod.mk.inj (Option.some.inj h)
  obtain ⟨hproperty, hharmless⟩ := harmless_of_ofPropertyText? hb
  refine ⟨hproperty, (takes_propertyText? htext).mono ?_⟩
  rintro c (hc | rfl | rfl)
  · exact hharmless c hc
  · decide
  · decide

/-- Behind the character that follows the backslash, an escape has only digits and names, and only
the name of a property has a colon. -/
theorem exists_of_escaped? {a : Atom} (h : escaped? v cs = some (a, rest)) :
    ∃ c text, cs = c :: (text ++ rest) ∧
      (v = false → (∀ d ∈ text, Harmless d) ∧ (a.isProperty = false → ':' ∉ text)) := by
  have hinert : ∀ {c : Char} {cs : List Char}, TakesInert v cs rest → ∃ d text,
      c :: cs = d :: (text ++ rest) ∧
        (v = false → (∀ e ∈ text, Harmless e) ∧ (a.isProperty = false → ':' ∉ text)) := by
    rintro c _ ⟨text, rfl, htext⟩
    refine ⟨c, text, rfl, fun hv => ⟨fun e he => (inert_iff.mp (htext hv e he)).1, ?_⟩⟩
    exact fun _ hcolon => (inert_iff.mp (htext hv ':' hcolon)).2 rfl
  cases cs with
  | nil => cases h
  | cons c cs =>
    have hnone : ∀ a' : Atom, some (a', cs) = some (a, rest) → TakesInert v cs rest := by
      intro a' h
      obtain ⟨-, rfl⟩ := Prod.mk.inj (Option.some.inj h)
      exact .refl _ v cs
    unfold escaped? at h
    dsimp only at h
    split at h
    case h_10 | h_11 =>
      obtain ⟨hproperty, text, rfl, htext⟩ := takes_property? h
      refine ⟨_, text, rfl, fun hv => ⟨htext hv, fun hplain => ?_⟩⟩
      rw [hplain] at hproperty
      cases hproperty
    all_goals first
      | exact hinert (takesInert_code? h)
      | exact hinert (takesInert_boundary? h)
      | exact hinert (hnone _ h)
      | skip
    split at h
    · exact hinert (hnone _ h)
    · cases h

end Atom

namespace Token

/-! ### Repetitions -/

theorem takesInert_marked (min : Nat) (max : Option Nat) (cs : List Char) :
    TakesInert v cs (marked min max cs).2 := by
  unfold marked
  split
  · exact .cons (by decide) (.refl _ v _)
  · exact .refl _ v _

theorem takesInert_trimBlank (v : Bool) (cs : List Char) : TakesInert v cs (trimBlank v cs) := by
  cases v with
  | true => exact takesInert_advance true cs
  | false =>
    refine ⟨cs.takeWhile Unicode.isBlank, List.takeWhile_append_dropWhile.symm, fun _ c hc => ?_⟩
    exact inert_of (List.mem_takeWhile_imp hc) (by decide)

theorem takesInert_digits (v : Bool) (cs : List Char) : TakesInert v cs (digits v cs).2 := by
  fun_induction digits v cs with
  | case1 cs hnext => exact .refl _ v cs
  | case2 cs c r hnext hc ds rest hds ih =>
    rw [hds] at ih
    exact (takes_next hnext (inert_of hc (by decide))).trans ih
  | case3 cs c r hnext hc => exact .refl _ v cs

theorem takesInert_count? {n : Nat} (h : count? v cs = some (n, rest)) : TakesInert v cs rest := by
  unfold count? at h
  dsimp only at h
  split at h
  · cases h
  · obtain ⟨-, rfl⟩ := Prod.mk.inj (Option.some.inj h)
    exact ((takesInert_trimBlank v cs).trans (takesInert_digits v _)).trans
      (takesInert_trimBlank v _)

theorem takesInert_upper? {n : Nat} {m : Option Nat} (h : upper? v n cs = some (m, rest)) :
    TakesInert v cs rest := by
  unfold upper? at h
  split at h
  · next cs =>
    refine .cons (by decide) ((takesInert_advance v cs).trans ?_)
    split at h
    · next hbrace =>
      obtain ⟨-, rfl⟩ := Prod.mk.inj (Option.some.inj h)
      rw [hbrace]
      exact .refl _ v _
    · obtain ⟨p, hcount, h⟩ := Option.bind_eq_some_iff.mp h
      obtain ⟨-, rfl⟩ := Prod.mk.inj (Option.some.inj h)
      exact takesInert_count? hcount
  · obtain ⟨-, rfl⟩ := Prod.mk.inj (Option.some.inj h)
    exact .refl _ v _

theorem takesInert_closing? {n : Nat} {m : Option Nat} {t : Token}
    (h : closing? v n m cs = some (t, rest)) : TakesInert v cs rest := by
  unfold closing? at h
  split at h
  · next r =>
    split at h
    · have hrest : (marked n m (advance v r)).2 = rest := congrArg Prod.snd (Option.some.inj h)
      rw [← hrest]
      exact .cons (by decide) ((takesInert_advance v _).trans (takesInert_marked _ _ _))
    · cases h
  · cases h

theorem takesInert_bounds? {t : Token} (h : bounds? v cs = some (t, rest)) :
    TakesInert v cs rest := by
  rw [bounds?_eq] at h
  obtain ⟨p, hcount, h⟩ := Option.bind_eq_some_iff.mp h
  obtain ⟨q, hupper, hclosing⟩ := Option.bind_eq_some_iff.mp h
  exact (((takesInert_advance v cs).trans (takesInert_count? hcount)).trans
    (takesInert_upper? hupper)).trans (takesInert_closing? hclosing)

/-! ### Openings -/

/-- The name of a group reaches up to an angle bracket. -/
theorem exists_of_groupName? {t : Token} (h : groupName? cs = some (t, rest)) :
    ∃ name, isGroupName name = true ∧ cs = name ++ '>' :: rest ∧
      t = .openGroup (.capturing (some (String.ofList name))) := by
  unfold groupName? at h
  dsimp only at h
  split at h
  · next d rest' hdrop =>
    split at h
    · next hname =>
      obtain ⟨rfl, rfl⟩ := Prod.mk.inj (Option.some.inj h)
      refine ⟨_, hname, ?_, rfl⟩
      have hd : d = '>' := by
        have hstop := List.head?_dropWhile_not (· != '>') cs
        rw [hdrop] at hstop
        simpa using hstop
      subst hd
      rw [← hdrop, List.takeWhile_append_dropWhile]
    · cases h
  · cases h

/-- Flags reach up to a colon, or to the parenthesis that closes them. -/
theorem exists_of_flags? {t : Token} (h : flags? cs = some (t, rest)) :
    ∃ letters edits, FlagEdit.parse? letters = some edits ∧
      (cs = letters ++ ':' :: rest ∧ t = .openGroup (.plain edits) ∨
        cs = letters ++ ')' :: rest ∧ t = .setFlags edits) := by
  unfold flags? at h
  obtain ⟨edits, hedits, h⟩ := Option.bind_eq_some_iff.mp h
  refine ⟨_, edits, hedits, ?_⟩
  split at h
  · next hdrop =>
    obtain ⟨rfl, rfl⟩ := Prod.mk.inj (Option.some.inj h)
    refine .inl ⟨?_, rfl⟩
    rw [← hdrop, List.takeWhile_append_dropWhile]
  · next hdrop =>
    split at h
    · cases h
    · obtain ⟨rfl, rfl⟩ := Prod.mk.inj (Option.some.inj h)
      refine .inr ⟨?_, rfl⟩
      rw [← hdrop, List.takeWhile_append_dropWhile]
  · cases h

end Token

end HttpRouting.Regex
