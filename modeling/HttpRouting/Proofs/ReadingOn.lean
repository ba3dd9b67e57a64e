import HttpRouting.Regex.Parser
import Mathlib.Data.List.TakeWhile

/-!
# Reading in front of more text

What is read at the start of a text is also read where the text goes on, provided that the reader
has come to a stop within the text. This is so for escapes and for bracketed classes, which show
where they end. Only a look ahead may go further: a dash in a class is judged by what follows it,
and white space and comments are skipped for as long as they last.

## Main definitions

* `Stops` — a text in front of which every reading comes to a stop

## Main results

* `skipBlank_eq_nil`, `advance_eq_nil` — what a text that ends in white space or a comment does to
  the text behind it
* `Atom.escaped?_append` — an escape in front of more text
* `Bracket.judge?_append` — what a dash is judged by
* `Bracket.read?_append` — a bracketed class in front of more text
-/

namespace HttpRouting.Regex

variable {v : Bool} {cs rest tail : List Char}

/-! ### White space and comments -/

theorem skipBlank_append {b : Bool} (h : skipBlank b cs ≠ []) (ds : List Char) :
    skipBlank b (cs ++ ds) = skipBlank b cs ++ ds := by
  induction cs generalizing b with
  | nil => exact absurd rfl h
  | cons c cs ih =>
    rw [List.cons_append, skipBlank, skipBlank]
    rw [skipBlank] at h
    split
    · next hcomment => exact ih (by rwa [if_pos hcomment] at h)
    · next hcomment =>
      rw [if_neg hcomment] at h
      split
      · next hmark => exact ih (by rwa [if_pos hmark] at h)
      · next hmark =>
        rw [if_neg hmark] at h
        split
        · next hblank => exact ih (by rwa [if_pos hblank] at h)
        · rfl

/-- Behind white space and comments the text goes on as text or as a comment. -/
theorem skipBlank_eq_nil {b : Bool} (h : skipBlank b cs = []) :
    ∃ b', ∀ ds, skipBlank b (cs ++ ds) = skipBlank b' ds := by
  induction cs generalizing b with
  | nil => exact ⟨b, fun ds => rfl⟩
  | cons c cs ih =>
    simp only [List.cons_append, skipBlank]
    rw [skipBlank] at h
    split
    · next hcomment => exact ih (by rwa [if_pos hcomment] at h)
    · next hcomment =>
      rw [if_neg hcomment] at h
      split
      · next hmark => exact ih (by rwa [if_pos hmark] at h)
      · next hmark =>
        rw [if_neg hmark] at h
        split
        · next hblank => exact ih (by rwa [if_pos hblank] at h)
        · next hblank =>
          rw [if_neg hblank] at h
          cases h

theorem skipBlank_comment {ds : List Char} (h : '\n' ∉ ds) : skipBlank true ds = [] := by
  induction ds with
  | nil => rfl
  | cons d ds ih =>
    obtain ⟨hd, hds⟩ := not_or.mp (mt List.mem_cons.mpr h)
    have hopen : (d != '\n') = true := bne_iff_ne.mpr (Ne.symm hd)
    rw [skipBlank, if_pos rfl, hopen]
    exact ih hds

theorem advance_append (h : advance v cs ≠ []) (ds : List Char) :
    advance v (cs ++ ds) = advance v cs ++ ds := by
  cases v with
  | false => rfl
  | true => exact skipBlank_append h ds

/-- A text in front of which every reading comes to a stop: it starts with a character that counts,
and no token that is complete goes on with that character. -/
structure Stops (v : Bool) (tail : List Char) : Prop where
  /-- The text is not skipped. -/
  counts : advance v tail = tail
  /-- The first character neither ends what the last token has begun nor changes its meaning. -/
  head : ∃ d ds, tail = d :: ds ∧ d ∉ ['{', '?', ':', '^', ']', '&', '-', '~']
  /-- The name of a class does not come to its end behind that character. -/
  name : tail.head? = some ')' ∨ ':' ∉ tail

/-- A parenthesis ends what stands in front of it. -/
theorem stops_paren (v : Bool) (ds : List Char) : Stops v (')' :: ds) where
  counts := by cases v <;> rfl
  head := ⟨')', ds, rfl, by decide⟩
  name := .inl rfl

/-- Where nothing that counts is left, what follows is seen, or its first line is a comment. -/
theorem advance_eq_nil (h : advance v cs = []) :
    (∀ tail, Stops v tail → advance v (cs ++ tail) = tail) ∨
      v = true ∧ ∀ tail, '\n' ∉ tail → advance v (cs ++ tail) = [] := by
  cases v with
  | false =>
    obtain rfl : cs = [] := h
    exact .inl fun tail htail => htail.counts
  | true =>
    obtain ⟨b, hb⟩ := skipBlank_eq_nil h
    cases b with
    | false => exact .inl fun tail htail => (hb tail).trans htail.counts
    | true => exact .inr ⟨rfl, fun tail htail => (hb tail).trans (skipBlank_comment htail)⟩

theorem next_append {c : Char} (h : next v cs = some (c, rest)) (ds : List Char) :
    next v (cs ++ ds) = some (c, rest ++ ds) := by
  unfold next at h ⊢
  cases hcs : advance v cs with
  | nil =>
    rw [hcs] at h
    cases h
  | cons d r =>
    rw [hcs] at h
    obtain ⟨rfl, rfl⟩ := Prod.mk.inj (Option.some.inj h)
    rw [advance_append (hcs ▸ List.cons_ne_nil _ _), hcs]
    rfl

/-- A run that ends in the text is not changed by more text. -/
theorem takeWhile_dropWhile_append {p : Char → Bool} (h : cs.dropWhile p ≠ []) (ds : List Char) :
    (cs ++ ds).takeWhile p = cs.takeWhile p ∧ (cs ++ ds).dropWhile p = cs.dropWhile p ++ ds := by
  have hlength : (cs.takeWhile p).length ≠ cs.length := by
    have hsum := congrArg List.length (@List.takeWhile_append_dropWhile _ p cs)
    have hpos := List.length_pos_iff.mpr h
    rw [List.length_append] at hsum
    omega
  rw [List.takeWhile_append, List.dropWhile_append, if_neg hlength, if_neg (by simpa using h)]
  exact ⟨rfl, rfl⟩

/-! ### Escapes -/

theorem hexDigits?_append {n : Nat} {ds : List Nat} (h : hexDigits? v n cs = some (ds, rest))
    (es : List Char) : hexDigits? v n (cs ++ es) = some (ds, rest ++ es) := by
  induction n generalizing cs ds with
  | zero =>
    obtain ⟨rfl, rfl⟩ := Prod.mk.inj (Option.some.inj h)
    rfl
  | succ n ih =>
    simp only [hexDigits?, Option.bind_eq_bind, Option.bind_eq_some_iff, Prod.exists] at h ⊢
    obtain ⟨c, r, hc, d, hd, ds', r', hds, hresult⟩ := h
    obtain ⟨rfl, rfl⟩ := Prod.mk.inj (Option.some.inj hresult)
    exact ⟨c, r ++ es, next_append hc es, d, hd, ds', r' ++ es, ih hds, rfl⟩

theorem bracedHexDigits?_append {ds : List Nat} (h : bracedHexDigits? v cs = some (ds, rest))
    (es : List Char) : bracedHexDigits? v (cs ++ es) = some (ds, rest ++ es) := by
  fun_induction bracedHexDigits? v cs generalizing ds with
  | case1 cs hnext => cases h
  | case2 cs r hnext =>
    obtain ⟨rfl, rfl⟩ := Prod.mk.inj (Option.some.inj h)
    rw [bracedHexDigits?, next_append hnext es]
    rfl
  | case3 cs c r hnext hc ih =>
    simp only [Option.bind_eq_bind, Option.bind_eq_some_iff, Prod.exists] at h
    obtain ⟨d, hd, ds', r', hds, hresult⟩ := h
    obtain ⟨rfl, rfl⟩ := Prod.mk.inj (Option.some.inj hresult)
    rw [bracedHexDigits?, next_append hnext es]
    simp only [if_neg hc, Option.bind_eq_bind, hd, Option.bind_some, ih hds]
    rfl

namespace Atom

theorem code?_append {n : Nat} {mk : Char → Atom} {a : Atom} (h : code? v n mk cs = some (a, rest))
    (ds : List Char) : code? v n mk (cs ++ ds) = some (a, rest ++ ds) := by
  simp only [code?, Option.bind_eq_bind, Option.bind_eq_some_iff, Prod.exists] at h ⊢
  obtain ⟨c, r, hc, h⟩ := h
  refine ⟨c, r ++ ds, next_append hc ds, ?_⟩
  split at h
  · next hbrace =>
    obtain ⟨⟨digits, r'⟩, hdigits, h⟩ := Option.bind_eq_some_iff.mp h
    dsimp only at h
    rw [if_pos hbrace, bracedHexDigits?_append hdigits, Option.bind_some]
    split at h
    · cases h
    · next hsome =>
      obtain ⟨b, hb, h⟩ := Option.bind_eq_some_iff.mp h
      obtain ⟨rfl, rfl⟩ := Prod.mk.inj (Option.some.inj h)
      dsimp only
      rw [if_neg hsome, hb]
      rfl
  · next hbrace =>
    obtain ⟨⟨digits, r'⟩, hdigits, h⟩ := Option.bind_eq_some_iff.mp h
    obtain ⟨b, hb, h⟩ := Option.bind_eq_some_iff.mp h
    obtain ⟨rfl, rfl⟩ := Prod.mk.inj (Option.some.inj h)
    rw [if_neg hbrace, hexDigits?_append hdigits, Option.bind_some, hb]
    rfl

theorem boundaryName?_append {name : List Char} (h : boundaryName? v cs = some (name, rest))
    (ds : List Char) : boundaryName? v (cs ++ ds) = some (name, rest ++ ds) := by
  fun_induction boundaryName? v cs generalizing name with
  | case1 cs hnext => cases h
  | case2 cs r hnext =>
    obtain ⟨rfl, rfl⟩ := Prod.mk.inj (Option.some.inj h)
    rw [boundaryName?, next_append hnext ds]
    rfl
  | case3 cs c r hnext hc hletter ih =>
    simp only [Option.bind_eq_bind, Option.bind_eq_some_iff, Prod.exists] at h
    obtain ⟨name', r', hname, hresult⟩ := h
    obtain ⟨rfl, rfl⟩ := Prod.mk.inj (Option.some.inj hresult)
    rw [boundaryName?, next_append hnext ds]
    simp only [if_neg hc, if_pos hletter, Option.bind_eq_bind, ih hname, Option.bind_some]
    rfl
  | case4 => cases h

theorem bracedText?_append {text : List Char} (h : bracedText? v cs = some (text, rest))
    (ds : List Char) : bracedText? v (cs ++ ds) = some (text, rest ++ ds) := by
  fun_induction bracedText? v cs generalizing text with
  | case1 cs hnext => cases h
  | case2 cs r hnext =>
    obtain ⟨rfl, rfl⟩ := Prod.mk.inj (Option.some.inj h)
    rw [bracedText?, next_append hnext ds]
    rfl
  | case3 cs c r hnext hc ih =>
    simp only [Option.bind_eq_bind, Option.bind_eq_some_iff, Prod.exists] at h
    obtain ⟨text', r', htext, hresult⟩ := h
    obtain ⟨rfl, rfl⟩ := Prod.mk.inj (Option.some.inj hresult)
    rw [bracedText?, next_append hnext ds]
    simp only [if_neg hc, Option.bind_eq_bind, ih htext, Option.bind_some]
    rfl

theorem property?_append {negated : Bool} {a : Atom} (h : property? v negated cs = some (a, rest))
    (ds : List Char) : property? v negated (cs ++ ds) = some (a, rest ++ ds) := by
  simp only [property?, propertyText?, Option.bind_eq_bind, Option.bind_eq_some_iff,
    Prod.exists] at h ⊢
  obtain ⟨text, r, ⟨c, r', hc, htext⟩, b, hb, h⟩ := h
  obtain ⟨rfl, rfl⟩ := Prod.mk.inj (Option.some.inj h)
  refine ⟨text, r ++ ds, ⟨c, r' ++ ds, next_append hc ds, ?_⟩, b, hb, rfl⟩
  split at htext
  · next hbrace => rw [if_pos hbrace, bracedText?_append htext]
  · next hbrace =>
    obtain ⟨rfl, rfl⟩ := Prod.mk.inj (Option.some.inj htext)
    exact if_neg hbrace

theorem boundary?_of_ne (h : cs.head? ≠ some '{') :
    boundary? v cs = some (.anchor .wordBoundary, cs) := by
  unfold boundary?
  split
  · exact absurd rfl h
  · rfl

theorem boundary?_append {a : Atom} (h : boundary? v cs = some (a, rest)) {d : Char}
    (hd : d ≠ '{') (ds : List Char) : boundary? v (cs ++ d :: ds) = some (a, rest ++ d :: ds) := by
  cases cs with
  | nil =>
    obtain ⟨rfl, rfl⟩ := Prod.mk.inj (Option.some.inj h)
    exact boundary?_of_ne (by simpa using hd)
  | cons b cs =>
    by_cases hb : b = '{'
    · subst hb
      simp only [boundary?, Option.bind_eq_bind, Option.bind_eq_some_iff, Prod.exists] at h
      obtain ⟨c, r, hc, h⟩ := h
      simp only [List.cons_append, boundary?, next_append hc, Option.bind_eq_bind,
        Option.bind_some]
      split at h
      · next hletter =>
        obtain ⟨⟨name, r'⟩, hname, h⟩ := Option.bind_eq_some_iff.mp h
        obtain ⟨b, hb, h⟩ := Option.bind_eq_some_iff.mp h
        obtain ⟨rfl, rfl⟩ := Prod.mk.inj (Option.some.inj h)
        simp only [if_pos hletter, boundaryName?_append hname, Option.bind_some, hb]
        rfl
      · next hletter =>
        obtain ⟨rfl, rfl⟩ := Prod.mk.inj (Option.some.inj h)
        rw [if_neg hletter]
        rfl
    · have hhead : ∀ es : List Char, (b :: es).head? ≠ some '{' := fun es => by simpa using hb
      rw [boundary?_of_ne (hhead cs)] at h
      obtain ⟨rfl, rfl⟩ := Prod.mk.inj (Option.some.inj h)
      exact boundary?_of_ne (hhead _)

theorem escaped?_append {a : Atom} (h : escaped? v cs = some (a, rest)) {d : Char}
    (hd : d ≠ '{') (ds : List Char) : escaped? v (cs ++ d :: ds) = some (a, rest ++ d :: ds) := by
  cases cs with
  | nil => cases h
  | cons c cs =>
    rw [List.cons_append]
    unfold escaped? at h ⊢
    dsimp only at h ⊢
    -- What stands behind the letter counts for codes, for properties and for word boundaries only.
    split at h
    case h_1 | h_2 | h_3 => exact code?_append h _
    case h_10 | h_11 => exact property?_append h _
    case h_20 => exact boundary?_append h hd ds
    case h_24 =>
      split at h
      · next hc =>
        obtain ⟨rfl, rfl⟩ := Prod.mk.inj (Option.some.inj h)
        exact if_pos hc
      · cases h
    all_goals
      obtain ⟨rfl, rfl⟩ := Prod.mk.inj (Option.some.inj h)
      rfl

end Atom

/-! ### Bracketed classes -/

theorem Posix.paren_not_mem {name : List Char} {k : Posix} (h : ofName? name = some k) :
    ')' ∉ name := by
  obtain ⟨x, hx, heq⟩ := List.exists_of_findSome?_eq_some h
  have hnames : ∀ x ∈ [("alnum", alnum), ("alpha", alpha), ("ascii", ascii), ("blank", blank),
      ("cntrl", cntrl), ("digit", digit), ("graph", graph), ("lower", lower), ("print", print),
      ("punct", punct), ("space", space), ("upper", upper), ("word", word), ("xdigit", xdigit)],
      ')' ∉ x.1.toList := by decide
  dsimp only at heq
  split at heq
  · next hname => exact hname ▸ hnames x hx
  · cases heq

/-- Reads the name of a class, a colon and the closing bracket. -/
def Posix.named? (negated : Bool) (cs : List Char) : Option ((Posix × Bool) × List Char) :=
  match cs.dropWhile (· != ':') with
  | ':' :: ']' :: rest => do
    let k ← ofName? (cs.takeWhile (· != ':'))
    return ((k, negated), rest)
  | _ => none

theorem Posix.read?_colon (cs : List Char) : Posix.read? (':' :: cs) =
    named? (cs.head? == some '^') (if cs.head? == some '^' then cs.tail else cs) := rfl

theorem Posix.named?_append (htail : Stops v tail) (negated : Bool)
    (cs : List Char) : named? negated (cs ++ tail) =
      (named? negated cs).map fun p => (p.1, p.2 ++ tail) := by
  obtain ⟨d, ds, rfl, hd⟩ := htail.head
  simp only [List.mem_cons, List.not_mem_nil, or_false, not_or] at hd
  unfold named?
  rw [List.dropWhile_append, List.takeWhile_append]
  cases hdrop : cs.dropWhile (· != ':') with
  | nil =>
    -- A name that goes on behind the text has a parenthesis in it, or no end.
    have hall : (cs.takeWhile (· != ':')).length = cs.length := by
      have := congrArg List.length (@List.takeWhile_append_dropWhile _ (· != ':') cs)
      simpa [hdrop] using this
    rw [if_pos hall]
    dsimp only [List.isEmpty_nil]
    rcases htail.name with hparen | hcolon
    · obtain rfl : d = ')' := Option.some.inj hparen
      have hnone : ofName? (cs ++ (')' :: ds).takeWhile (· != ':')) = none := by
        refine Option.eq_none_iff_forall_ne_some.mpr fun k hk => paren_not_mem hk ?_
        simp
      rw [hnone]
      split <;> rfl
    · have hnil : (d :: ds).dropWhile (· != ':') = [] :=
        List.dropWhile_eq_nil_iff.mpr fun e he => by
          simpa using fun heq : e = ':' => hcolon (heq ▸ he)
      rw [if_pos rfl, hnil]
      rfl
  | cons e es =>
    have hshort : (cs.takeWhile (· != ':')).length ≠ cs.length := by
      have := congrArg List.length (@List.takeWhile_append_dropWhile _ (· != ':') cs)
      rw [List.length_append, hdrop] at this
      simp at this
      omega
    rw [if_neg hshort, List.isEmpty_cons, if_neg Bool.false_ne_true]
    split
    · next rest heq =>
      obtain ⟨rfl, hes⟩ := List.cons.inj heq
      cases es with
      | nil => exact absurd (List.cons.inj hes).1 hd.2.2.2.2.1
      | cons f fs =>
        obtain ⟨rfl, rfl⟩ := List.cons.inj hes
        cases hk : ofName? (cs.takeWhile (· != ':')) <;> rfl
    · next hne =>
      split
      · next rest heq =>
        obtain ⟨rfl, rfl⟩ := List.cons.inj heq
        exact absurd rfl (hne _)
      · rfl

theorem Posix.read?_append (htail : Stops v tail) (cs : List Char) :
    Posix.read? (cs ++ tail) = (Posix.read? cs).map fun p => (p.1, p.2 ++ tail) := by
  have hnone : ∀ {c : Char}, c ≠ ':' → ∀ es : List Char, Posix.read? (c :: es) = none := by
    intro c hc es
    unfold Posix.read?
    split
    · next heq => exact absurd (List.cons.inj heq).1 hc
    · rfl
  obtain ⟨d, ds, rfl, hd⟩ := htail.head
  simp only [List.mem_cons, List.not_mem_nil, or_false, not_or] at hd
  cases cs with
  | nil => exact hnone hd.2.2.1 ds
  | cons c cs =>
    by_cases hc : c = ':'
    · subst hc
      have hcaret : ((d :: ds).head? == some '^') = false := by simpa using hd.2.2.2.1
      have hname : (if (cs.head? == some '^') = true then (cs ++ d :: ds).tail
          else cs ++ d :: ds) = (if (cs.head? == some '^') = true then cs.tail else cs) ++
            d :: ds := by
        cases cs with
        | nil => rfl
        | cons e cs => split <;> rfl
      have hnegated : ((cs ++ d :: ds).head? == some '^') = (cs.head? == some '^') := by
        cases cs with
        | nil => exact hcaret
        | cons e cs => rfl
      rw [List.cons_append, read?_colon, read?_colon, hnegated, hname, named?_append htail]
    · rw [List.cons_append, hnone hc, hnone hc]
      rfl

theorem SetOp.read?_append (htail : Stops v tail) (c : Char) (cs : List Char) :
    SetOp.read? c (cs ++ tail) = (SetOp.read? c cs).map fun p => (p.1, p.2 ++ tail) := by
  obtain ⟨d, ds, rfl, hd⟩ := htail.head
  simp only [List.mem_cons, List.not_mem_nil, or_false, not_or] at hd
  cases cs with
  | nil =>
    -- An operator is the same character twice.
    by_cases hc : c = d
    · subst hc
      simp [SetOp.read?, hd]
    · exact if_pos hc
  | cons e cs =>
    rw [List.cons_append]
    unfold SetOp.read?
    dsimp only
    repeat' split
    all_goals rfl

namespace Bracket

theorem Level.openDashes?_append {l l' : Level} (h : l.openDashes? v cs = some (l', rest))
    (ds : List Char) : l.openDashes? v (cs ++ ds) = some (l', rest ++ ds) := by
  fun_induction Level.openDashes? v l cs with
  | case1 l cs hnext => cases h
  | case2 l cs r hnext ih =>
    rw [Level.openDashes?, next_append hnext ds]
    exact ih h
  | case3 l cs c r hnext hc =>
    obtain ⟨rfl, rfl⟩ := Prod.mk.inj (Option.some.inj h)
    rw [Level.openDashes?, next_append hnext ds]
    exact if_neg hc

theorem Level.open?_append {l : Level} (h : Level.open? v cs = some (l, rest)) (ds : List Char) :
    Level.open? v (cs ++ ds) = some (l, rest ++ ds) := by
  simp only [Level.open?, Option.bind_eq_bind, Option.bind_eq_some_iff, Prod.exists] at h
  obtain ⟨c, r, hc, l', cs', hdashes, c', r', hc', h⟩ := h
  have hstart : (if (c == '^') = true then r ++ ds else cs ++ ds) =
      (if (c == '^') = true then r else cs) ++ ds := by
    split <;> rfl
  simp only [Level.open?, next_append hc, Option.bind_eq_bind, Option.bind_some, hstart,
    openDashes?_append hdashes, next_append hc']
  split at h
  · next hbracket =>
    obtain ⟨rfl, rfl⟩ := Prod.mk.inj (Option.some.inj h)
    exact if_pos hbracket
  · next hbracket =>
    obtain ⟨rfl, rfl⟩ := Prod.mk.inj (Option.some.inj h)
    exact if_neg hbracket

theorem atom?_append {c : Char} {a : Atom} (h : atom? v c cs = some (a, rest))
    (htail : Stops v tail) : atom? v c (cs ++ tail) = some (a, rest ++ tail) := by
  unfold atom? at h ⊢
  split at h
  · next hc =>
    rw [if_pos hc]
    obtain ⟨d, ds, rfl, hd⟩ := htail.head
    exact Atom.escaped?_append h (fun heq => hd (heq ▸ List.mem_cons_self)) ds
  · next hc =>
    obtain ⟨rfl, rfl⟩ := Prod.mk.inj (Option.some.inj h)
    exact if_neg hc

theorem skipBlank_dropWhile (cs : List Char) :
    skipBlank false (cs.dropWhile Unicode.isBlank) = skipBlank false cs := by
  induction cs with
  | nil => rfl
  | cons c cs ih =>
    cases hc : Unicode.isBlank c with
    | true =>
      have hmark : (c == '#') = false := by
        rw [beq_eq_false_iff_ne]
        rintro rfl
        exact absurd hc (by decide)
      rw [List.dropWhile_cons_of_pos hc, ih, skipBlank, hmark, hc]
      rfl
    | false => rw [List.dropWhile_cons_of_neg (Bool.not_eq_true _ ▸ hc)]

theorem skipBlank_of_blank {cs : List Char} (h : ∀ c ∈ cs, Unicode.isBlank c = true) (b : Bool) :
    skipBlank b cs = [] := by
  induction cs generalizing b with
  | nil => rfl
  | cons c cs ih =>
    obtain ⟨hc, hcs⟩ := List.forall_mem_cons.mp h
    rw [skipBlank]
    repeat' split
    all_goals exact ih hcs _

/-- The character behind a dash that decides what the dash means, if the text goes on so far. -/
def judge? (v : Bool) (cs : List Char) : Option Char :=
  if v then
    match cs.dropWhile Unicode.isBlank with
    | '#' :: rest => (rest.dropWhile Unicode.isBlank).head?
    | rest => rest.head?
  else cs.head?

theorem afterDash_eq (v : Bool) (cs : List Char) : afterDash v cs = (judge? v cs).or cs.head? := by
  unfold afterDash judge?
  split
  · cases cs.dropWhile Unicode.isBlank with
    | nil => exact Option.orElse_eq_or
    | cons c es =>
      by_cases hc : c = '#'
      · subst hc
        exact Option.orElse_eq_or
      · simp [hc]
  · cases cs <;> rfl

theorem judge?_append {c : Char} (h : judge? v cs = some c) (ds : List Char) :
    judge? v (cs ++ ds) = some c := by
  have hhead : ∀ {es : List Char}, es.head? = some c → (es ++ ds).head? = some c := by
    intro es hes
    rw [List.head?_append, hes]
    rfl
  have hdrop : ∀ {es : List Char}, es.dropWhile Unicode.isBlank ≠ [] →
      (es ++ ds).dropWhile Unicode.isBlank = es.dropWhile Unicode.isBlank ++ ds := by
    intro es hes
    rw [List.dropWhile_append, if_neg (by simpa using hes)]
  unfold judge? at h ⊢
  -- In verbose mode blanks and the mark of a comment are skipped first. Something has been judged,
  -- so something is left behind them, and it stays the same in the longer text.
  split at h
  · next hv =>
    rw [if_pos hv]
    split at h
    · next r hr =>
      have hne : r.dropWhile Unicode.isBlank ≠ [] := by
        rintro heq
        rw [heq] at h
        cases h
      rw [hdrop (hr ▸ List.cons_ne_nil _ _), hr]
      change ((r ++ ds).dropWhile Unicode.isBlank).head? = some c
      rw [hdrop hne]
      exact hhead h
    · next hmark =>
      have hne : cs.dropWhile Unicode.isBlank ≠ [] := by
        rintro heq
        rw [heq] at h
        cases h
      rw [hdrop hne]
      split
      · next r hr =>
        cases hes : cs.dropWhile Unicode.isBlank with
        | nil => exact absurd hes hne
        | cons e es =>
          rw [hes] at hr
          obtain ⟨rfl, -⟩ := List.cons.inj hr
          exact absurd hes (hmark es)
      · exact hhead h
  · next hv =>
    rw [if_neg hv]
    exact hhead h

theorem isSome_judge? (h : advance v cs ≠ []) : (judge? v cs).isSome = true := by
  unfold judge?
  cases v with
  | false =>
    obtain ⟨c, r, rfl⟩ := List.exists_cons_of_ne_nil h
    rfl
  | true =>
    have hskip : skipBlank false (cs.dropWhile Unicode.isBlank) ≠ [] := by
      rwa [skipBlank_dropWhile]
    rw [if_pos rfl]
    split
    · next r hr =>
      rw [hr, skipBlank] at hskip
      rw [Option.isSome_iff_ne_none, ne_eq, List.head?_eq_none_iff, List.dropWhile_eq_nil_iff]
      exact fun hblank => hskip (skipBlank_of_blank hblank true)
    · next hmark =>
      rw [Option.isSome_iff_ne_none, ne_eq, List.head?_eq_none_iff]
      intro heq
      rw [heq] at hskip
      exact hskip rfl

/-- A closing bracket or a dash behind a dash is not beyond the end of the text. -/
theorem judge?_of_afterDash {c : Char} (h : afterDash v cs = some c) (hc : c = ']' ∨ c = '-') :
    judge? v cs = some c := by
  rw [afterDash_eq] at h
  cases hj : judge? v cs with
  | some d => rwa [hj] at h
  | none =>
    -- Otherwise the text has white space and perhaps the mark of a comment only.
    rw [hj, Option.none_or] at h
    obtain ⟨r, rfl⟩ : ∃ r, cs = c :: r := by
      cases cs with
      | nil => cases h
      | cons d r => exact ⟨r, congrArg (· :: r) (Option.some.inj h)⟩
    have hadvance : advance v (c :: r) ≠ [] := by
      cases v with
      | false => exact List.cons_ne_nil c r
      | true =>
        have hskip : skipBlank false (c :: r) = c :: r := by
          rcases hc with rfl | rfl <;> rfl
        rw [advance, if_pos rfl, hskip]
        exact List.cons_ne_nil c r
    have hsome := isSome_judge? hadvance
    rw [hj] at hsome
    cases hsome

theorem item?_append {c : Char} {b : Bracket} (h : item? v c cs = some (b, rest))
    (htail : Stops v tail) : item? v c (cs ++ tail) = some (b, rest ++ tail) := by
  simp only [item?, Option.bind_eq_bind, Option.bind_eq_some_iff, Prod.exists] at h
  obtain ⟨a, r, ha, d, r', hd, h⟩ := h
  simp only [item?, atom?_append ha htail, next_append hd, Option.bind_eq_bind, Option.bind_some]
  split at h
  · next hsingle =>
    obtain ⟨b', hb, h⟩ := Option.bind_eq_some_iff.mp h
    obtain ⟨rfl, rfl⟩ := Prod.mk.inj (Option.some.inj h)
    have hsingle' : d ≠ '-' ∨ afterDash v (r' ++ tail) = some ']' ∨
        afterDash v (r' ++ tail) = some '-' := by
      refine hsingle.imp_right (Or.imp (fun he => ?_) fun he => ?_)
      · rw [afterDash_eq, judge?_append (judge?_of_afterDash he (.inl rfl)), Option.some_or]
      · rw [afterDash_eq, judge?_append (judge?_of_afterDash he (.inr rfl)), Option.some_or]
    rw [if_pos hsingle', hb]
    rfl
  · next hrange =>
    simp only [Option.bind_eq_some_iff, Prod.exists] at h
    obtain ⟨c', s, hc', b', t, hb', lo, hlo, hi, hhi, h⟩ := h
    have hadvance : advance v r' ≠ [] := by
      intro heq
      rw [next, heq] at hc'
      cases hc'
    have hdash : afterDash v (r' ++ tail) = afterDash v r' := by
      obtain ⟨e, he⟩ := Option.isSome_iff_exists.mp (isSome_judge? hadvance)
      rw [afterDash_eq, afterDash_eq, judge?_append he, he, Option.some_or, Option.some_or]
    rw [hdash, if_neg hrange]
    simp only [next_append hc', Option.bind_some, atom?_append hb' htail, hlo, hhi]
    split at h
    · next hle =>
      obtain ⟨rfl, rfl⟩ := Prod.mk.inj (Option.some.inj h)
      exact if_pos hle
    · cases h

theorem step?_append {l : Level} {outer : List Level} {x : Bracket ⊕ Level × List Level}
    (h : step? v l outer cs = some (x, rest)) (htail : Stops v tail) :
    step? v l outer (cs ++ tail) = some (x, rest ++ tail) := by
  simp only [step?, Option.bind_eq_bind, Option.bind_eq_some_iff, Prod.exists] at h
  obtain ⟨c, r, hc, h⟩ := h
  simp only [step?, next_append hc, Option.bind_eq_bind, Option.bind_some]
  -- The readers are tried in turn: the end of the class, the start of an inner one, an operator, an
  -- item. Each answers on the longer text as on the shorter one, also when it declines.
  split at h
  · next hclose =>
    rw [if_pos hclose]
    split at h
    all_goals
      obtain ⟨rfl, rfl⟩ := Prod.mk.inj (Option.some.inj h)
      rfl
  · next hclose =>
    rw [if_neg hclose]
    split at h
    · next hopen =>
      rw [if_pos hopen, Posix.read?_append htail]
      split at h
      · next hposix =>
        obtain ⟨rfl, rfl⟩ := Prod.mk.inj (Option.some.inj h)
        rw [hposix]
        rfl
      · next hposix =>
        obtain ⟨⟨inner, r'⟩, hinner, h⟩ := Option.bind_eq_some_iff.mp h
        obtain ⟨rfl, rfl⟩ := Prod.mk.inj (Option.some.inj h)
        rw [hposix]
        simp only [Option.map_none, Level.open?_append hinner, Option.bind_some]
        rfl
    · next hopen =>
      rw [if_neg hopen, SetOp.read?_append htail]
      split at h
      · next hop =>
        obtain ⟨rfl, rfl⟩ := Prod.mk.inj (Option.some.inj h)
        rw [hop]
        rfl
      · next hop =>
        obtain ⟨⟨b, r'⟩, hitem, h⟩ := Option.bind_eq_some_iff.mp h
        obtain ⟨rfl, rfl⟩ := Prod.mk.inj (Option.some.inj h)
        rw [hop]
        simp only [Option.map_none, item?_append hitem htail, Option.bind_some]
        rfl

theorem readFrom?_append {l : Level} {outer : List Level} {b : Bracket}
    (h : readFrom? v l outer cs = some (b, rest)) (htail : Stops v tail) :
    readFrom? v l outer (cs ++ tail) = some (b, rest ++ tail) := by
  fun_induction readFrom? v l outer cs with
  | case1 l outer cs hstep => cases h
  | case2 l outer cs b' r hstep =>
    obtain ⟨rfl, rfl⟩ := Prod.mk.inj (Option.some.inj h)
    rw [readFrom?, step?_append hstep htail]
  | case3 l outer cs l' outer' r hstep hlt ih =>
    rw [readFrom?, step?_append hstep htail]
    have hlt' : (r ++ tail).length < (cs ++ tail).length := by
      simpa using hlt
    dsimp only
    rw [if_pos hlt']
    exact ih h
  | case4 => cases h

theorem read?_append {b : Bracket} (h : read? v cs = some (b, rest)) (htail : Stops v tail) :
    read? v (cs ++ tail) = some (b, rest ++ tail) := by
  simp only [read?, Option.bind_eq_bind, Option.bind_eq_some_iff, Prod.exists] at h
  obtain ⟨l, r, hopen, h⟩ := h
  simp only [read?, Level.open?_append hopen, Option.bind_eq_bind, Option.bind_some]
  exact readFrom?_append h htail

end Bracket

end HttpRouting.Regex
