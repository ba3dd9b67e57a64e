import HttpRouting.Proofs.ReadingOn
import Mathlib.Data.List.Basic

/-!
# Tokens in front of more text

A parenthesis behind a pattern is seen as the end of the last token of the pattern, and so is any
text that no token goes on with, unless the pattern ends in a comment. A comment goes on to the end
of the line, and hides everything that it comes to. The same is true of all tokens of a pattern, if
the groups that they close are groups that they have opened: then the groups around do not matter.

## Main definitions

* `Token.Halts` — a reading stops in front of more text, or goes on as a comment
* `Token.depth?` — the number of open groups along some tokens
* `Token.isPlain` — a token that sets no flags and does not look around

## Main results

* `Token.halts_read?` — every token halts
* `Token.scope_append` — tokens do not see the groups around
* `lexemesFrom?_enclosed` — the tokens of a pattern in front of a parenthesis
* `lexemesFrom?_append` — the tokens of a pattern without flags in front of more text
-/

namespace HttpRouting.Regex

variable {v : Bool} {cs rest : List Char}

/-! ### Tokens -/

namespace Token

theorem groupName?_append {t : Token} (h : groupName? cs = some (t, rest)) (ds : List Char) :
    groupName? (cs ++ ds) = some (t, rest ++ ds) := by
  unfold groupName? at h ⊢
  dsimp only at h ⊢
  split at h
  · next c r hr =>
    obtain ⟨htake, hdrop⟩ := takeWhile_dropWhile_append (hr ▸ List.cons_ne_nil _ _) ds
    rw [htake, hdrop, hr]
    split at h
    · next hname =>
      obtain ⟨rfl, rfl⟩ := Prod.mk.inj (Option.some.inj h)
      exact if_pos hname
    · cases h
  · cases h

theorem flags?_append {t : Token} (h : flags? cs = some (t, rest)) (ds : List Char) :
    flags? (cs ++ ds) = some (t, rest ++ ds) := by
  simp only [flags?, Option.bind_eq_bind, Option.bind_eq_some_iff] at h
  obtain ⟨edits, hedits, h⟩ := h
  have hne : (cs.dropWhile fun c => c != ':' && c != ')') ≠ [] := by
    intro heq
    rw [heq] at h
    cases h
  obtain ⟨htake, hdrop⟩ := takeWhile_dropWhile_append hne ds
  simp only [flags?, Option.bind_eq_bind, htake, hedits, Option.bind_some, hdrop]
  split at h
  · next r hr =>
    obtain ⟨rfl, rfl⟩ := Prod.mk.inj (Option.some.inj h)
    rw [hr]
    rfl
  · next r hr =>
    rw [hr]
    split at h
    · cases h
    · next hletters =>
      obtain ⟨rfl, rfl⟩ := Prod.mk.inj (Option.some.inj h)
      exact if_neg hletters
  · cases h

/-- A reading is not changed by a text behind it in front of which it comes to a stop, unless it
ends in a comment, which then goes on to the end of the line. -/
def Halts (v : Bool) (read : List Char → Option (Token × List Char)) (cs : List Char) (t : Token)
    (rest : List Char) : Prop :=
  (∀ tail, Stops v tail → read (cs ++ tail) = some (t, rest ++ tail)) ∨
    rest = [] ∧ v = true ∧ ∀ tail, '\n' ∉ tail → read (cs ++ tail) = some (t, [])

/-- A group that does not start with a question mark captures, and has no name. -/
theorem group?_of_ne (h : ∀ r, advance v cs ≠ '?' :: r) :
    group? v cs = some (.openGroup (.capturing none), advance v cs) := by
  unfold group?
  split
  · next heq => exact absurd heq (h _)
  · next heq => exact absurd heq (h _)
  · next heq => exact absurd heq (h _)
  · rfl

theorem flags?_nil : flags? [] = none := by decide

theorem flags?_singleton_P : flags? ['P'] = none := by decide

theorem group?_append {t : Token} (h : group? v cs = some (t, rest)) (hne : advance v cs ≠ [])
    (ds : List Char) : group? v (cs ++ ds) = some (t, rest ++ ds) := by
  unfold group? at h ⊢
  rw [advance_append hne]
  generalize advance v cs = es at h hne
  split at h
  · exact groupName?_append h _
  · exact groupName?_append h _
  · next r hname hangle =>
    -- What follows does not turn flags into a name, because flags come to an end.
    split
    · next heq =>
      have hr := (List.cons.inj heq).2
      cases r with
      | nil =>
        rw [flags?_nil] at h
        cases h
      | cons a r =>
        obtain ⟨rfl, hr'⟩ := List.cons.inj hr
        cases r with
        | nil =>
          rw [flags?_singleton_P] at h
          cases h
        | cons b r =>
          obtain ⟨rfl, -⟩ := List.cons.inj hr'
          exact absurd rfl (hname r)
    · next heq =>
      have hr := (List.cons.inj heq).2
      cases r with
      | nil =>
        rw [flags?_nil] at h
        cases h
      | cons a r =>
        obtain ⟨rfl, -⟩ := List.cons.inj hr
        exact absurd rfl (hangle r)
    · next heq =>
      obtain ⟨-, rfl⟩ := List.cons.inj heq
      exact flags?_append h _
    · next hno => exact absurd rfl (hno _)
  · next hno =>
    obtain ⟨rfl, rfl⟩ := Prod.mk.inj (Option.some.inj h)
    obtain ⟨e, es, rfl⟩ := List.exists_cons_of_ne_nil hne
    have he : ∀ {r r' : List Char}, e :: r ≠ '?' :: r' := by
      intro r r' heq
      exact hno es (congrArg (· :: es) (List.cons.inj heq).1)
    split
    · next heq => exact absurd heq he
    · next heq => exact absurd heq he
    · next heq => exact absurd heq he
    · rfl

theorem halts_group? {t : Token} (h : group? v cs = some (t, rest)) :
    Halts v (group? v) cs t rest := by
  by_cases hnil : advance v cs = []
  · have hnone : ∀ {fs : List Char}, advance v fs = [] → ∀ r, advance v fs ≠ '?' :: r := by
      intro fs hfs r heq
      cases hfs.symm.trans heq
    rw [group?_of_ne (hnone hnil), hnil] at h
    obtain ⟨rfl, rfl⟩ := Prod.mk.inj (Option.some.inj h)
    refine (advance_eq_nil hnil).imp (fun hstops tail htail => ?_)
      fun ⟨hv, hcomment⟩ => ⟨rfl, hv, fun tail htail => ?_⟩
    · rw [group?_of_ne, hstops tail htail]
      · rfl
      · intro r heq
        obtain ⟨d, ds, rfl, hd⟩ := htail.head
        obtain ⟨rfl, -⟩ := List.cons.inj ((hstops _ htail).symm.trans heq)
        exact hd (by decide)
    · rw [group?_of_ne (hnone (hcomment tail htail)), hcomment tail htail]
  · exact .inl fun tail _ => group?_append h hnil tail

theorem marked_append {tail : List Char} (htail : Stops v tail) (min : Nat) (max : Option Nat)
    (cs : List Char) : marked min max (cs ++ tail) =
      ((marked min max cs).1, (marked min max cs).2 ++ tail) := by
  have hmarked : ∀ {c : Char}, c ≠ '?' → ∀ es,
      marked min max (c :: es) = (.times min max false, c :: es) := by
    intro c hc es
    unfold marked
    split
    · next heq => exact absurd (List.cons.inj heq).1 hc
    · rfl
  cases cs with
  | nil =>
    obtain ⟨d, ds, rfl, hd⟩ := htail.head
    exact hmarked (fun heq => hd (heq ▸ List.mem_cons_of_mem _ List.mem_cons_self)) ds
  | cons c cs =>
    by_cases hc : c = '?'
    · subst hc
      rfl
    · rw [List.cons_append, hmarked hc, hmarked hc]
      rfl

theorem trimBlank_append (h : trimBlank v cs ≠ []) (ds : List Char) :
    trimBlank v (cs ++ ds) = trimBlank v cs ++ ds := by
  cases v with
  | false => exact (takeWhile_dropWhile_append h ds).2
  | true => exact skipBlank_append h ds

theorem digits_append {l : List Nat} (h : digits v cs = (l, rest)) (hrest : advance v rest ≠ [])
    (ds : List Char) : digits v (cs ++ ds) = (l, rest ++ ds) := by
  fun_induction digits v cs generalizing l with
  | case1 cs hnext =>
    obtain ⟨rfl, rfl⟩ := Prod.mk.inj h
    obtain ⟨c, r, hcs⟩ := List.exists_cons_of_ne_nil hrest
    rw [next, hcs] at hnext
    cases hnext
  | case2 cs c r hnext hc l' r' hdigits ih =>
    obtain ⟨rfl, rfl⟩ := Prod.mk.inj h
    rw [digits, next_append hnext ds]
    dsimp only
    rw [if_pos hc, ih hdigits]
  | case3 cs c r hnext hc =>
    obtain ⟨rfl, rfl⟩ := Prod.mk.inj h
    rw [digits, next_append hnext ds]
    exact if_neg hc

theorem count?_nil (v : Bool) : count? v [] = none := by
  have hdigits : digits v [] = ([], []) := by
    rw [digits]
    cases v <;> rfl
  have htrim : trimBlank v [] = [] := by cases v <;> rfl
  unfold count?
  rw [htrim, hdigits]
  exact if_pos (.inl rfl)

theorem count?_append {n : Nat} (h : count? v cs = some (n, rest)) (hrest : rest ≠ [])
    (ds : List Char) : count? v (cs ++ ds) = some (n, rest ++ ds) := by
  unfold count? at h ⊢
  dsimp only at h ⊢
  split at h
  · cases h
  · next hn =>
    obtain ⟨rfl, rfl⟩ := Prod.mk.inj (Option.some.inj h)
    have hadvance : advance v (digits v (trimBlank v cs)).2 ≠ [] := by
      cases v with
      | true => exact hrest
      | false =>
        intro heq
        have hnil : (digits false (trimBlank false cs)).2 = [] := heq
        exact hrest (congrArg (trimBlank false) hnil)
    have hcs : trimBlank v cs ≠ [] := by
      intro heq
      have hdigits : digits v [] = ([], []) := by
        rw [digits]
        cases v <;> rfl
      rw [heq, hdigits] at hn
      exact hn (.inl rfl)
    rw [trimBlank_append hcs, digits_append rfl hadvance]
    dsimp only
    rw [if_neg hn, trimBlank_append hrest]

/-- Reads the upper bound of a repetition that is given a lower one. -/
def upper? (v : Bool) (n : Nat) : List Char → Option (Option Nat × List Char)
  | ',' :: cs =>
    match advance v cs with
    | '}' :: rest => some (none, '}' :: rest)
    | rest => (count? v rest).bind fun p => some (some p.1, p.2)
  | rest => some (some n, rest)

/-- Reads the closing brace of a repetition and what may mark it. -/
def closing? (v : Bool) (n : Nat) (m : Option Nat) : List Char → Option (Token × List Char)
  | '}' :: rest => if n ≤ m.getD n then some (marked n m (advance v rest)) else none
  | _ => none

theorem upper?_of_ne {n : Nat} (h : cs.head? ≠ some ',') : upper? v n cs = some (some n, cs) := by
  unfold upper?
  split
  · exact absurd rfl h
  · rfl

theorem upper?_brace {n : Nat} (h : advance v cs = '}' :: rest) :
    upper? v n (',' :: cs) = some (none, '}' :: rest) := by
  change (match advance v cs with
    | '}' :: rest => some (none, '}' :: rest)
    | rest => (count? v rest).bind fun p => some (some p.1, p.2)) = _
  rw [h]
  rfl

theorem upper?_count {n : Nat} (h : (advance v cs).head? ≠ some '}') : upper? v n (',' :: cs) =
    (count? v (advance v cs)).bind fun p => some (some p.1, p.2) := by
  change (match advance v cs with
    | '}' :: rest => some (none, '}' :: rest)
    | rest => (count? v rest).bind fun p => some (some p.1, p.2)) = _
  split
  · next heq =>
    rw [heq] at h
    exact absurd rfl h
  · rfl

theorem bounds?_eq (v : Bool) (cs : List Char) : bounds? v cs =
    (count? v (advance v cs)).bind fun p => (upper? v p.1 p.2).bind fun q =>
      closing? v p.1 q.1 q.2 := by
  unfold bounds?
  refine Option.bind_congr fun p _ => ?_
  obtain ⟨n, r⟩ := p
  dsimp only
  split
  · next r' _ =>
    split
    · next heq =>
      rw [upper?_brace heq]
      rfl
    · next hbrace =>
      have hhead : (advance v r').head? ≠ some '}' := by
        intro heq
        cases hr : advance v r' with
        | nil =>
          rw [hr] at heq
          cases heq
        | cons d ds =>
          rw [hr] at heq
          obtain rfl := Option.some.inj heq
          exact hbrace ds hr
      rw [upper?_count hhead]
      cases count? v (advance v r') with
      | none => rfl
      | some q => rfl
  · next hcomma =>
    have hhead : r.head? ≠ some ',' := by
      intro heq
      cases r with
      | nil => cases heq
      | cons d ds => exact hcomma ds (congrArg (· :: ds) (Option.some.inj heq))
    rw [upper?_of_ne hhead]
    rfl

theorem upper?_append {n : Nat} {m : Option Nat} (h : upper? v n cs = some (m, rest))
    (hrest : rest ≠ []) (ds : List Char) : upper? v n (cs ++ ds) = some (m, rest ++ ds) := by
  by_cases hcomma : cs.head? = some ','
  · obtain ⟨cs, rfl⟩ : ∃ r, cs = ',' :: r := List.head?_eq_some_iff.mp hcomma
    rw [List.cons_append]
    by_cases hnil : advance v cs = []
    · rw [upper?_count (by rw [hnil]; nofun), hnil] at h
      rw [count?_nil] at h
      cases h
    · by_cases hbrace : (advance v cs).head? = some '}'
      · obtain ⟨r, hr⟩ := List.head?_eq_some_iff.mp hbrace
        rw [upper?_brace hr] at h
        obtain ⟨rfl, rfl⟩ := Prod.mk.inj (Option.some.inj h)
        exact upper?_brace (by rw [advance_append hnil, hr]; rfl)
      · rw [upper?_count hbrace] at h
        obtain ⟨⟨k, r⟩, hk, h⟩ := Option.bind_eq_some_iff.mp h
        obtain ⟨rfl, rfl⟩ := Prod.mk.inj (Option.some.inj h)
        have hhead : (advance v (cs ++ ds)).head? ≠ some '}' := by
          rwa [advance_append hnil, List.head?_append_of_ne_nil _ hnil]
        rw [upper?_count hhead, advance_append hnil, count?_append hk hrest]
        rfl
  · rw [upper?_of_ne hcomma] at h
    obtain ⟨rfl, rfl⟩ := Prod.mk.inj (Option.some.inj h)
    exact upper?_of_ne (by rwa [List.head?_append_of_ne_nil _ hrest])

theorem halts_bounds? {t : Token} (h : bounds? v cs = some (t, rest)) :
    Halts v (bounds? v) cs t rest := by
  rw [bounds?_eq] at h
  obtain ⟨⟨n, r⟩, hn, h⟩ := Option.bind_eq_some_iff.mp h
  obtain ⟨⟨m, r'⟩, hm, h⟩ := Option.bind_eq_some_iff.mp h
  dsimp only at h
  unfold closing? at h
  split at h
  · next x =>
    split at h
    · next hle =>
      have hmarked := Option.some.inj h
      have hr : r ≠ [] := by
        rintro rfl
        cases hm
      have hcs : advance v cs ≠ [] := by
        intro heq
        rw [heq, count?_nil] at hn
        cases hn
      have hbounds : ∀ ds, bounds? v (cs ++ ds) = some (marked n m (advance v (x ++ ds))) := by
        intro ds
        rw [bounds?_eq, advance_append hcs, count?_append hn hr]
        dsimp only [Option.bind_some]
        rw [upper?_append hm (List.cons_ne_nil _ _)]
        exact if_pos hle
      by_cases hnil : advance v x = []
      · rw [hnil] at hmarked
        obtain ⟨rfl, rfl⟩ := Prod.mk.inj hmarked
        refine (advance_eq_nil hnil).imp (fun hstops tail htail => ?_)
          fun ⟨hv, hcomment⟩ => ⟨rfl, hv, fun tail htail => ?_⟩
        · rw [hbounds, hstops tail htail]
          exact congrArg some (marked_append htail n m [])
        · rw [hbounds, hcomment tail htail]
          rfl
      · refine .inl fun tail htail => ?_
        rw [hbounds, advance_append hnil, marked_append htail, hmarked]
    · cases h
  · cases h

theorem Halts.cons {read read' : List Char → Option (Token × List Char)} {c : Char} {t : Token}
    (h : Halts v read cs t rest) (hread : ∀ es, read' (c :: es) = read es) :
    Halts v read' (c :: cs) t rest := by
  refine h.imp (fun hstops tail htail => ?_)
    (And.imp_right (And.imp_right fun hcomment tail htail => ?_))
  · rw [List.cons_append, hread, hstops tail htail]
  · rw [List.cons_append, hread, hcomment tail htail]

/-- What is ignored in the verbose mode is read up to the next character that counts. -/
theorem read?_of_ignored {c : Char} (h : (v && (c == '#' || Unicode.isBlank c)) = true)
    (es : List Char) : read? v (c :: es) = some (.ignored, advance v (c :: es)) := by
  have hv : v = true := (Bool.and_eq_true_iff.mp h).1
  unfold read?
  dsimp only
  rw [if_pos h, advance, if_pos hv]

theorem halts_read?_of_ignored {c : Char} {t : Token}
    (hignored : (v && (c == '#' || Unicode.isBlank c)) = true)
    (h : read? v (c :: cs) = some (t, rest)) : Halts v (read? v) (c :: cs) t rest := by
  have hread := read?_of_ignored hignored
  rw [hread] at h
  obtain ⟨rfl, rfl⟩ := Prod.mk.inj (Option.some.inj h)
  by_cases hnil : advance v (c :: cs) = []
  · refine (advance_eq_nil hnil).imp (fun hstops tail htail => ?_)
      fun ⟨hv, hcomment⟩ => ⟨hnil, hv, fun tail htail => ?_⟩
    · rw [List.cons_append, hread, hnil, ← List.cons_append, hstops tail htail]
      rfl
    · rw [List.cons_append, hread, ← List.cons_append, hcomment tail htail]
  · refine .inl fun tail _ => ?_
    rw [List.cons_append, hread, ← List.cons_append, advance_append hnil]

theorem halts_read? {t : Token} (h : read? v cs = some (t, rest)) :
    Halts v (read? v) cs t rest := by
  cases cs with
  | nil => cases h
  | cons c cs =>
    by_cases hignored : (v && (c == '#' || Unicode.isBlank c)) = true
    · exact halts_read?_of_ignored hignored h
    · -- Which token it is depends on the first character alone.
      have hread : ∀ es, read? v (c :: es) = read? v (c :: es) := fun es => rfl
      conv at hread =>
        intro es
        rhs
        unfold read?
        dsimp only
        rw [if_neg hignored]
      rw [hread] at h
      split at h
      case h_6 => exact (halts_group? h).cons hread
      case h_12 => exact (halts_bounds? h).cons hread
      all_goals
        refine .inl fun tail htail => ?_
        rw [List.cons_append, hread]
      case h_1 =>
        obtain ⟨⟨a, r⟩, ha, h⟩ := Option.bind_eq_some_iff.mp h
        obtain ⟨rfl, rfl⟩ := Prod.mk.inj (Option.some.inj h)
        obtain ⟨d, ds, rfl, hd⟩ := htail.head
        simp only [Atom.escaped?_append ha fun heq => hd (heq ▸ List.mem_cons_self)]
        rfl
      case h_5 =>
        obtain ⟨⟨b, r⟩, hb, h⟩ := Option.bind_eq_some_iff.mp h
        obtain ⟨rfl, rfl⟩ := Prod.mk.inj (Option.some.inj h)
        simp only [Bracket.read?_append hb htail]
        rfl
      case h_9 | h_10 | h_11 =>
        have hmarked := Option.some.inj h
        exact congrArg some ((marked_append htail _ _ cs).trans (by rw [hmarked]))
      case h_13 =>
        obtain ⟨rfl, rfl⟩ := Prod.mk.inj (Option.some.inj h)
        split
        all_goals first
          | rfl
          | contradiction
      all_goals
        obtain ⟨rfl, rfl⟩ := Prod.mk.inj (Option.some.inj h)
        rfl

/-! ### Open groups -/

/-- The number of open groups after a token, given the number before it. -/
def depth? (d : Nat) : Token → Option Nat
  | openGroup _ => some (d + 1)
  | closeGroup => if d = 0 then none else some (d - 1)
  | _ => some d

/-- A token that closes only groups that have been opened does not see the groups around. -/
theorem scope_append {t : Token} {inner : List Bool} {d : Nat}
    (h : t.depth? inner.length = some d) (v : Bool) (base : List Bool) :
    (t.scope v inner).2.length = d ∧
      t.scope v (inner ++ base) = ((t.scope v inner).1, (t.scope v inner).2 ++ base) := by
  cases t with
  | openGroup g =>
    obtain rfl := Option.some.inj h
    cases g <;> exact ⟨rfl, rfl⟩
  | closeGroup =>
    cases inner with
    | nil => cases h
    | cons w inner =>
      obtain rfl := Option.some.inj h
      exact ⟨rfl, rfl⟩
  | _ =>
    obtain rfl := Option.some.inj h
    exact ⟨rfl, rfl⟩

/-- Whether a token means the same everywhere: it sets no flags, and it does not look at what stands
around it. -/
def isPlain : Token → Bool
  | setFlags _ => false
  | openGroup (.plain edits) => edits.isEmpty
  | atom (.anchor _) => false
  | _ => true

/-- A plain token leaves the verbose mode off. -/
theorem scope_of_isPlain {t : Token} (ht : t.isPlain = true) {o : List Bool}
    (ho : ∀ w ∈ o, w = false) :
    (t.scope false o).1 = false ∧ ∀ w ∈ (t.scope false o).2, w = false := by
  cases t with
  | openGroup g =>
    refine ⟨?_, ?_⟩
    · rcases g with name | edits
      · rfl
      · obtain rfl := List.isEmpty_iff.mp ht
        rfl
    · cases g <;> exact List.forall_mem_cons.mpr ⟨rfl, ho⟩
  | closeGroup =>
    cases o with
    | nil => exact ⟨rfl, nofun⟩
    | cons w o => exact List.forall_mem_cons.mp ho
  | setFlags edits => cases ht
  | _ => exact ⟨rfl, ho⟩

end Token

theorem lexemesFrom?_of_read? {o : List Bool} {t : Token} (h : Token.read? v cs = some (t, rest))
    (hlt : rest.length < cs.length) : lexemesFrom? v o cs =
      (lexemesFrom? (t.scope v o).1 (t.scope v o).2 rest).map
        (⟨t, cs.take (cs.length - rest.length)⟩ :: ·) := by
  have hne : cs.isEmpty = false := by
    cases cs with
    | nil => cases hlt
    | cons c cs => rfl
  rw [lexemesFrom?, hne, if_neg Bool.false_ne_true, h]
  dsimp only
  rw [if_pos hlt]
  cases lexemesFrom? (t.scope v o).1 (t.scope v o).2 rest <;> rfl

/-- A token that closes only groups that have been opened is read in the same way inside of other
groups. -/
theorem lexemesFrom?_append_of_read? {inner : List Bool} {t : Token} {d : Nat}
    (hd : t.depth? inner.length = some d) (h : Token.read? v cs = some (t, rest))
    (hlt : rest.length < cs.length) (base : List Bool) : lexemesFrom? v (inner ++ base) cs =
      (lexemesFrom? (t.scope v inner).1 ((t.scope v inner).2 ++ base) rest).map
        (⟨t, cs.take (cs.length - rest.length)⟩ :: ·) := by
  rw [lexemesFrom?_of_read? h hlt, (Token.scope_append hd v base).2]

theorem take_length_append_sub (cs rest ds : List Char) :
    (cs ++ ds).take ((cs ++ ds).length - (rest ++ ds).length) =
      cs.take (cs.length - rest.length) := by
  rw [List.length_append, List.length_append, Nat.add_sub_add_right,
    List.take_append_of_le_length (Nat.sub_le _ _)]

/-- The tokens of a text are read in front of a parenthesis, and then the parenthesis, unless the
text ends in a comment: then the tokens are all that is read up to the end of the line. -/
theorem lexemesFrom?_enclosed {inner : List Bool} {ls : List Lexeme}
    (h : lexemesFrom? v inner cs = some ls)
    (hdepth : (ls.map (·.token)).foldlM Token.depth? inner.length = some 0) :
    (∃ v', ∀ base ds, lexemesFrom? v (inner ++ base) (cs ++ ')' :: ds) =
      (lexemesFrom? v' base (')' :: ds)).map (ls ++ ·)) ∨
    ∀ base ds, '\n' ∉ ds → ∃ ls', lexemesFrom? v (inner ++ base) (cs ++ ')' :: ds) = some ls' ∧
      ls'.map (·.token) = ls.map (·.token) := by
  fun_induction lexemesFrom? v inner cs generalizing ls with
  | case1 v inner cs hempty =>
    obtain rfl := List.isEmpty_iff.mp hempty
    obtain rfl := Option.some.inj h
    obtain rfl : inner = [] := List.length_eq_zero_iff.mp (Option.some.inj hdepth)
    exact .inl ⟨v, fun base ds => by simp⟩
  | case2 => cases h
  | case3 v inner cs hempty t rest hread hlt v' outer' hscope ih =>
    simp only [Option.bind_eq_bind, Option.bind_eq_some_iff] at h
    obtain ⟨ls', hls', h⟩ := h
    obtain rfl := Option.some.inj h
    rw [List.map_cons, List.foldlM_cons] at hdepth
    obtain ⟨d, hd, hdepth⟩ := Option.bind_eq_some_iff.mp hdepth
    have houter := (Token.scope_append hd v []).1
    rw [hscope] at houter
    have hshorter : ∀ ds : List Char, (rest ++ ')' :: ds).length < (cs ++ ')' :: ds).length := by
      intro ds
      rw [List.length_append, List.length_append]
      exact Nat.add_lt_add_right hlt _
    rcases Token.halts_read? hread with hstops | ⟨rfl, -, hcomment⟩
    · refine (ih hls' (houter ▸ hdepth)).imp ?_ ?_
      · rintro ⟨v'', h''⟩
        refine ⟨v'', fun base ds => ?_⟩
        rw [lexemesFrom?_append_of_read? hd (hstops _ (stops_paren v ds)) (hshorter ds), hscope,
          take_length_append_sub, h'' base ds, Option.map_map]
        rfl
      · intro h'' base ds hds
        obtain ⟨ls'', hls'', htokens⟩ := h'' base ds hds
        rw [lexemesFrom?_append_of_read? hd (hstops _ (stops_paren v ds)) (hshorter ds), hscope,
          take_length_append_sub, hls'']
        exact ⟨_, rfl, congrArg (t :: ·) htokens⟩
    -- The comment is part of the last token.
    · refine .inr fun base ds hds => ?_
      have hnil : ∀ w o, lexemesFrom? w o [] = some [] := fun w o => by
        rw [lexemesFrom?]
        rfl
      rw [hnil] at hls'
      obtain rfl := Option.some.inj hls'
      have hlt' := Nat.lt_of_le_of_lt (Nat.zero_le _) (hshorter ds)
      have hparen : '\n' ∉ ')' :: ds := by simpa using hds
      rw [lexemesFrom?_append_of_read? hd (hcomment _ hparen) hlt', hscope, hnil]
      exact ⟨_, rfl, rfl⟩
  | case4 => cases h

/-- Without flags there are no comments, so the tokens of a text are read in front of any text that
none of them goes on with. -/
theorem lexemesFrom?_append {inner : List Bool} {ls : List Lexeme} {tail : List Char}
    (hinner : ∀ w ∈ inner, w = false) (hls : ∀ l ∈ ls, l.token.isPlain = true)
    (h : lexemesFrom? false inner cs = some ls)
    (hdepth : (ls.map (·.token)).foldlM Token.depth? inner.length = some 0)
    (htail : Stops false tail) (base : List Bool) :
    lexemesFrom? false (inner ++ base) (cs ++ tail) =
      (lexemesFrom? false base tail).map (ls ++ ·) := by
  generalize hv : false = v at h
  fun_induction lexemesFrom? v inner cs generalizing ls with
  | case1 v inner cs hempty =>
    obtain rfl := List.isEmpty_iff.mp hempty
    obtain rfl := Option.some.inj h
    obtain rfl : inner = [] := List.length_eq_zero_iff.mp (Option.some.inj hdepth)
    simp
  | case2 => cases h
  | case3 v inner cs hempty t rest hread hlt v' outer' hscope ih =>
    subst hv
    simp only [Option.bind_eq_bind, Option.bind_eq_some_iff] at h
    obtain ⟨ls', hls', h⟩ := h
    obtain rfl := Option.some.inj h
    obtain ⟨ht, hls⟩ := List.forall_mem_cons.mp hls
    rw [List.map_cons, List.foldlM_cons] at hdepth
    obtain ⟨d, hd, hdepth⟩ := Option.bind_eq_some_iff.mp hdepth
    have houter := (Token.scope_append hd false []).1
    have hquiet := Token.scope_of_isPlain ht hinner
    rw [hscope] at houter hquiet
    obtain ⟨hv', houter'⟩ := hquiet
    have hshorter : (rest ++ tail).length < (cs ++ tail).length := by
      rw [List.length_append, List.length_append]
      exact Nat.add_lt_add_right hlt _
    -- A token that only a comment can end is read in verbose mode only.
    rcases Token.halts_read? hread with hstops | ⟨-, hverbose, -⟩
    · rw [lexemesFrom?_append_of_read? hd (hstops tail htail) hshorter, hscope,
        take_length_append_sub]
      dsimp only at hv' ⊢
      subst hv'
      rw [ih houter' hls (houter ▸ hdepth) rfl hls', Option.map_map]
      rfl
    · cases hverbose
  | case4 => cases h

end HttpRouting.Regex
