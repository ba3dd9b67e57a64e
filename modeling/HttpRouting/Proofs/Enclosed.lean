import HttpRouting.Proofs.GroupBounds
import HttpRouting.Proofs.TokenEnds

/-!
# Patterns in parentheses

A pattern that is well formed by itself may be put in parentheses to make a group of it. If it does
not capture and does not end in a comment, then the group is what it should be: one part, around the
expression of the pattern, wherever it stands. The flags that are set inside hold to the end of the
group, and no group inside counts. If the pattern ends in a comment, the group is never closed.

## Main definitions

* `Regex.Builder.within` — what has been read, in the groups of another builder
* `Compiles` — a pattern with its lexemes and its expression
* `Encloses`, `Trails` — parentheses around the pattern are seen, or the last one is hidden

## Main results

* `Regex.Builder.step?_cases` — what a token does to the groups
* `Regex.Builder.step?_within` — a token that captures nothing is read in a group as it is alone
* `Compiles.encloses_or_trails` — there is no third case
* `Compiles.foldlM_groupTokens` — the part that a pattern in parentheses is
* `Compiles.exists_of_groupTokens` — the groups that it counts
* `Compiles.groupCount_le`, `Compiles.groupCount_eq` — the groups of the expression
* `Compiles.length_outer_of_trails` — the group that a comment leaves open
-/

namespace HttpRouting

namespace Regex

/-! ### Builders in a group -/

namespace Builder

variable {b b' : Builder} {t : Token} {ts : List Token}

/-- What a token does to the groups: it starts one, ends one, or leaves them as they are. -/
theorem step?_cases (h : b.step? t = some b') :
    (∃ g capture, t = .openGroup g ∧
      b'.outer = ⟨capture, b.flags, b.branches, b.parts⟩ :: b.outer ∧
      b'.groups = b.groups + if t.opensGroup then 1 else 0) ∨
    (t = .closeGroup ∧ (∃ g, b.outer = g :: b'.outer) ∧ b'.groups = b.groups) ∨
    ((∀ d, t.depth? d = some d) ∧ t.opensGroup = false ∧ b'.outer = b.outer ∧
      b'.groups = b.groups) := by
  cases steps_of_step? h with
  | plain edits => exact .inl ⟨_, _, rfl, rfl, rfl⟩
  | capturing _ => exact .inl ⟨_, _, rfl, rfl, rfl⟩
  | close hg => exact .inr (.inl ⟨rfl, ⟨_, hg⟩, rfl⟩)
  | _ => exact .inr (.inr ⟨fun d => rfl, rfl, rfl, rfl⟩)

/-- A builder has as many unfinished groups as the tokens have opened. -/
theorem depth?_of_step? (h : b.step? t = some b') :
    t.depth? b.outer.length = some b'.outer.length := by
  obtain ⟨g, capture, rfl, houter, -⟩ | ⟨rfl, ⟨g, houter⟩, -⟩ | ⟨hdepth, -, houter, -⟩ :=
    step?_cases h
  · rw [houter]
    rfl
  · rw [houter]
    rfl
  · rw [houter, hdepth]

theorem depth?_of_foldlM (h : ts.foldlM step? b = some b') :
    ts.foldlM Token.depth? b.outer.length = some b'.outer.length := by
  induction ts generalizing b with
  | nil =>
    obtain rfl := Option.some.inj h
    rfl
  | cons t ts ih =>
    rw [List.foldlM_cons] at h ⊢
    obtain ⟨b₁, hb₁, h⟩ := Option.bind_eq_some_iff.mp h
    exact Option.bind_eq_some_iff.mpr ⟨_, depth?_of_step? hb₁, ih h⟩

/-- A builder whose tokens close only groups that they have opened does not touch the groups
around, and it counts the groups that capture. -/
theorem outer_of_foldlM {inner base : List OpenGroup} {d : Nat} (hb : b.outer = inner ++ base)
    (hdepth : ts.foldlM Token.depth? inner.length = some d) (h : ts.foldlM step? b = some b') :
    (∃ inner', b'.outer = inner' ++ base ∧ inner'.length = d) ∧
      b'.groups = b.groups + ts.countP (·.opensGroup) := by
  induction ts generalizing b inner with
  | nil =>
    obtain rfl := Option.some.inj h
    exact ⟨⟨inner, hb, Option.some.inj hdepth⟩, rfl⟩
  | cons t ts ih =>
    rw [List.foldlM_cons] at h hdepth
    obtain ⟨b₁, hb₁, h⟩ := Option.bind_eq_some_iff.mp h
    obtain ⟨d₁, hd₁, hdepth⟩ := Option.bind_eq_some_iff.mp hdepth
    obtain ⟨inner₁, houter₁, rfl, hgroups₁⟩ : ∃ inner₁, b₁.outer = inner₁ ++ base ∧
        inner₁.length = d₁ ∧ b₁.groups = b.groups + if t.opensGroup then 1 else 0 := by
      obtain ⟨g, capture, rfl, houter, hgroups⟩ | ⟨rfl, ⟨g, houter⟩, hgroups⟩ |
          ⟨hdepth, hplain, houter, hgroups⟩ := step?_cases hb₁
      · exact ⟨_ :: inner, by rw [houter, hb]; rfl, Option.some.inj hd₁, hgroups⟩
      · cases inner with
        | nil => cases hd₁
        | cons g' inner =>
          rw [hb, List.cons_append] at houter
          exact ⟨inner, (List.cons.inj houter).2.symm, Option.some.inj hd₁, hgroups⟩
      · rw [hdepth] at hd₁
        exact ⟨inner, houter.trans hb, Option.some.inj hd₁, by rw [hgroups, hplain]; rfl⟩
    obtain ⟨hinner', hgroups⟩ := ih houter₁ hdepth h
    refine ⟨hinner', ?_⟩
    rw [hgroups, hgroups₁, List.countP_cons, Nat.add_assoc, Nat.add_comm (ite _ _ _)]

/-- What one builder has read, in the groups of another one. -/
def within (b c : Builder) : Builder :=
  { b with outer := b.outer ++ c.outer, groups := c.groups, names := c.names }

/-- A token that captures nothing is read in a group as it is read alone. -/
theorem step?_within (ht : t.opensGroup = false) (h : b.step? t = some b') (c : Builder) :
    (b.within c).step? t = some (b'.within c) := by
  refine Steps.step? ?_
  cases steps_of_step? h with
  | atom hr => exact .atom hr
  | bracket hs => exact .bracket hs
  | plain edits => exact .plain edits
  | capturing _ => cases ht
  | close hg => exact .close (congrArg (· ++ c.outer) hg)
  | setFlags edits => exact .setFlags edits
  | bar => exact .bar
  | times hparts hr => exact .times hparts hr
  | ignored => exact .ignored

theorem foldlM_within (hts : ∀ t ∈ ts, t.opensGroup = false) (h : ts.foldlM step? b = some b')
    (c : Builder) : ts.foldlM step? (b.within c) = some (b'.within c) := by
  induction ts generalizing b with
  | nil =>
    obtain rfl := Option.some.inj h
    rfl
  | cons t ts ih =>
    obtain ⟨ht, hts⟩ := List.forall_mem_cons.mp hts
    rw [List.foldlM_cons] at h ⊢
    obtain ⟨b₁, hb₁, h⟩ := Option.bind_eq_some_iff.mp h
    exact Option.bind_eq_some_iff.mpr ⟨_, step?_within ht hb₁ c, ih hts h⟩

end Builder

end Regex

open Regex Shape

/-- The parenthesis that ends a group. -/
def closeLexeme : Lexeme := ⟨.closeGroup, [')']⟩

/-- The tokens of a group around some tokens. -/
def groupTokens (ts : List Regex.Token) : List Regex.Token :=
  openLexeme.token :: ts ++ [closeLexeme.token]

/-- A pattern is well formed: it has some lexemes, and an expression is built from them. -/
structure Compiles (source : String) (ls : List Lexeme) (r : Regex) : Prop where
  /-- The lexemes are those of the pattern. -/
  lexes : lexemes? source.toList = some ls
  /-- No group is left open when the expression is finished. -/
  builds : ∃ b, (ls.map (·.token)).foldlM Builder.step? {} = some b ∧ b.outer = [] ∧
    b.alternatives = r

/-- In parentheses the lexemes are read as before, and then the parenthesis. -/
def Encloses (cs : List Char) (ls : List Lexeme) : Prop :=
  ∀ o tail, Lexes o ('(' :: (cs ++ ')' :: tail)) (openLexeme :: ls ++ [closeLexeme]) o tail

/-- A comment at the end hides the parenthesis and the rest of the line. -/
def Trails (cs : List Char) (ls : List Lexeme) : Prop :=
  ∀ o ds, '\n' ∉ ds → ∃ ls', lexemesFrom? false o ('(' :: (cs ++ ')' :: ds)) = some ls' ∧
    ls'.map (·.token) = openLexeme.token :: ls.map (·.token)

theorem exists_compiles {source : String} {r : Regex} (h : parse? source = some r) :
    ∃ ls, Compiles source ls r := by
  obtain ⟨ls, hls, h⟩ := Option.bind_eq_some_iff.mp h
  obtain ⟨b, hb, h⟩ := Option.bind_eq_some_iff.mp h
  unfold Builder.finish? at h
  split at h
  · next hempty =>
    exact ⟨ls, hls, b, hb, List.isEmpty_iff.mp hempty, Option.some.inj h⟩
  · cases h

namespace Compiles

variable {source : String} {ls : List Lexeme} {r : Regex}

theorem depth (h : Compiles source ls r) :
    (ls.map (·.token)).foldlM Token.depth? 0 = some 0 := by
  obtain ⟨b, hb, houter, -⟩ := h.builds
  have hdepth := Builder.depth?_of_foldlM hb
  rwa [houter] at hdepth

/-- Nothing stands before a question mark at the start. -/
theorem head?_ne (h : Compiles source ls r) : source.toList.head? ≠ some '?' := by
  intro hhead
  obtain ⟨cs, hcs⟩ := List.head?_eq_some_iff.mp hhead
  obtain ⟨b, hb, -⟩ := h.builds
  obtain ⟨marked, rest, hmarked, hlt⟩ : ∃ marked rest,
      Token.marked 0 (some 1) cs = (.times 0 (some 1) marked, rest) ∧
        rest.length < ('?' :: cs).length := by
    unfold Token.marked
    split
    · exact ⟨true, _, rfl, Nat.lt_succ_of_lt (Nat.lt_succ_self _)⟩
    · exact ⟨false, _, rfl, Nat.lt_succ_self _⟩
  have hread : Token.read? false ('?' :: cs) = some (.times 0 (some 1) marked, rest) :=
    congrArg some hmarked
  have hlexes := h.lexes
  rw [hcs, lexemes?, lexemesFrom?_of_read? hread hlt] at hlexes
  obtain ⟨ls', -, rfl⟩ := Option.map_eq_some_iff.mp hlexes
  cases hb

theorem encloses_or_trails (h : Compiles source ls r) :
    Encloses source.toList ls ∨ Trails source.toList ls := by
  have hhead : ∀ tail : List Char, (source.toList ++ ')' :: tail).head? ≠ some '?' := by
    intro tail
    have hne := h.head?_ne
    cases hsource : source.toList with
    | nil => exact (by decide : some ')' ≠ some '?')
    | cons c cs => rwa [hsource] at hne
  refine (lexemesFrom?_enclosed h.lexes h.depth).imp ?_ ?_
  · rintro ⟨v, hv⟩ o tail
    have hread : Token.read? v (')' :: tail) = some (.closeGroup, tail) := by cases v <;> rfl
    have hclose : lexemesFrom? v (false :: o) (')' :: tail) =
        (lexemesFrom? false o tail).map (closeLexeme :: ·) := by
      rw [lexemesFrom?_of_read? hread (Nat.lt_succ_self _)]
      simp [Token.scope, closeLexeme]
    have hinner := hv (false :: o) tail
    rw [hclose, Option.map_map] at hinner
    have hopen := lexes_open (hhead tail) o
    unfold Lexes at hopen ⊢
    rw [hopen]
    refine (congrArg _ hinner).trans ?_
    rw [Option.map_map]
    congr 1
    funext ls'
    simp
  · intro hcomment o ds hds
    obtain ⟨ls', hls', htokens⟩ := hcomment (false :: o) ds hds
    have hopen := lexes_open (hhead ds) o
    unfold Lexes at hopen
    rw [hopen]
    exact ⟨_, congrArg _ hls', congrArg (openLexeme.token :: ·) htokens⟩

/-- A group around tokens that open and close their own groups is one part, whatever stands inside.
The groups that capture are counted. -/
theorem exists_of_groupTokens (h : Compiles source ls r) {b b' : Builder}
    (hb : (groupTokens (ls.map (·.token))).foldlM Builder.step? b = some b') :
    ∃ x, b'.flags = b.flags ∧ b'.branches = b.branches ∧
      b'.parts = some (.group (b.groups + 1) x) :: b.parts ∧ b'.outer = b.outer ∧
      b'.groups = b.groups + 1 + (ls.map (·.token)).countP (·.opensGroup) := by
  have hopen : b.step? openLexeme.token = some (opened b) := rfl
  rw [groupTokens, List.cons_append, List.foldlM_cons, hopen, Option.bind_eq_bind,
    Option.bind_some, List.foldlM_append] at hb
  obtain ⟨b₁, hb₁, hb⟩ := Option.bind_eq_some_iff.mp hb
  rw [List.foldlM_cons] at hb
  obtain ⟨b₂, hb₂, hb⟩ := Option.bind_eq_some_iff.mp hb
  obtain rfl := Option.some.inj hb
  have hempty : (opened b).outer = [] ++ (opened b).outer := rfl
  obtain ⟨⟨inner, houter, hinner⟩, hgroups⟩ := Builder.outer_of_foldlM hempty h.depth hb₁
  obtain rfl := List.length_eq_zero_iff.mp hinner
  have hclose : b₁.step? closeLexeme.token = b₁.closeGroup? := rfl
  have houter' : b₁.outer = ⟨some (b.groups + 1), b.flags, b.branches, b.parts⟩ :: b.outer := houter
  rw [hclose, Builder.closeGroup?, houter'] at hb₂
  obtain rfl := Option.some.inj hb₂
  exact ⟨_, rfl, rfl, rfl, rfl, hgroups⟩

/-- If no group inside captures, the part is the expression of the pattern. -/
theorem foldlM_groupTokens (h : Compiles source ls r)
    (hplain : ∀ l ∈ ls, l.token.opensGroup = false) (b : Builder) (hflags : b.flags = {}) :
    (groupTokens (ls.map (·.token))).foldlM Builder.step? b =
      some (add b [.group (b.groups + 1) r] 1) := by
  obtain ⟨b₁, hb₁, houter, rfl⟩ := h.builds
  have hopen : b.step? openLexeme.token = some (({} : Builder).within (opened b)) := by
    have hwithin : opened b = ({} : Builder).within (opened b) := by
      simp [opened, Builder.within, Builder.openGroup, Flags.setAll, hflags]
    rw [← hwithin]
    rfl
  have hinner := Builder.foldlM_within (List.forall_mem_map.mpr hplain) hb₁ (opened b)
  have hclose : (b₁.within (opened b)).step? closeLexeme.token =
      some (add b [.group (b.groups + 1) b₁.alternatives] 1) := by
    have hstep : (b₁.within (opened b)).step? closeLexeme.token =
        (b₁.within (opened b)).closeGroup? := rfl
    have houter' : (b₁.within (opened b)).outer =
        ⟨some (b.groups + 1), b.flags, b.branches, b.parts⟩ :: b.outer := by
      change b₁.outer ++ (opened b).outer = _
      rw [houter]
      rfl
    rw [hstep, Builder.closeGroup?, houter']
    rfl
  rw [groupTokens, List.cons_append, List.foldlM_cons, hopen, Option.bind_eq_bind,
    Option.bind_some, List.foldlM_append, hinner]
  exact congrArg (Option.bind · pure) hclose

theorem tokens_opensGroup (ls : List Lexeme) :
    (ls.map (·.token)).countP (·.opensGroup) = ls.countP (·.token.opensGroup) :=
  List.countP_map

/-- An expression has no groups but those that its tokens open. -/
theorem groupCount_le (h : Compiles source ls r) :
    r.groupCount ≤ ls.countP (·.token.opensGroup) := by
  obtain ⟨b, hb, -, rfl⟩ := h.builds
  have hempty : ({} : Builder).AtMost (ls.countP (·.token.opensGroup)) := ⟨nofun, nofun, nofun⟩
  have hatMost := hempty.foldlM hb (by rw [tokens_opensGroup, Nat.zero_add])
  exact Builder.groupCount_alternatives_le_iff.mpr ⟨hatMost.branches, hatMost.parts⟩

/-- If nothing is repeated zero times, an expression has all the groups that its tokens open. -/
theorem groupCount_eq (h : Compiles source ls r) (hls : ∀ l ∈ ls, l.token.erases = false) :
    r.groupCount = ls.countP (·.token.opensGroup) := by
  refine Nat.le_antisymm h.groupCount_le ?_
  obtain ⟨b, hb, houter, rfl⟩ := h.builds
  obtain ⟨hbranches, hparts⟩ := Builder.groupCount_alternatives_le_iff.mp (Nat.le_refl _)
  have hatMost : b.AtMost b.alternatives.groupCount := ⟨hbranches, hparts, by rw [houter]; nofun⟩
  have hgroups := (hatMost.of_foldlM hb (List.forall_mem_map.mpr hls)).2 (Nat.zero_le _)
  rwa [groups_foldlM_step? hb, tokens_opensGroup, Nat.zero_add] at hgroups

/-- Without groups that capture, the expression has none. -/
theorem groupCount_eq_zero (h : Compiles source ls r)
    (hplain : ∀ l ∈ ls, l.token.opensGroup = false) : r.groupCount = 0 := by
  refine Nat.eq_zero_of_le_zero (Nat.le_trans h.groupCount_le (Nat.le_of_eq ?_))
  exact List.countP_eq_zero.mpr fun l hl => by simp [hplain l hl]

/-- A pattern whose end is hidden leaves the group open. -/
theorem length_outer_of_trails (h : Compiles source ls r) {b b' : Builder}
    (hb : (openLexeme.token :: ls.map (·.token)).foldlM Builder.step? b = some b') :
    b'.outer.length = b.outer.length + 1 := by
  have hopen : b.step? openLexeme.token = some (opened b) := rfl
  rw [List.foldlM_cons, hopen] at hb
  have hempty : (opened b).outer = [] ++ (opened b).outer := rfl
  obtain ⟨⟨inner, houter, hinner⟩, -⟩ := Builder.outer_of_foldlM hempty h.depth hb
  obtain rfl := List.length_eq_zero_iff.mp hinner
  rw [houter]
  rfl

theorem finish?_of_trails (h : Compiles source ls r) {b b' : Builder}
    (hb : (openLexeme.token :: ls.map (·.token)).foldlM Builder.step? b = some b') :
    b'.finish? = none := by
  have hlength := h.length_outer_of_trails hb
  unfold Builder.finish?
  split
  · next hempty =>
    rw [List.isEmpty_iff.mp hempty] at hlength
    cases hlength
  · rfl

theorem toList_parens (source : String) :
    ("(" ++ source ++ ")").toList = '(' :: (source.toList ++ [')']) := by simp

/-- In parentheses the pattern is one group. -/
theorem parse?_parens (h : Compiles source ls r) (hencloses : Encloses source.toList ls)
    (hplain : ∀ l ∈ ls, l.token.opensGroup = false) :
    parse? ("(" ++ source ++ ")") = some (.group 1 r) := by
  have hend : lexemesFrom? false [] [] = some [] := by rw [lexemesFrom?]; rfl
  have hlexes := hencloses [] []
  unfold Lexes at hlexes
  have hfold := h.foldlM_groupTokens hplain {} rfl
  have htokens : (openLexeme :: ls ++ [closeLexeme]).map (·.token) =
      groupTokens (ls.map (·.token)) := by simp [groupTokens]
  rw [parse?, toList_parens, lexemes?, hlexes, hend, Option.map_some, List.append_nil,
    Option.bind_eq_bind, Option.bind_some, htokens, ofTokens?, hfold]
  rfl

/-- If the last parenthesis is hidden, the pattern in parentheses is malformed. -/
theorem parse?_parens_of_trails (h : Compiles source ls r) (htrails : Trails source.toList ls) :
    parse? ("(" ++ source ++ ")") = none := by
  obtain ⟨ls', hls', htokens⟩ := htrails [] [] List.not_mem_nil
  rw [parse?, toList_parens, lexemes?, hls', Option.bind_eq_bind, Option.bind_some, htokens,
    ofTokens?]
  refine Option.bind_eq_none_iff.mpr fun b hb => ?_
  exact h.finish?_of_trails hb

end Compiles

end HttpRouting
