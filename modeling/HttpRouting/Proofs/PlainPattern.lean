import HttpRouting.Proofs.Enclosed
import HttpRouting.Proofs.FilledPath

/-!
# Patterns between other texts

A pattern keeps its meaning between other texts if it is one alternative, if nothing in it sets
flags, and if nothing in it looks at what stands around. Three things have to be seen. The tokens of
the pattern are read up to its end. What is built from them is the same expression, with the parts
that have been read before in front of it. And the expression matches the same texts, whatever
stands on both sides of them.

## Main definitions

* `Regex.lookFree` — an expression without assertions
* `Regex.Whole` — an expression matches a whole text
* `Regex.Builder.behind` — what has been read, with some parts in front of the outermost group
* `Regex.Undivided` — no bar stands outside of all groups
* `Movable` — a pattern that keeps its meaning between other texts

## Main results

* `Regex.Covers.move` — what an expression without assertions matches, it matches everywhere
* `Regex.Builder.foldlM_behind` — what is built behind other parts
* `Movable.parse?_joined` — the expression of a pattern in front of more text
-/

namespace HttpRouting

open Regex Shape

/-! ### Expressions without assertions -/

namespace Regex

/-- Whether an expression has no assertions. -/
def lookFree : Regex → Bool
  | empty | chars _ => true
  | look _ => false
  | group _ r | star _ r => r.lookFree
  | cat r s | alt r s => r.lookFree && s.lookFree

/-- Whether some work has no assertions. -/
def Task.lookFree : Task → Bool
  | run r => r.lookFree
  | close _ => true

variable {pre mid post : List Char} {k : List Task} {c c' : Captures} {r s : Regex}
  {rs : List Regex} {greedy : Bool}

/-- What an expression without assertions matches, it matches wherever that stands. -/
theorem Covers.move (h : Covers pre mid post k c c') (hk : ∀ t ∈ k, t.lookFree = true)
    (pre' post' : List Char) (d : Captures) : ∃ d', Covers pre' mid post' k d d' := by
  -- The text before counts for assertions and for the places of groups only, so the captures may
  -- come out differently, and any captures will do.
  induction h generalizing pre' d with
  | done => exact ⟨d, .done _ _ _⟩
  | @chars _ _ _ _ _ _ _ a mem _ ih =>
    obtain ⟨d', h⟩ := ih (List.forall_mem_cons.mp hk).2 (pre' ++ [a]) d
    exact ⟨d', .chars mem h⟩
  | look => cases (List.forall_mem_cons.mp hk).1
  | @close _ _ _ _ _ _ i _ ih =>
    obtain ⟨d', h⟩ := ih (List.forall_mem_cons.mp hk).2 pre' (d.closeAt i pre'.length)
    exact ⟨d', .close h⟩
  | empty _ ih =>
    obtain ⟨d', h⟩ := ih (List.forall_mem_cons.mp hk).2 pre' d
    exact ⟨d', .empty h⟩
  | @group _ _ _ k _ _ i r _ ih =>
    obtain ⟨hr, hk⟩ := List.forall_mem_cons.mp hk
    have hinner : ∀ t ∈ .run r :: .close i :: k, t.lookFree = true :=
      List.forall_mem_cons.mpr ⟨hr, List.forall_mem_cons.mpr ⟨rfl, hk⟩⟩
    obtain ⟨d', h⟩ := ih hinner pre' (d.openAt i pre'.length)
    exact ⟨d', .group h⟩
  | @cat _ _ _ k _ _ r s _ ih =>
    obtain ⟨hparts, hk⟩ := List.forall_mem_cons.mp hk
    obtain ⟨hr, hs⟩ := Bool.and_eq_true_iff.mp hparts
    have hinner : ∀ t ∈ .run r :: .run s :: k, t.lookFree = true :=
      List.forall_mem_cons.mpr ⟨hr, List.forall_mem_cons.mpr ⟨hs, hk⟩⟩
    obtain ⟨d', h⟩ := ih hinner pre' d
    exact ⟨d', .cat h⟩
  | left _ ih =>
    obtain ⟨hparts, hk⟩ := List.forall_mem_cons.mp hk
    obtain ⟨d', h⟩ :=
      ih (List.forall_mem_cons.mpr ⟨(Bool.and_eq_true_iff.mp hparts).1, hk⟩) pre' d
    exact ⟨d', .left h⟩
  | right _ ih =>
    obtain ⟨hparts, hk⟩ := List.forall_mem_cons.mp hk
    obtain ⟨d', h⟩ :=
      ih (List.forall_mem_cons.mpr ⟨(Bool.and_eq_true_iff.mp hparts).2, hk⟩) pre' d
    exact ⟨d', .right h⟩
  | stop _ ih =>
    obtain ⟨d', h⟩ := ih (List.forall_mem_cons.mp hk).2 pre' d
    exact ⟨d', .stop h⟩
  | more _ ih =>
    have hr := (List.forall_mem_cons.mp hk).1
    obtain ⟨d', h⟩ := ih (List.forall_mem_cons.mpr ⟨hr, hk⟩) pre' d
    exact ⟨d', .more h⟩

theorem Spans.move (h : Spans r pre mid post c c') (hr : r.lookFree = true)
    (pre' post' : List Char) (d : Captures) : ∃ d', Spans r pre' mid post' d d' :=
  Covers.move h (List.forall_mem_singleton.mpr hr) pre' post' d

/-- An expression matches a whole text: it is found from the start of the text to its end. -/
def Whole (r : Regex) (u : String) : Prop :=
  ((concat [.look .textStart, r, .look .textEnd]).captures? u).isSome = true

instance (r : Regex) (u : String) : Decidable (r.Whole u) := inferInstanceAs (Decidable (_ = _))

/-- Parts between anchors are found in a text that they span. -/
theorem isSome_captures?_anchored {text : String} :
    ((concat (.look .textStart :: (rs ++ [.look .textEnd]))).captures? text).isSome = true ↔
      ∃ c', Spans (concat rs) [] text.toList [] (({} : Captures).openAt 0 0) c' := by
  rw [← String.ofList_toList (s := text), isSome_captures?, String.toList_ofList]
  constructor
  · rintro ⟨c, hc⟩
    obtain ⟨c', hspans, -⟩ := found_anchored.mp hc
    exact ⟨c', hspans⟩
  · rintro ⟨c', hspans⟩
    exact ⟨_, found_anchored.mpr ⟨c', hspans, rfl⟩⟩

theorem spans_concat_singleton :
    Spans (concat [r]) pre mid post c c' ↔ Spans r pre mid post c c' := by
  rw [spans_concat_cons]
  constructor
  · rintro ⟨m₁, m₂, c₁, rfl, hr, hnil⟩
    obtain ⟨rfl, rfl⟩ := spans_concat_nil.mp hnil
    simpa using hr
  · intro hr
    exact ⟨mid, [], c', by simp, by simpa using hr, spans_concat_nil.mpr ⟨rfl, rfl⟩⟩

theorem whole_iff {u : String} :
    r.Whole u ↔ ∃ c', Spans r [] u.toList [] (({} : Captures).openAt 0 0) c' := by
  simp only [← spans_concat_singleton (r := r)]
  exact @isSome_captures?_anchored [r] u

theorem lookFree_append (r s : Regex) : (append r s).lookFree = (r.lookFree && s.lookFree) := by
  unfold append
  split
  · exact (Bool.true_and _).symm
  · exact (Bool.and_true _).symm
  · rfl

theorem lookFree_concat : (concat rs).lookFree = true ↔ ∀ r ∈ rs, r.lookFree = true := by
  induction rs with
  | nil => exact ⟨fun _ => nofun, fun _ => rfl⟩
  | cons r rs ih =>
    rw [List.forall_mem_cons, ← ih, ← Bool.and_eq_true_iff, ← lookFree_append]
    rfl

theorem lookFree_choice : (choice rs).lookFree = true ↔ ∀ r ∈ rs, r.lookFree = true := by
  induction rs with
  | nil => exact ⟨fun _ => nofun, fun _ => rfl⟩
  | cons r rs ih =>
    cases rs with
    | nil => simp [choice]
    | cons s rs =>
      rw [List.forall_mem_cons, ← ih, ← Bool.and_eq_true_iff]
      rfl

theorem lookFree_optional (r : Regex) : (optional greedy r).lookFree = r.lookFree := by
  cases greedy
  · exact Bool.true_and _
  · exact Bool.and_true _

theorem lookFree_times (hr : r.lookFree = true) (n : Nat) : (times r n).lookFree = true := by
  induction n with
  | zero => rfl
  | succ n ih => rw [times, lookFree_append, hr, ih, Bool.and_self]

theorem lookFree_upTo (hr : r.lookFree = true) (n : Nat) : (upTo greedy r n).lookFree = true := by
  induction n with
  | zero => rfl
  | succ n ih => rw [upTo, lookFree_optional, lookFree_append, hr, ih, Bool.and_self]

/-- A repetition has no assertions but those of its part. -/
theorem lookFree_repeated (hr : r.lookFree = true) (min : Nat) (max : Option Nat) :
    (repeated greedy min max r).lookFree = true := by
  have hstar : (append r (.star greedy r)).lookFree = true := by
    rw [lookFree_append, lookFree, hr, Bool.and_self]
  have hatLeast : (atLeast greedy r min).lookFree = true := by
    cases min with
    | zero =>
      rw [atLeast, anyNumber]
      split
      · rw [lookFree_optional, hstar]
      · exact hr
    | succ n => rw [atLeast, lookFree_append, hstar, lookFree_times hr, Bool.and_self]
  unfold repeated
  split
  · split_ifs
    · rfl
    · rw [lookFree_optional, hr]
    · exact hr
  · cases max with
    | none => exact hatLeast
    | some m =>
      dsimp only
      rw [lookFree_append, lookFree_times hr, lookFree_upTo hr, Bool.and_self]

theorem Atom.lookFree_toRegex? {f : Flags} {a : Atom} (h : a.toRegex? f = some r)
    (ha : ∀ b, a ≠ .anchor b) : r.lookFree = true := by
  have hchar : ∀ c, (charRegex f c).lookFree = true := by
    intro c
    unfold charRegex
    split <;> rfl
  cases a with
  | char c => exact Option.some.inj h ▸ hchar c
  | byte c =>
    simp only [toRegex?] at h
    split at h
    · exact Option.some.inj h ▸ hchar c
    · cases h
  | dot =>
    simp only [toRegex?, dotRegex?] at h
    repeat' split at h
    all_goals cases h
    all_goals rfl
  | anchor b => exact absurd rfl (ha b)
  | shorthand s n =>
    obtain ⟨set, -, rfl⟩ := Option.map_eq_some_iff.mp h
    rfl
  | property p n =>
    obtain ⟨set, -, rfl⟩ := Option.map_eq_some_iff.mp h
    rfl

/-! ### Builders -/

namespace Builder

variable {b b' : Builder} {t : Token} {ts : List Token}

/-- What has been read has no assertions, and no flag is set. -/
structure IsPlain (b : Builder) : Prop where
  /-- The flags in force. -/
  flags : b.flags = {}
  /-- The finished alternatives. -/
  branches : ∀ r ∈ b.branches, r.lookFree = true
  /-- The current alternative. -/
  parts : ∀ r, some r ∈ b.parts → r.lookFree = true
  /-- The groups around. -/
  outer : ∀ g ∈ b.outer, g.flags = {} ∧ (∀ r ∈ g.branches, r.lookFree = true) ∧
    ∀ r, some r ∈ g.parts → r.lookFree = true

theorem IsPlain.sequence (h : b.IsPlain) : b.sequence.lookFree = true := by
  refine lookFree_concat.mpr fun r hr => h.parts r ?_
  simpa using hr

theorem IsPlain.alternatives (h : b.IsPlain) : b.alternatives.lookFree = true := by
  refine lookFree_choice.mpr fun r hr => ?_
  rcases List.mem_cons.mp (List.mem_reverse.mp hr) with rfl | hr
  · exact h.sequence
  · exact h.branches r hr

/-- A plain token keeps it so. -/
theorem IsPlain.step (h : b.IsPlain) (hb : b.Steps t b') (ht : t.isPlain = true) :
    b'.IsPlain := by
  cases hb with
  | @atom a r hr =>
    have ha : ∀ x, a ≠ .anchor x := by
      rintro x rfl
      cases ht
    have hpart := Atom.lookFree_toRegex? hr ha
    exact ⟨h.flags, h.branches, forall_some_cons_iff.mpr ⟨hpart, h.parts⟩, h.outer⟩
  | bracket _ => exact ⟨h.flags, h.branches, forall_some_cons_iff.mpr ⟨rfl, h.parts⟩, h.outer⟩
  | plain edits =>
    obtain rfl := List.isEmpty_iff.mp ht
    exact ⟨h.flags, nofun, nofun,
      List.forall_mem_cons.mpr ⟨⟨h.flags, h.branches, h.parts⟩, h.outer⟩⟩
  | capturing _ =>
    exact ⟨h.flags, nofun, nofun,
      List.forall_mem_cons.mpr ⟨⟨h.flags, h.branches, h.parts⟩, h.outer⟩⟩
  | @close g outer hg =>
    obtain ⟨⟨hflags, hbranches, hparts⟩, hrest⟩ := List.forall_mem_cons.mp (hg ▸ h.outer)
    have hpart : (g.part b.alternatives).lookFree = true := by
      unfold OpenGroup.part
      cases g.capture <;> exact h.alternatives
    exact ⟨hflags, hbranches, forall_some_cons_iff.mpr ⟨hpart, hparts⟩, hrest⟩
  | setFlags edits => cases ht
  | bar => exact ⟨h.flags, List.forall_mem_cons.mpr ⟨h.sequence, h.branches⟩, nofun, h.outer⟩
  | @times min max marked r r' parts hparts hr' =>
    obtain ⟨hr, hrest⟩ := forall_some_cons_iff.mp (hparts ▸ h.parts)
    have hpart : r'.lookFree = true := by
      rw [eq_repeated_of_repeated? hr']
      exact lookFree_repeated hr min max
    exact ⟨h.flags, h.branches, forall_some_cons_iff.mpr ⟨hpart, hrest⟩, h.outer⟩
  | ignored => exact h

theorem IsPlain.foldlM (h : b.IsPlain) (hb : ts.foldlM step? b = some b')
    (hts : ∀ t ∈ ts, t.isPlain = true) : b'.IsPlain := by
  induction ts generalizing b with
  | nil => exact Option.some.inj hb ▸ h
  | cons t ts ih =>
    obtain ⟨ht, hts⟩ := List.forall_mem_cons.mp hts
    rw [List.foldlM_cons] at hb
    obtain ⟨b₁, hstep, hb⟩ := Option.bind_eq_some_iff.mp hb
    exact ih (h.step (steps_of_step? hstep) ht) hb hts

/-- Some parts in front of those of a group, if there is no group around it. -/
def front (ps : List (Option Regex)) (outer : List OpenGroup) (parts : List (Option Regex)) :
    List (Option Regex) :=
  if outer.isEmpty then parts ++ ps else parts

/-- Unfinished groups, with some parts in front of those of the outermost one. -/
def outerBehind (ps : List (Option Regex)) : List OpenGroup → List OpenGroup
  | [] => []
  | g :: outer => { g with parts := front ps outer g.parts } :: outerBehind ps outer

/-- What has been read, with some parts in front of everything outside of groups. -/
def behind (b : Builder) (ps : List (Option Regex)) : Builder :=
  { b with parts := front ps b.outer b.parts, outer := outerBehind ps b.outer }

/-- The finished alternatives outside of all groups. -/
def trunk (branches : List Regex) : List OpenGroup → List Regex
  | [] => branches
  | g :: outer => trunk g.branches outer

theorem front_cons (ps : List (Option Regex)) (outer : List OpenGroup) (p : Option Regex)
    (parts : List (Option Regex)) : front ps outer (p :: parts) = p :: front ps outer parts := by
  unfold front
  split <;> rfl

theorem front_of_ne {ps : List (Option Regex)} {outer : List OpenGroup} (h : outer ≠ [])
    (parts : List (Option Regex)) : front ps outer parts = parts :=
  if_neg (by simpa using h)

theorem sequence_behind (h : b.outer ≠ []) (ps : List (Option Regex)) :
    (b.behind ps).sequence = b.sequence := by
  rw [sequence, behind, front_of_ne h]
  rfl

/-- A token is read behind other parts as it is read without them, unless it is a bar outside of all
groups. The finished alternatives outside of all groups stay as they are. -/
theorem step?_behind (h : b.step? t = some b') (hbar : t = .bar → b.outer ≠ [])
    (ps : List (Option Regex)) : (b.behind ps).step? t = some (b'.behind ps) ∧
      trunk b'.branches b'.outer = trunk b.branches b.outer := by
  -- Only what a token does to the parts of the open level is at stake: the parts behind are never
  -- its last part, so each step is the same step of the longer builder.
  cases steps_of_step? h with
  | @atom a r hr =>
    refine ⟨Steps.step? ?_, rfl⟩
    have hpush : (b.push r).behind ps = (b.behind ps).push r := by
      simp only [behind, push, front_cons]
    rw [hpush]
    exact .atom hr
  | @bracket k s hs =>
    refine ⟨Steps.step? ?_, rfl⟩
    have hpush : (b.push (.chars s)).behind ps = (b.behind ps).push (.chars s) := by
      simp only [behind, push, front_cons]
    rw [hpush]
    exact .bracket hs
  | plain edits => exact ⟨rfl, rfl⟩
  | capturing hname =>
    refine ⟨Steps.step? ?_, rfl⟩
    exact .capturing (b := b.behind ps) hname
  | @close g outer hg =>
    refine ⟨Steps.step? ?_, by rw [hg]; rfl⟩
    have houter : b.outer ≠ [] := hg ▸ List.cons_ne_nil g outer
    have hgroup : (b.behind ps).outer =
        { g with parts := front ps outer g.parts } :: outerBehind ps outer := by
      rw [behind, hg]
      rfl
    -- The group that is closed keeps its own alternatives; the parts behind are those around it.
    have hclosed := Steps.close hgroup
    have hpart : OpenGroup.part { g with parts := front ps outer g.parts }
        (b.behind ps).alternatives = g.part b.alternatives := by
      rw [alternatives, sequence_behind houter]
      rfl
    rw [hpart, ← front_cons] at hclosed
    exact hclosed
  | setFlags edits =>
    refine ⟨Steps.step? ?_, rfl⟩
    have hset : ({ b with flags := b.flags.setAll edits, parts := none :: b.parts }).behind ps =
        { b.behind ps with
          flags := (b.behind ps).flags.setAll edits
          parts := none :: (b.behind ps).parts } := by
      simp only [behind, front_cons]
    rw [hset]
    exact .setFlags edits
  | bar =>
    have houter := hbar rfl
    refine ⟨Steps.step? ?_, ?_⟩
    · have hfinished : ({ b with branches := b.sequence :: b.branches, parts := [] }).behind ps =
          { b.behind ps with
            branches := (b.behind ps).sequence :: (b.behind ps).branches
            parts := [] } := by
        rw [sequence_behind houter]
        simp only [behind, front_of_ne houter]
      rw [hfinished]
      exact .bar
    · obtain ⟨g, outer, hg⟩ := List.exists_cons_of_ne_nil houter
      dsimp only
      rw [hg]
      rfl
  | @times min max marked r r' parts hparts hr' =>
    refine ⟨Steps.step? ?_, rfl⟩
    have hbehind : (b.behind ps).parts = some r :: front ps b.outer parts := by
      rw [behind, hparts, front_cons]
    have hrepeated : ({ b with parts := some r' :: parts }).behind ps =
        { b.behind ps with parts := some r' :: front ps b.outer parts } := by
      simp only [behind, front_cons]
    rw [hrepeated]
    exact .times hbehind hr'
  | ignored => exact ⟨rfl, rfl⟩

end Builder

/-- No bar stands outside of all groups. -/
def Undivided (ts : List Token) : Prop :=
  ∀ before after, ts = before ++ .bar :: after → before.foldlM Token.depth? 0 ≠ some 0

theorem undivided_iff {ts : List Token} : Undivided ts ↔ ∀ n ∈ List.range ts.length,
    ts[n]? = some .bar → (ts.take n).foldlM Token.depth? 0 ≠ some 0 := by
  constructor
  · intro h n _ hbar
    obtain ⟨hn, hbar⟩ := List.getElem?_eq_some_iff.mp hbar
    refine h (ts.take n) (ts.drop (n + 1)) ?_
    rw [← hbar, List.getElem_cons_drop, List.take_append_drop]
  · rintro h before after rfl
    have hbefore := h before.length (by simp)
    rw [List.take_left] at hbefore
    exact hbefore (by simp)

instance (ts : List Token) : Decidable (Undivided ts) := decidable_of_iff' _ undivided_iff

/-- Tokens are read behind other parts as they are read without them, unless there is a bar outside
of all groups. -/
theorem Builder.foldlM_behind {b b' : Builder} {ts : List Token}
    (h : ts.foldlM step? b = some b')
    (hbars : ∀ before after, ts = before ++ .bar :: after →
      before.foldlM Token.depth? b.outer.length ≠ some 0) (ps : List (Option Regex)) :
    ts.foldlM step? (b.behind ps) = some (b'.behind ps) ∧
      trunk b'.branches b'.outer = trunk b.branches b.outer := by
  induction ts generalizing b with
  | nil =>
    obtain rfl := Option.some.inj h
    exact ⟨rfl, rfl⟩
  | cons t ts ih =>
    rw [List.foldlM_cons] at h ⊢
    obtain ⟨b₁, hb₁, h⟩ := Option.bind_eq_some_iff.mp h
    have hbar : t = .bar → b.outer ≠ [] := by
      rintro rfl houter
      exact hbars [] ts rfl (by rw [houter]; rfl)
    have hbars₁ : ∀ before after, ts = before ++ .bar :: after →
        before.foldlM Token.depth? b₁.outer.length ≠ some 0 := by
      intro before after hts hdepth
      refine hbars (t :: before) after (by rw [hts]; rfl) ?_
      rw [List.foldlM_cons, depth?_of_step? hb₁]
      exact hdepth
    obtain ⟨hstep, htrunk⟩ := step?_behind hb₁ hbar ps
    obtain ⟨hfold, htrunk'⟩ := ih h hbars₁
    rw [hstep]
    exact ⟨hfold, htrunk'.trans htrunk⟩

end Regex

/-! ### Patterns -/

/-- A pattern keeps its meaning between other texts: it has no placeholder, it is one alternative,
and its tokens set no flags and do not look around. -/
structure Movable (source : String) (ls : List Lexeme) (r : Regex) : Prop
    extends Compiles source ls r where
  /-- There is nothing that could be expanded. -/
  colonless : ':' ∉ source.toList
  /-- There is one alternative. -/
  undivided : Undivided (ls.map (·.token))
  /-- The tokens mean the same everywhere. -/
  plain : ∀ l ∈ ls, l.token.isPlain = true

namespace Movable

variable {source : String} {ls : List Lexeme} {r : Regex}

/-- The expression consists of some parts, which are read behind other parts as well. -/
theorem exists_parts (h : Movable source ls r) : ∃ parts : List (Option Regex),
    r = concat (parts.reverse.filterMap id) ∧ r.lookFree = true ∧
      ∀ ps, ∃ b : Builder, (ls.map (·.token)).foldlM Builder.step? { parts := ps } = some b ∧
        b.parts = parts ++ ps ∧ b.flags = {} ∧ b.branches = [] ∧ b.outer = [] := by
  obtain ⟨b, hb, houter, rfl⟩ := h.builds
  have hplain : ({} : Builder).IsPlain := ⟨rfl, nofun, nofun, nofun⟩
  have hb' := hplain.foldlM hb (List.forall_mem_map.mpr h.plain)
  have hbehind := Builder.foldlM_behind hb h.undivided
  have hbranches : b.branches = [] := by
    have htrunk := (hbehind []).2
    rwa [houter] at htrunk
  refine ⟨b.parts, ?_, hb'.alternatives,
    fun ps => ⟨_, (hbehind ps).1, ?_, hb'.flags, hbranches, ?_⟩⟩
  · rw [Builder.alternatives, hbranches]
    rfl
  · rw [Builder.behind, houter]
    rfl
  · rw [Builder.behind, houter]
    rfl

theorem lookFree (h : Movable source ls r) : r.lookFree = true := h.exists_parts.choose_spec.2.1

/-- In front of other text the tokens are read as before. -/
theorem lexes_append (h : Movable source ls r) {tail : List Char} (htail : Stops false tail) :
    Lexes [] (source.toList ++ tail) ls [] tail :=
  lexemesFrom?_append (List.forall_mem_nil _) h.plain h.lexes h.depth htail []

/-- Between a caret and more text a pattern is some parts, and what follows is built behind them. -/
theorem parse?_joined (h : Movable source ls r) {text : List Char} {ls' : List Lexeme}
    {rs : List Regex} (htext : Lexes [] (text ++ ['$']) ls' [] ['$'])
    (htail : Stops false (text ++ ['$']))
    (hfold : ∀ b : Builder, b.flags = {} →
      (ls'.map (·.token)).foldlM Builder.step? b = some (add b rs 0)) :
    ∃ ps, concat ps = r ∧ parse? (String.ofList ('^' :: (source.toList ++ text) ++ ['$'])) =
      some (concat (.look .textStart :: ((ps ++ rs) ++ [.look .textEnd]))) := by
  obtain ⟨parts, rfl, -, hparts⟩ := h.exists_parts
  obtain ⟨b, hb, hbparts, hflags, hbranches, houter⟩ := hparts [some (.look .textStart)]
  have hlexes : Lexes [] (source.toList ++ text ++ ['$']) (ls ++ ls') [] ['$'] := by
    rw [List.append_assoc]
    exact (h.lexes_append htail).trans htext
  have hbuild : ((ls ++ ls').map (·.token)).foldlM Builder.step?
      (({} : Builder).push (.look .textStart)) = some (add b rs 0) := by
    have hstart : ({} : Builder).push (.look .textStart) =
      { parts := [some (.look .textStart)] } := rfl
    rw [List.map_append, List.foldlM_append, hstart, hb]
    exact hfold b hflags
  refine ⟨parts.reverse.filterMap id, rfl, ?_⟩
  rw [parse?_of_foldlM hlexes hbuild hflags hbranches houter]
  simp [add, hbparts]

end Movable

end HttpRouting
