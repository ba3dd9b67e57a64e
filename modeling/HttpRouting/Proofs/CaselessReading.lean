import HttpRouting.Proofs.SmallLetters

/-!
# Patterns read without regard to case

The same tokens are read twice, once with the flag that ignores case and once without. Wherever a
single character or class reads, with the flag, the small letters of what it reads without it, the
two expressions that come out read small letters and any letters of the same texts. Characters do so
by themselves as long as the flag is not switched off; a class may not, because ignoring case makes
a negated class smaller.

## Main definitions

* `Regex.Token.Lowers` — a token reads small letters under other flags
* `Regex.Builder.Lowers` — two builders whose expressions do
* `Regex.Builder.LowersAlong` — every token does, under the flags in force there
* `Regex.Token.grows` — a token that ignoring case only lets read more

## Main results

* `Regex.Builder.Lowers.step` — one token
* `Regex.Builder.Lowers.foldlM` — all tokens
* `Regex.Builder.lowersAlong_of_grows` — patterns without negated classes
-/

namespace HttpRouting.Regex

/-! ### Flags -/

/-- The same flags, with or without the one that ignores case. -/
def Flags.Looser (f f' : Flags) : Prop := f' = f ∨ f' = { f with ignoreCase := true }

namespace Flags.Looser

variable {f f' : Flags}

theorem set (h : f.Looser f') (e : FlagEdit) : (f.set e).Looser (f'.set e) := by
  obtain ⟨flag, on⟩ := e
  rcases h with rfl | rfl
  · exact .inl rfl
  · cases flag with
    | ignoreCase => exact .inl rfl
    | _ => exact .inr rfl

theorem setAll (h : f.Looser f') (es : List FlagEdit) : (f.setAll es).Looser (f'.setAll es) := by
  unfold Flags.setAll
  induction es generalizing f f' with
  | nil => exact h
  | cons e es ih => exact ih (h.set e)

theorem unicode_eq (h : f.Looser f') : f'.unicode = f.unicode := by rcases h with rfl | rfl <;> rfl

theorem swapGreed_eq (h : f.Looser f') : f'.swapGreed = f.swapGreed := by
  rcases h with rfl | rfl <;> rfl

theorem ignoreCase_of (h : f.Looser f') (hf : f.ignoreCase = true) : f'.ignoreCase = true := by
  rcases h with rfl | rfl
  · exact hf
  · rfl

theorem toAssertion_eq (h : f.Looser f') (a : Anchor) : a.toAssertion f' = a.toAssertion f := by
  rcases h with rfl | rfl
  · rfl
  · cases a <;> rfl

theorem dotRegex?_eq (h : f.Looser f') : Atom.dotRegex? f' = Atom.dotRegex? f := by
  rcases h with rfl | rfl <;> rfl

end Flags.Looser

/-! ### Tokens -/

/-- A token reads under the second flags the small letters of what it reads under the first ones. -/
def Token.Lowers (f f' : Flags) : Token → Prop
  | .atom (.char c) | .atom (.byte c) => f'.ignoreCase = true ∨ c.toLower = c
  | .atom (.property p n) => ∀ s s', Bracket.propertySet? f p n = some s →
      Bracket.propertySet? f' p n = some s' → ∀ c ∈ s, c.toLower ∈ s'
  | .bracket k => ∀ s s', k.toSet? f = some s → k.toSet? f' = some s' → ∀ c ∈ s, c.toLower ∈ s'
  | _ => True

theorem Atom.lowers_charRegex {f f' : Flags} (hf : f.Looser f') {c : Char}
    (h : f'.ignoreCase = true ∨ c.toLower = c) : (charRegex f c).Lowers (charRegex f' c) := by
  unfold charRegex
  rw [hf.unicode_eq]
  cases hcase : f'.ignoreCase with
  | false =>
    have hcase' : ¬f.ignoreCase = true := fun hon =>
      Bool.false_ne_true (hcase.symm.trans (hf.ignoreCase_of hon))
    rw [if_neg hcase', if_neg Bool.false_ne_true]
    refine .chars fun d hd => ?_
    rw [CharSet.mem_single.mp hd, h.resolve_left (by simp [hcase])]
    exact CharSet.mem_single.mpr rfl
  | true =>
    split
    · exact .chars fun d hd => CharSet.toLower_mem_variantsOf hd
    · refine .chars fun d hd => CharSet.toLower_mem_variantsOf ?_
      rw [CharSet.mem_single.mp hd]
      exact CharSet.mem_variantsOf_self _ _

/-- A dot reads all characters, or all but those that end lines. -/
theorem Atom.lowers_dotRegex? {f : Flags} {r : Regex} (h : dotRegex? f = some r) : r.Lowers r := by
  have hends : ∀ d : Char, d.toLower ∈ CharSet.ofList ['\r', '\n'] ↔
      d ∈ CharSet.ofList ['\r', '\n'] := fun d =>
    iff_of_eq (congrArg (· = true) (Unicode.toLower_invariant
      (CharSet.ofList ['\r', '\n']).contains (by decide +kernel) d))
  have hfeed : ∀ d : Char, d.toLower ∈ CharSet.single '\n' ↔ d ∈ CharSet.single '\n' := fun d =>
    iff_of_eq (congrArg (· = true) (Unicode.toLower_invariant
      (CharSet.single '\n').contains (by decide +kernel) d))
  unfold dotRegex? at h
  split_ifs at h
  · obtain rfl := Option.some.inj h
    exact .chars fun d _ => CharSet.mem_any
  · obtain rfl := Option.some.inj h
    exact .chars fun d hd => CharSet.mem_compl.mpr (mt (hends d).mp (CharSet.mem_compl.mp hd))
  · obtain rfl := Option.some.inj h
    exact .chars fun d hd => CharSet.mem_compl.mpr (mt (hfeed d).mp (CharSet.mem_compl.mp hd))

theorem Shorthand.toLower_mem_toSet {unicode : Bool} (s : Shorthand) (d : Char) :
    d.toLower ∈ s.toSet unicode ↔ d ∈ s.toSet unicode := by
  have hsame : (s.toSet unicode).contains d.toLower = (s.toSet unicode).contains d := by
    cases unicode <;> cases s
    · exact Unicode.toLower_invariant (CharSet.range '0' '9').contains (by decide +kernel) d
    · exact Unicode.toLower_invariant CharSet.asciiBlank.contains (by decide +kernel) d
    · exact Unicode.toLower_invariant CharSet.asciiWord.contains (by decide +kernel) d
    · exact Unicode.isDigit_toLower d
    · exact Unicode.isBlank_toLower d
    · exact Unicode.isWord_toLower d
  rw [CharSet.mem_iff, CharSet.mem_iff, hsame]

/-- No shorthand tells small letters from capital ones. -/
theorem Shorthand.toLower_mem {unicode negated : Bool} {s : Shorthand} {set : CharSet}
    (h : s.toSet? unicode negated = some set) {d : Char} (hd : d ∈ set) : d.toLower ∈ set := by
  unfold Shorthand.toSet? at h
  split_ifs at h
  · obtain rfl := Option.some.inj h
    exact (s.toLower_mem_toSet d).mpr hd
  · obtain rfl := Option.some.inj h
    exact CharSet.mem_compl.mpr (mt (s.toLower_mem_toSet d).mp (CharSet.mem_compl.mp hd))

theorem Atom.lowers_toRegex? {f f' : Flags} (hf : f.Looser f') {a : Atom}
    (ha : Token.Lowers f f' (.atom a)) {r r' : Regex} (h : a.toRegex? f = some r)
    (h' : a.toRegex? f' = some r') : r.Lowers r' := by
  cases a with
  | char c =>
    obtain rfl := Option.some.inj h
    obtain rfl := Option.some.inj h'
    exact lowers_charRegex hf ha
  | byte c =>
    unfold toRegex? at h h'
    dsimp only at h h'
    split_ifs at h h'
    · obtain rfl := Option.some.inj h
      obtain rfl := Option.some.inj h'
      exact lowers_charRegex hf ha
  | dot =>
    have hsame : dotRegex? f = some r' := hf.dotRegex?_eq ▸ h'
    obtain rfl := Option.some.inj (hsame.symm.trans h)
    exact lowers_dotRegex? h
  | anchor a =>
    obtain rfl := Option.some.inj h
    obtain rfl := Option.some.inj h'
    rw [hf.toAssertion_eq]
    exact .look _
  | shorthand s n =>
    obtain ⟨set, hset, rfl⟩ := Option.map_eq_some_iff.mp h
    obtain ⟨set', hset', rfl⟩ := Option.map_eq_some_iff.mp h'
    rw [hf.unicode_eq, hset] at hset'
    obtain rfl := Option.some.inj hset'
    exact .chars fun d hd => Shorthand.toLower_mem hset hd
  | property p n =>
    obtain ⟨set, hset, rfl⟩ := Option.map_eq_some_iff.mp h
    obtain ⟨set', hset', rfl⟩ := Option.map_eq_some_iff.mp h'
    exact .chars (ha set set' hset hset')

/-! ### Builders -/

/-- The parts of two builders, of which the second may have started with a change of flags. -/
inductive LowersParts : List (Option Regex) → List (Option Regex) → Prop where
  /-- No parts. -/
  | nil : LowersParts [] []
  /-- A change of flags at the start of the second. -/
  | start : LowersParts [] [none]
  /-- A change of flags. -/
  | flags {ps ps' : List (Option Regex)} (h : LowersParts ps ps') :
      LowersParts (none :: ps) (none :: ps')
  /-- A part. -/
  | part {ps ps' : List (Option Regex)} {r r' : Regex} (hr : r.Lowers r')
      (h : LowersParts ps ps') : LowersParts (some r :: ps) (some r' :: ps')

theorem LowersParts.filterMap {ps ps' : List (Option Regex)} (h : LowersParts ps ps') :
    List.Forall₂ Regex.Lowers (ps.filterMap id) (ps'.filterMap id) := by
  induction h with
  | nil => exact .nil
  | start => exact .nil
  | flags _ ih => exact ih
  | part hr _ ih => exact .cons hr ih

/-- What is unfinished around two groups. -/
structure OpenGroup.Lowers (g g' : OpenGroup) : Prop where
  /-- The same index. -/
  capture : g'.capture = g.capture
  /-- The flags before the group. -/
  flags : g.flags.Looser g'.flags
  /-- The finished alternatives before the group. -/
  branches : List.Forall₂ Regex.Lowers g.branches g'.branches
  /-- The parts before the group. -/
  parts : LowersParts g.parts g'.parts

namespace Builder

/-- The second builder has read the same tokens under looser flags, and its expressions read small
letters. -/
structure Lowers (b b' : Builder) : Prop where
  /-- The flags in force. -/
  flags : b.flags.Looser b'.flags
  /-- The finished alternatives. -/
  branches : List.Forall₂ Regex.Lowers b.branches b'.branches
  /-- The parts. -/
  parts : LowersParts b.parts b'.parts
  /-- The groups around. -/
  outer : List.Forall₂ OpenGroup.Lowers b.outer b'.outer
  /-- The same number of groups. -/
  groups : b'.groups = b.groups
  /-- The same names. -/
  names : b'.names = b.names

namespace Lowers

variable {b b' c c' : Builder} {t : Token} {r r' : Regex}

theorem sequence (h : b.Lowers b') : b.sequence.Lowers b'.sequence := by
  unfold Builder.sequence
  rw [List.filterMap_reverse, List.filterMap_reverse]
  exact .concat (List.forall₂_reverse_iff.mpr h.parts.filterMap)

theorem alternatives (h : b.Lowers b') : b.alternatives.Lowers b'.alternatives :=
  .choice (List.forall₂_reverse_iff.mpr (.cons h.sequence h.branches))

theorem push (h : b.Lowers b') (hr : r.Lowers r') : (b.push r).Lowers (b'.push r') :=
  { h with parts := .part hr h.parts }

theorem openGroup (h : b.Lowers b') (capture : Option Nat) (edits : List FlagEdit) :
    (b.openGroup capture edits).Lowers (b'.openGroup capture edits) where
  flags := h.flags.setAll edits
  branches := .nil
  parts := .nil
  outer := .cons ⟨rfl, h.flags, h.branches, h.parts⟩ h.outer
  groups := h.groups
  names := h.names

theorem close (h : b.Lowers b') {g g' : OpenGroup} {outer outer' : List OpenGroup}
    (hg : b.outer = g :: outer) (hg' : b'.outer = g' :: outer') :
    g.Lowers g' ∧ List.Forall₂ OpenGroup.Lowers outer outer' ∧
      (g.part b.alternatives).Lowers (g'.part b'.alternatives) := by
  have houter := h.outer
  rw [hg, hg'] at houter
  obtain ⟨hgroup, hrest⟩ := List.forall₂_cons.mp houter
  refine ⟨hgroup, hrest, ?_⟩
  rw [OpenGroup.part, OpenGroup.part, hgroup.capture]
  cases g.capture with
  | none => exact h.alternatives
  | some i => exact .group i h.alternatives

theorem times (h : b.Lowers b') {ps ps' : List (Option Regex)} (hparts : b.parts = some r :: ps)
    (hparts' : b'.parts = some r' :: ps') : r.Lowers r' ∧ LowersParts ps ps' := by
  have hlowers := h.parts
  rw [hparts, hparts'] at hlowers
  cases hlowers with
  | part hr hps => exact ⟨hr, hps⟩

/-- One token is read by both. -/
theorem step (h : b.Lowers b') (ht : t.Lowers b.flags b'.flags) (hc : b.step? t = some c)
    (hc' : b'.step? t = some c') : c.Lowers c' := by
  -- The second builder reads the same token, so it takes the step of the same name.
  have hsteps' := steps_of_step? hc'
  cases steps_of_step? hc with
  | atom hr =>
    cases hsteps' with
    | atom hr' => exact h.push (Atom.lowers_toRegex? h.flags ht hr hr')
  | bracket hs =>
    cases hsteps' with
    | bracket hs' => exact h.push (.chars (ht _ _ hs hs'))
  | plain edits =>
    cases hsteps' with
    | plain => exact h.openGroup none edits
  | capturing _ =>
    cases hsteps' with
    | capturing _ =>
      have hopen := h.openGroup (some (b.groups + 1)) []
      rw [h.groups, h.names]
      exact { hopen with groups := rfl, names := rfl }
  | close hg =>
    cases hsteps' with
    | close hg' =>
      obtain ⟨hgroup, hrest, hpart⟩ := h.close hg hg'
      exact ⟨hgroup.flags, hgroup.branches, .part hpart hgroup.parts, hrest, h.groups, h.names⟩
  | setFlags edits =>
    cases hsteps' with
    | setFlags => exact { h with flags := h.flags.setAll edits, parts := .flags h.parts }
  | bar =>
    cases hsteps' with
    | bar => exact { h with branches := .cons h.sequence h.branches, parts := .nil }
  | times hparts hr =>
    cases hsteps' with
    | times hparts' hr' =>
      obtain ⟨hlowers, hrest⟩ := h.times hparts hparts'
      rw [eq_repeated_of_repeated? hr, eq_repeated_of_repeated? hr', h.flags.swapGreed_eq]
      exact { h with parts := .part (hlowers.repeated _ _ _) hrest }
  | ignored =>
    cases hsteps' with
    | ignored => exact h

end Lowers

/-- Two builders read the same tokens, and each token reads small letters under the flags that are
then in force. -/
def LowersAlong : List Token → Builder → Builder → Prop
  | [], _, _ => True
  | t :: ts, b, b' => t.Lowers b.flags b'.flags ∧
      ∀ c c', b.step? t = some c → b'.step? t = some c' → LowersAlong ts c c'

theorem Lowers.foldlM {ts : List Token} {b b' c c' : Builder} (h : b.Lowers b')
    (hts : LowersAlong ts b b') (hc : ts.foldlM step? b = some c)
    (hc' : ts.foldlM step? b' = some c') : c.Lowers c' := by
  induction ts generalizing b b' with
  | nil =>
    obtain rfl := Option.some.inj hc
    obtain rfl := Option.some.inj hc'
    exact h
  | cons t ts ih =>
    rw [List.foldlM_cons] at hc hc'
    obtain ⟨b₁, hb₁, hc⟩ := Option.bind_eq_some_iff.mp hc
    obtain ⟨b₁', hb₁', hc'⟩ := Option.bind_eq_some_iff.mp hc'
    exact ih (h.step hts.1 hb₁ hb₁') (hts.2 _ _ hb₁ hb₁') hc hc'

theorem Lowers.finish {b b' : Builder} {r r' : Regex} (h : b.Lowers b')
    (hr : b.finish? = some r) (hr' : b'.finish? = some r') : r.Lowers r' := by
  unfold finish? at hr hr'
  split_ifs at hr hr'
  · obtain rfl := Option.some.inj hr
    obtain rfl := Option.some.inj hr'
    exact h.alternatives

end Builder

/-! ### Patterns that only grow -/

namespace CharSet

/-- A set that has been closed under case variants does not tell small letters from capital ones. -/
theorem toLower_mem_ignoringCase {unicode : Bool} {s : CharSet} {c : Char} :
    c.toLower ∈ s.ignoringCase unicode ↔ c ∈ s.ignoringCase unicode := by
  cases unicode with
  | true =>
    have hfold := Unicode.toLower_invariant (fun c => Unicode.foldCase c.toNat)
      (by decide +kernel) c
    -- The variants of a code point are those of its representative.
    have hvariants : Unicode.caseVariants c.toLower.toNat = Unicode.caseVariants c.toNat := by
      rw [Unicode.caseVariants, Unicode.caseVariants, hfold]
    have hset : s.ignoringCase true = caseClosure s := rfl
    rw [hset, mem_iff, mem_iff, contains, contains, hvariants]
  | false =>
    have hset : s.ignoringCase false = asciiCaseClosure s := rfl
    rw [hset, mem_iff, mem_iff, contains, contains]
    rcases Unicode.toLower_eq_or_mem_capitals c with hc | hc
    · rw [hc]
    · have hcases : (Unicode.capitals.all fun a =>
          otherAsciiCase a = a.toLower ∧ otherAsciiCase a.toLower = a) = true := by decide +kernel
      obtain ⟨hother, hback⟩ := of_decide_eq_true (List.all_eq_true.mp hcases c hc)
      rw [hother, hback, Bool.or_comm]

theorem mem_ignoringCase {unicode : Bool} {s : CharSet} {c : Char} (h : c ∈ s) :
    c ∈ s.ignoringCase unicode := by
  cases unicode with
  | true =>
    refine List.any_eq_true.mpr ⟨c.toNat, Unicode.self_mem_caseVariants _, ?_⟩
    rw [Char.ofNat_toNat]
    exact h
  | false => exact Bool.or_eq_true_iff.mpr (.inl h)

theorem ignoringCase_mono {unicode : Bool} {s s' : CharSet} (h : ∀ c ∈ s, c ∈ s') {c : Char}
    (hc : c ∈ s.ignoringCase unicode) : c ∈ s'.ignoringCase unicode := by
  cases unicode with
  | true =>
    obtain ⟨n, hn, hmem⟩ := List.any_eq_true.mp hc
    exact List.any_eq_true.mpr ⟨n, hn, h _ hmem⟩
  | false =>
    exact Bool.or_eq_true_iff.mpr ((Bool.or_eq_true_iff.mp hc).imp (h _) (h _))

end CharSet

/-- Ignoring case only adds to the class: nothing is negated or taken away in it. -/
def Bracket.grows : Bracket → Bool
  | nothing | range _ _ | shorthand _ _ => true
  | posix _ negated | property _ negated => !negated
  | union a b => a.grows && b.grows
  | op o a b => o == .inter && a.grows && b.grows
  | nested negated a => !negated && a.grows

namespace Bracket

variable {f f' : Flags} (hf : f.Looser f')
include hf

theorem mem_fold {s s' : CharSet} (h : ∀ c ∈ s, c ∈ s') {c : Char} (hc : c ∈ fold f s) :
    c ∈ fold f' s' := by
  unfold fold at hc ⊢
  rw [hf.unicode_eq]
  split at hc
  · next hcase =>
    rw [if_pos (hf.ignoreCase_of hcase)]
    exact CharSet.ignoringCase_mono h hc
  · split
    · exact CharSet.mem_ignoringCase (h c hc)
    · exact h c hc

theorem mem_of_propertySet? {p : Unicode.Property} {s s' : CharSet}
    (hs : propertySet? f p false = some s) (hs' : propertySet? f' p false = some s') :
    s = fold f (.property p) ∧ s' = fold f' (.property p) ∧ ∀ c ∈ s, c ∈ s' := by
  unfold propertySet? at hs hs'
  split_ifs at hs hs'
  obtain rfl := Option.some.inj hs
  obtain rfl := Option.some.inj hs'
  exact ⟨rfl, rfl, fun c => mem_fold hf fun c hc => hc⟩

theorem mem_of_grows {k : Bracket} (hk : k.grows = true) {s s' : CharSet}
    (hs : k.toSet? f = some s) (hs' : k.toSet? f' = some s') : ∀ c ∈ s, c ∈ s' := by
  -- A class that is built without complements and differences grows with its parts, and closing a
  -- part under case only adds to it.
  induction k generalizing s s' with
  | nothing =>
    obtain rfl := Option.some.inj hs
    exact fun c hc => absurd hc CharSet.not_mem_never
  | range lo hi =>
    unfold toSet? at hs hs'
    split_ifs at hs hs'
    obtain rfl := Option.some.inj hs
    obtain rfl := Option.some.inj hs'
    exact fun c hc => hc
  | posix k negated =>
    have hnegated : negated = false := by simpa [grows] using hk
    subst hnegated
    obtain rfl := Option.some.inj hs
    obtain rfl := Option.some.inj hs'
    exact fun c => mem_fold hf fun c hc => hc
  | shorthand k negated =>
    unfold toSet? at hs hs'
    rw [hf.unicode_eq, hs] at hs'
    obtain rfl := Option.some.inj hs'
    exact fun c hc => hc
  | property p negated =>
    have hnegated : negated = false := by simpa [grows] using hk
    subst hnegated
    exact (mem_of_propertySet? hf hs hs').2.2
  | union a b iha ihb =>
    obtain ⟨ha, hb⟩ := Bool.and_eq_true_iff.mp hk
    obtain ⟨sa, hsa, hs⟩ := Option.bind_eq_some_iff.mp hs
    obtain ⟨sb, hsb, hs⟩ := Option.bind_eq_some_iff.mp hs
    obtain ⟨sa', hsa', hs'⟩ := Option.bind_eq_some_iff.mp hs'
    obtain ⟨sb', hsb', hs'⟩ := Option.bind_eq_some_iff.mp hs'
    obtain rfl := Option.some.inj hs
    obtain rfl := Option.some.inj hs'
    exact fun c hc => CharSet.mem_union.mpr
      ((CharSet.mem_union.mp hc).imp (iha ha hsa hsa' c) (ihb hb hsb hsb' c))
  | op o a b iha ihb =>
    obtain ⟨hk, hb⟩ := Bool.and_eq_true_iff.mp hk
    obtain ⟨ho, ha⟩ := Bool.and_eq_true_iff.mp hk
    obtain rfl := eq_of_beq ho
    obtain ⟨sa, hsa, hs⟩ := Option.bind_eq_some_iff.mp hs
    obtain ⟨sb, hsb, hs⟩ := Option.bind_eq_some_iff.mp hs
    obtain ⟨sa', hsa', hs'⟩ := Option.bind_eq_some_iff.mp hs'
    obtain ⟨sb', hsb', hs'⟩ := Option.bind_eq_some_iff.mp hs'
    obtain rfl := Option.some.inj hs
    obtain rfl := Option.some.inj hs'
    exact fun c hc => CharSet.mem_inter.mpr ((CharSet.mem_inter.mp hc).imp
      (mem_fold hf (iha ha hsa hsa')) (mem_fold hf (ihb hb hsb hsb')))
  | nested negated a ih =>
    obtain ⟨hnegated, ha⟩ := Bool.and_eq_true_iff.mp hk
    have hnegated : negated = false := by simpa using hnegated
    subst hnegated
    obtain ⟨sa, hsa, hs⟩ := Option.bind_eq_some_iff.mp hs
    obtain ⟨sa', hsa', hs'⟩ := Option.bind_eq_some_iff.mp hs'
    obtain rfl := Option.some.inj hs
    obtain rfl := Option.some.inj hs'
    exact fun c => mem_fold hf (ih ha hsa hsa')

end Bracket

/-- Ignoring case only lets the token read more, and the token does not switch that off. -/
def Token.grows : Token → Bool
  | .bracket (.nested negated a) => (Bracket.nested negated a).grows
  | .bracket _ => false
  | .atom (.property _ negated) => !negated
  | .setFlags edits | .openGroup (.plain edits) => (.ignoreCase, false) ∉ edits
  | _ => true

theorem Token.lowers_of_grows {f f' : Flags} (hf : f.Looser f') (hf' : f'.ignoreCase = true)
    {t : Token} (ht : t.grows = true) : t.Lowers f f' := by
  cases t with
  | atom a =>
    cases a with
    | char | byte => exact .inl hf'
    | property p negated =>
      intro s s' hs hs' c hc
      have hnegated : negated = false := by simpa [grows] using ht
      subst hnegated
      obtain ⟨-, rfl, hmem⟩ := Bracket.mem_of_propertySet? hf hs hs'
      have hmem := hmem c hc
      rw [Bracket.fold, if_pos hf'] at hmem ⊢
      exact CharSet.toLower_mem_ignoringCase.mpr hmem
    | _ => trivial
  | bracket k =>
    cases k with
    | nested negated a =>
      intro s s' hs hs' c hc
      have hmem := Bracket.mem_of_grows hf ht hs hs' c hc
      obtain ⟨hnegated, -⟩ := Bool.and_eq_true_iff.mp ht
      have hnegated : negated = false := by simpa using hnegated
      subst hnegated
      obtain ⟨sa', -, hs'⟩ := Option.bind_eq_some_iff.mp hs'
      obtain rfl := Option.some.inj hs'
      rw [Bracket.fold, if_pos hf'] at hmem ⊢
      exact CharSet.toLower_mem_ignoringCase.mpr hmem
    | _ => cases ht
  | _ => trivial

namespace Builder

/-- Case is ignored where the builder stands and behind every group around it. -/
structure IgnoresCase (b : Builder) : Prop where
  /-- The flags in force. -/
  flags : b.flags.ignoreCase = true
  /-- The flags before the groups around. -/
  outer : ∀ g ∈ b.outer, g.flags.ignoreCase = true

theorem ignoreCase_setAll {f : Flags} (hf : f.ignoreCase = true) {es : List FlagEdit}
    (hes : (.ignoreCase, false) ∉ es) : (f.setAll es).ignoreCase = true := by
  unfold Flags.setAll
  induction es generalizing f with
  | nil => exact hf
  | cons e es ih =>
    rw [List.mem_cons, not_or] at hes
    refine ih ?_ hes.2
    obtain ⟨flag, on⟩ := e
    cases flag with
    | ignoreCase =>
      cases on with
      | false => exact absurd rfl hes.1
      | true => rfl
    | _ => exact hf

/-- A token that only lets more be read leaves case ignored. -/
theorem IgnoresCase.step {b c : Builder} {t : Token} (h : b.IgnoresCase) (ht : t.grows = true)
    (hc : b.step? t = some c) : c.IgnoresCase := by
  have hgroup : ∀ g ∈ ⟨none, b.flags, b.branches, b.parts⟩ :: b.outer, g.flags.ignoreCase = true :=
    List.forall_mem_cons.mpr ⟨h.flags, h.outer⟩
  cases steps_of_step? hc with
  | plain edits => exact ⟨ignoreCase_setAll h.flags (by simpa [Token.grows] using ht), hgroup⟩
  | capturing _ => exact ⟨h.flags, List.forall_mem_cons.mpr ⟨h.flags, h.outer⟩⟩
  | close hg =>
    obtain ⟨hflags, hrest⟩ := List.forall_mem_cons.mp (hg ▸ h.outer)
    exact ⟨hflags, hrest⟩
  | setFlags edits =>
    exact ⟨ignoreCase_setAll h.flags (by simpa [Token.grows] using ht), h.outer⟩
  | _ => exact ⟨h.flags, h.outer⟩

/-- Tokens that only let more be read do so one after the other. -/
theorem lowersAlong_of_grows {ts : List Token} {b b' : Builder} (h : b.Lowers b')
    (hcase : b'.IgnoresCase) (hts : ∀ t ∈ ts, t.grows = true) : LowersAlong ts b b' := by
  induction ts generalizing b b' with
  | nil => trivial
  | cons t ts ih =>
    obtain ⟨ht, hts⟩ := List.forall_mem_cons.mp hts
    have hlowers := Token.lowers_of_grows h.flags hcase.flags ht
    exact ⟨hlowers, fun c c' hc hc' => ih (h.step hlowers hc hc') (hcase.step ht hc') hts⟩

end Builder

end HttpRouting.Regex
