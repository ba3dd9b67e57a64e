import HttpRouting.Proofs.Cuts
import HttpRouting.Proofs.LexemeScan

/-!
# Colons that are syntax

A colon in an escape, in a class or in the opening of a group is no placeholder, whatever follows
it. The scan that cuts out the placeholders keeps such a colon as long as it agrees with the parser
about the token that the colon stands in: either it does not read the colon as plain text, or the
next character belongs to the same token and makes no placeholder of it. A class in a class is where
it goes wrong, since the rest of the outer class is then read as plain text, and so is the name of a
property that follows the colon behind its kind.

## Main results

* `Placeholder.Cut.exists_kept`, `Placeholder.Cut.eq_map_inl` — colons that are spared are kept
* `Placeholder.Mode.Follows.spared` — the colons of a token that is syntax are spared
* `Compiles.syntaxColons_kept` — expanding a pattern keeps the colons of its syntax
-/

namespace HttpRouting

open Placeholder Regex

namespace Placeholder

variable {m : Mode} {cs u w : List Char} {xs : Tokens}

/-! ### Colons that are kept -/

theorem Spared.not_begins (h : Spared m [] w) (hm : m.settles ':' = true)
    (name : Option (List Char)) (rest : List Char) : ¬Begins (':' :: w) name rest := by
  rintro ⟨hw, hname⟩
  obtain ⟨d, hd, hstart, hcolon⟩ := h hm
  cases name with
  | none =>
    obtain rfl := (List.cons.inj hw).2
    exact hcolon (Option.some.inj hd).symm
  | some n =>
    obtain rfl := (List.cons.inj hw).2
    obtain ⟨hn, -⟩ := hname n rfl
    cases n with
    | nil => cases hn
    | cons e n =>
      obtain rfl := Option.some.inj hd
      rw [Identifier.isIdentifier, hstart, Bool.false_and] at hn
      cases hn

/-- Only the first characters of a placeholder are colons. -/
theorem Begins.eq_of_spelling_eq {name : Option (List Char)} {rest v : List Char}
    (h : Begins cs name rest) (hv : spelling name = u ++ ':' :: v) : u = [] ∨ u = [':'] := by
  cases u with
  | nil => exact .inl rfl
  | cons c u =>
    cases name with
    | none =>
      obtain ⟨rfl, hu⟩ := List.cons.inj hv
      cases u with
      | nil => exact .inr rfl
      | cons d u => simp at hu
    | some n =>
      obtain ⟨-, rfl⟩ := List.cons.inj hv
      have hrest := Identifier.isRest_of_isIdentifier (h.2 _ rfl).1 ':' (by simp)
      exact absurd hrest (by decide)

/-- A colon is kept if it is spared, and if no colon in front of it makes a placeholder of both. -/
theorem Cut.exists_kept (h : Cut m cs xs) (hcs : cs = u ++ ':' :: w) (hu : Spared m u w)
    (hbefore : ∀ u', u = u' ++ [':'] → Spared m u' (':' :: w)) :
    ∃ ys zs, xs = ys ++ .inl ':' :: zs ∧ spelled ys = u := by
  induction h generalizing u with
  | nil m => exact absurd hcs (by simp)
  | @placeholder m cs rest name xs hm hbegins hrest ih =>
    -- The colon stands behind the placeholder, or it would be one of its colons.
    obtain ⟨v, rfl, hrest'⟩ | ⟨v, hv, -⟩ :=
      Shape.eq_append_or_of_append_eq (hbegins.1.symm.trans hcs)
    · have hafter : ∀ v, m.after (spelling name ++ v) = (m.after (spelling name)).after v :=
        m.after_append (spelling name)
      rw [Spared, hafter] at hu
      obtain ⟨ys, zs, rfl, rfl⟩ := ih hrest' hu fun v' hv' => by
        have hspared := hbefore (spelling name ++ v') (by rw [hv', List.append_assoc])
        rwa [Spared, hafter] at hspared
      exact ⟨.inr name :: ys, zs, rfl, rfl⟩
    · subst hcs
      obtain rfl | rfl := hbegins.eq_of_spelling_eq hv
      · exact absurd hbegins (hu.not_begins hm name rest)
      · exact absurd hbegins ((hbefore [] rfl).not_begins hm name rest)
  | @char m c cs xs hc hcs' ih =>
    cases u with
    | nil =>
      obtain ⟨rfl, -⟩ := List.cons.inj hcs
      exact ⟨[], xs, rfl, rfl⟩
    | cons d u =>
      obtain ⟨rfl, rfl⟩ := List.cons.inj hcs
      obtain ⟨ys, zs, rfl, rfl⟩ := ih rfl hu fun u' hu' => hbefore (c :: u') (congrArg _ hu')
      exact ⟨.inl c :: ys, zs, rfl, rfl⟩

/-- If all colons are spared, everything is kept. -/
theorem Cut.eq_map_inl (h : Cut m cs xs) (hcs : ∀ u w, cs = u ++ ':' :: w → Spared m u w) :
    xs = cs.map .inl := by
  induction h with
  | nil m => rfl
  | @placeholder m cs rest name xs hm hbegins hrest ih =>
    obtain ⟨cs', rfl, -⟩ := hbegins.exists_colon
    exact absurd hbegins ((hcs [] cs' rfl).not_begins hm name rest)
  | @char m c cs xs hc hcs' ih =>
    rw [List.map_cons, ih fun u w hu => hcs (c :: u) w (congrArg _ hu)]

theorem replaced_map_inl (pattern cs : List Char) : replaced pattern (cs.map .inl) = cs := by
  induction cs with
  | nil => rfl
  | cons c cs ih => exact congrArg (_ :: ·) ih

/-- A text without placeholders is not changed. -/
theorem expand_of_cut_map_inl {source pattern : String}
    (h : Cut .plain source.toList (source.toList.map .inl)) :
    expand source pattern = ⟨source, []⟩ := by
  have hsource := expand_of_cut h pattern
  rw [replaced_map_inl, String.ofList_toList] at hsource
  have hplaceholders : (expand source pattern).placeholders = [] := by
    refine List.map_eq_nil_iff.mp ((map_fst_captures 0 _).trans ?_)
    rw [← cut_iff.mp h]
    exact List.filterMap_eq_nil_iff.mpr (List.forall_mem_map.mpr fun _ _ => rfl)
  calc expand source pattern
      = ⟨(expand source pattern).source, (expand source pattern).placeholders⟩ := rfl
    _ = ⟨source, []⟩ := by rw [hsource, hplaceholders]

/-! ### Colons in tokens -/

variable {ls ls₁ ls₂ : List Lexeme} {l : Lexeme}

/-- Where a token begins, everything in front of it has settled. -/
theorem Mode.Follows.settles_split (h : m.Follows (ls₁ ++ l :: ls₂)) :
    ∀ c ∈ l.text.head?, (m.after (ls₁.flatMap (·.text))).settles c = true := by
  induction ls₁ generalizing m with
  | nil =>
    cases h with
    | cons _ hm _ _ => exact hm
  | cons k ls₁ ih =>
    cases h with
    | cons hne hm _ hls =>
      rw [List.flatMap_cons, Mode.after_append, Mode.after_of_settles hne hm]
      exact ih hls

/-- A colon that is spared in a token is spared in the text that the scan goes over. -/
theorem Mode.Follows.spared (h : m.Follows (ls₁ ++ l :: ls₂)) (hhead : l.text.head? ≠ some ':')
    (hkeeps : KeepsColons .plain l.text) (hl : l.text = u ++ ':' :: w) :
    Spared m (ls₁.flatMap (·.text) ++ u) (w ++ ls₂.flatMap (·.text)) := by
  intro hm
  have hne : u ≠ [] := by
    rintro rfl
    exact hhead (by rw [hl]; rfl)
  have hsettles : ∀ c ∈ u.head?, (m.after (ls₁.flatMap (·.text))).settles c = true := by
    have hsettles := h.settles_split
    rwa [hl, List.head?_append_of_ne_nil u hne] at hsettles
  rw [Mode.after_append, Mode.after_of_settles hne hsettles] at hm
  rw [hl] at hkeeps
  obtain ⟨d, hd, hplain⟩ := hkeeps.spared hm
  exact ⟨d, by rw [List.head?_append, Option.mem_def.mp hd]; rfl, hplain⟩

/-- A character of a text that is put together from tokens stands in one of them. -/
theorem exists_of_flatMap_text_eq {c : Char} (h : ls.flatMap (·.text) = u ++ c :: w) :
    ∃ ls₁ l ls₂ v v', ls = ls₁ ++ l :: ls₂ ∧ l.text = v ++ c :: v' ∧
      u = ls₁.flatMap (·.text) ++ v ∧ w = v' ++ ls₂.flatMap (·.text) := by
  induction ls generalizing u with
  | nil => simp at h
  | cons l ls ih =>
    rw [List.flatMap_cons] at h
    obtain ⟨v, rfl, hv⟩ | ⟨v, hl, rfl⟩ := Shape.eq_append_or_of_append_eq h
    · obtain ⟨ls₁, k, ls₂, v₁, v₂, rfl, hk, rfl, rfl⟩ := ih hv
      exact ⟨l :: ls₁, k, ls₂, v₁, v₂, rfl, hk, by simp, rfl⟩
    · exact ⟨[], l, ls, u, v, rfl, hl, rfl, rfl⟩

end Placeholder

/-- The scan keeps the colons of the syntax of a pattern, if it keeps those of the tokens by which
it may be led astray, and those in the names of properties. -/
theorem Regex.keepsColons_of_lexemesFrom? {v : Bool} {outer : List Bool} {cs : List Char}
    {ls : List Lexeme} (h : lexemesFrom? v outer cs = some ls)
    (hls : ∀ p ∈ readings v outer ls, p.2.suspect p.1 = true ∨ p.2.asksForProperty = true →
      p.2.IsSyntax → KeepsColons .plain p.2.text) :
    ∀ l ∈ ls, l.IsSyntax → l.text.head? ≠ some ':' ∧ KeepsColons .plain l.text := by
  induction ls generalizing v outer cs with
  | nil => exact nofun
  | cons l ls ih =>
    obtain ⟨rest, rfl, hfrom, hrest⟩ := exists_of_lexemesFrom?_cons h
    obtain ⟨hfirst, hothers⟩ := List.forall_mem_cons.mp hls
    refine List.forall_mem_cons.mpr ⟨fun hl => ?_, ih hrest hothers⟩
    obtain ⟨hhead, hkeeps⟩ := hfrom.colons hl
    refine ⟨hhead, ?_⟩
    by_cases hasks : l.suspect v = true ∨ l.asksForProperty = true
    · exact hfirst hasks hl
    · obtain ⟨hsuspect, hproperty⟩ := not_or.mp hasks
      exact hkeeps (Bool.eq_false_iff.mpr hsuspect) (Bool.eq_false_iff.mpr hproperty)

namespace Compiles

variable {source : String} {ls : List Lexeme} {r : Regex}

/-- Expanding a pattern, with any pattern for the placeholders. If the scan agrees about the tokens
by which it may be led astray, and keeps the colons of those that are syntax and the colons in the
names of properties, then no colon of an escape, a class or the opening of a group is expanded, and
a pattern without other colons is not changed at all. -/
theorem syntaxColons_kept (h : Compiles source ls r)
    (hls : ∀ p ∈ readings false [] ls, (p.2.suspect p.1 = true → p.2.Agrees) ∧
      (p.2.suspect p.1 = true ∨ p.2.asksForProperty = true → p.2.IsSyntax →
        KeepsColons .plain p.2.text)) (pattern : String) :
    ∃ xs, Cut .plain source.toList xs ∧
      (expand source pattern).source = String.ofList (replaced pattern.toList xs) ∧
      (∀ ls₁ l ls₂ u w, ls = ls₁ ++ l :: ls₂ → l.IsSyntax → l.text = u ++ ':' :: w →
        ∃ ys zs, xs = ys ++ .inl ':' :: zs ∧ spelled ys = ls₁.flatMap (·.text) ++ u) ∧
      ((∀ l ∈ ls, ':' ∈ l.text → l.IsSyntax) → expand source pattern = ⟨source, []⟩) := by
  have hfollows : Mode.plain.Follows ls :=
    follows_of_lexemesFrom? h.lexes (fun p hp => (hls p hp).1) fun _ _ => rfl
  have hkeeps := keepsColons_of_lexemesFrom? h.lexes fun p hp => (hls p hp).2
  have htext := flatMap_text_of_lexemesFrom? h.lexes
  have hcut : Cut .plain source.toList _ := cut_iff.mpr rfl
  refine ⟨_, hcut, expand_of_cut hcut pattern, ?_, fun hall => ?_⟩
  · rintro ls₁ l ls₂ u w rfl hl hu
    obtain ⟨hhead, hcolons⟩ := hkeeps l (by simp) hl
    refine hcut.exists_kept (w := w ++ ls₂.flatMap (·.text)) ?_ (hfollows.spared hhead hcolons hu)
      fun u' hu' => ?_
    · rw [← htext]
      simp [hu]
    · -- A colon in front of this one stands in the same token.
      rcases List.eq_nil_or_concat' u with rfl | ⟨v, d, rfl⟩
      · exact absurd (by rw [hu]; rfl) hhead
      · rw [← List.append_assoc] at hu'
        obtain ⟨rfl, hd⟩ := List.append_inj' hu' rfl
        obtain rfl := (List.cons.inj hd).1
        rw [List.append_assoc] at hu
        exact hfollows.spared hhead hcolons hu
  · have hspared : ∀ u w, source.toList = u ++ ':' :: w → Spared .plain u w := by
      intro u w hu
      rw [← htext] at hu
      obtain ⟨ls₁, l, ls₂, v, v', rfl, hl, rfl, rfl⟩ := exists_of_flatMap_text_eq hu
      obtain ⟨hhead, hcolons⟩ := hkeeps l (by simp) (hall l (by simp) (by simp [hl]))
      exact hfollows.spared hhead hcolons hl
    rw [hcut.eq_map_inl hspared] at hcut
    exact expand_of_cut_map_inl hcut

/-- Flags, a named class and an escape: the pattern is not changed. -/
theorem syntaxColons_kept_namedClass :
    ∃ ls r, Compiles "^/(?:a|b)/[[:alpha:]]+/\\:literal$" ls r ∧
      (∃ p ∈ readings false [] ls, p.2.suspect p.1 = true ∧ ':' ∈ p.2.text) ∧
      ∀ pattern, expand "^/(?:a|b)/[[:alpha:]]+/\\:literal$" pattern =
        ⟨"^/(?:a|b)/[[:alpha:]]+/\\:literal$", []⟩ := by
  have hsome : (parse? "^/(?:a|b)/[[:alpha:]]+/\\:literal$").isSome = true := by decide +kernel
  obtain ⟨r, hr⟩ := Option.isSome_iff_exists.mp hsome
  obtain ⟨ls, h⟩ := exists_compiles hr
  have hchecks : ((lexemes? "^/(?:a|b)/[[:alpha:]]+/\\:literal$".toList).all fun ls =>
      decide ((∃ p ∈ readings false [] ls, p.2.suspect p.1 = true ∧ ':' ∈ p.2.text) ∧
        (∀ p ∈ readings false [] ls, (p.2.suspect p.1 = true → p.2.Agrees) ∧
          (p.2.suspect p.1 = true ∨ p.2.asksForProperty = true → p.2.IsSyntax →
            KeepsColons .plain p.2.text)) ∧
        ∀ l ∈ ls, ':' ∈ l.text → l.IsSyntax)) = true := by decide +kernel
  rw [h.lexes, Option.all_some, decide_eq_true_eq] at hchecks
  obtain ⟨hsuspect, hagrees, hall⟩ := hchecks
  refine ⟨ls, r, h, hsuspect, fun pattern => ?_⟩
  obtain ⟨xs, -, -, -, hunchanged⟩ := h.syntaxColons_kept hagrees pattern
  exact hunchanged hall

/-- A colon in a class is taken for a placeholder if a named class has ended in front of it. -/
theorem syntaxColons_expanded_nestedClass :
    ∃ l r, Compiles "[[:alpha:]:b]" [l] r ∧ l.IsSyntax ∧
      expand "[[:alpha:]:b]" ({} : Options).placeholderPattern =
        ⟨"[[:alpha:]([^/.,;?]+)]", [(some "b", 1)]⟩ := by
  have hsome : (parse? "[[:alpha:]:b]").isSome = true := by decide +kernel
  obtain ⟨r, hr⟩ := Option.isSome_iff_exists.mp hsome
  obtain ⟨ls, h⟩ := exists_compiles hr
  have hchecks : ((lexemes? "[[:alpha:]:b]".toList).all fun ls =>
      decide (ls.length = 1 ∧ ∀ l ∈ ls, l.IsSyntax)) = true := by decide +kernel
  rw [h.lexes, Option.all_some, decide_eq_true_eq] at hchecks
  obtain ⟨hlength, hall⟩ := hchecks
  obtain ⟨l, rfl⟩ := List.length_eq_one_iff.mp hlength
  exact ⟨l, r, h, hall l List.mem_cons_self, by decide +kernel⟩

end Compiles

end HttpRouting
