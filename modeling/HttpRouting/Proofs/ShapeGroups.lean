import HttpRouting.Proofs.FilledPath
import HttpRouting.Proofs.NodePath

/-!
# What shapes read

The expression of a path follows its shape, and so does what a match of it records. `Shape.Reads`
says which texts a shape has and what each of its groups then covers, without threads, positions or
captures. A group that takes no part covers nothing, and so do the groups inside it.

## Main definitions

* `Shape.Reads` — a shape reads a text, and its groups read parts of that text
* `Shape.value?` — what the last placeholder of a name has read
* `Regex.Records` — captures have been extended by the texts of some groups

## Main results

* `Shape.reads_of_spans`, `Shape.exists_spans_of_reads` — expressions span what their shapes read
* `Shape.isSome_captures?_regex` — the texts that the condition on a path matches
* `Shape.captures?_regex` — the groups that it captures
-/

namespace HttpRouting

open Placeholder Regex

/-- The texts of groups in their order, absent for a group that took no part. -/
abbrev Groups := List (Option (List Char))

/-! ### Records -/

namespace Regex

/-- The text between two offsets. -/
def cut (text : List Char) (span : Nat × Nat) : List Char :=
  (text.drop span.1).take (span.2 - span.1)

/-- The text of the group with an index, where `gs` are the texts of the groups behind `n`. -/
def groupAt (n : Nat) (gs : Groups) (i : Nat) : Option (List Char) :=
  if i ≤ n then none else (gs[i - n - 1]?).join

/-- The second captures are the first ones, with the given texts for the groups behind `n`. -/
structure Records (text : List Char) (n : Nat) (gs : Groups) (c c' : Captures) : Prop where
  /-- The groups up to `n` have not been started anew. -/
  starts : ∀ i ≤ n, c'.starts.lookup i = c.starts.lookup i
  /-- The groups behind `n` cover their texts. -/
  spans : ∀ i, (c'.spans.lookup i).map (cut text) =
    (groupAt n gs i).or ((c.spans.lookup i).map (cut text))

variable {text pre mid post : List Char} {n k i : Nat} {gs gs' : Groups} {c c₁ c' : Captures}

theorem cut_append (pre mid post : List Char) :
    cut (pre ++ mid ++ post) (pre.length, (pre ++ mid).length) = mid := by
  rw [cut, List.append_assoc, List.drop_left, List.length_append, Nat.add_sub_cancel_left,
    List.take_left]

theorem groupAt_replicate (n k i : Nat) : groupAt n (List.replicate k none) i = none := by
  unfold groupAt
  split
  · rfl
  · rw [List.getElem?_replicate]
    split <;> rfl

theorem groupAt_append (n : Nat) (gs gs' : Groups) (i : Nat) :
    groupAt n (gs ++ gs') i = (groupAt (n + gs.length) gs' i).or (groupAt n gs i) := by
  unfold groupAt
  by_cases hn : i ≤ n
  · rw [if_pos hn, if_pos (by omega), if_pos hn]
    rfl
  · by_cases hlen : i ≤ n + gs.length
    · rw [if_neg hn, if_pos hlen, if_neg hn, List.getElem?_append_left (by omega), Option.none_or]
    · have hnone : gs[i - n - 1]? = none := List.getElem?_eq_none (by omega)
      have hindex : i - n - 1 - gs.length = i - (n + gs.length) - 1 := by omega
      rw [if_neg hn, if_neg hlen, if_neg hn, List.getElem?_append_right (by omega), hnone, hindex]
      exact Option.or_none.symm

theorem groupAt_cons (n : Nat) (g : Option (List Char)) (gs : Groups) (i : Nat) :
    groupAt n (g :: gs) i = if i = n + 1 then g else groupAt (n + 1) gs i := by
  unfold groupAt
  by_cases hi : i = n + 1
  · have hindex : i - n - 1 = 0 := by omega
    rw [if_pos hi, if_neg (by omega), hindex]
    rfl
  · rw [if_neg hi]
    by_cases hn : i ≤ n
    · rw [if_pos hn, if_pos (by omega)]
    · have hindex : i - n - 1 = i - (n + 1) - 1 + 1 := by omega
      rw [if_neg hn, if_neg (by omega), hindex, List.getElem?_cons_succ]

/-- Groups that take no part leave captures as they are. -/
theorem records_none (text : List Char) (n k : Nat) (c : Captures) :
    Records text n (List.replicate k none) c c where
  starts i _ := rfl
  spans i := by rw [groupAt_replicate, Option.none_or]

theorem Records.append (h : Records text n gs c c₁) (h' : Records text (n + gs.length) gs' c₁ c') :
    Records text n (gs ++ gs') c c' where
  starts i hi := by rw [h'.starts i (by omega), h.starts i hi]
  spans i := by rw [h'.spans, h.spans, groupAt_append, Option.or_assoc]

/-- A group that ends covers what has been read since it started. -/
theorem Records.group
    (h : Records (pre ++ mid ++ post) (n + 1) gs (c.openAt (n + 1) pre.length) c₁) :
    Records (pre ++ mid ++ post) n (some mid :: gs) c
      (c₁.closeAt (n + 1) (pre ++ mid).length) where
  starts i hi := by
    have hne : (i == n + 1) = false := beq_eq_false_iff_ne.mpr (by omega)
    have hopen := h.starts i (by omega)
    rw [Captures.openAt, List.lookup_cons, hne] at hopen
    exact hopen
  spans i := by
    have hstart : (c₁.starts.lookup (n + 1)).getD (pre ++ mid).length = pre.length := by
      rw [h.starts (n + 1) (Nat.le_refl _), Captures.openAt, List.lookup_cons_self]
      rfl
    rw [groupAt_cons, Captures.closeAt, hstart, List.lookup_cons]
    by_cases hi : i = n + 1
    · rw [if_pos hi, beq_iff_eq.mpr hi, Option.some_or]
      exact congrArg some (cut_append pre mid post)
    · rw [if_neg hi, beq_eq_false_iff_ne.mpr hi]
      exact h.spans i

theorem concat_singleton (r : Regex) : concat [r] = r := by
  cases r <;> rfl

end Regex

namespace Shape

/-- A shape reads a text, and its groups read the given texts. -/
def Reads : Shape → List Char → Groups → Prop
  | nil, t, gs => t = [] ∧ gs = []
  | char c, t, gs | escaped c, t, gs => t = [c] ∧ gs = []
  | token _, t, gs => IsPart t ∧ gs = [some t]
  | either, t, gs => (t = [';'] ∨ t = ['/']) ∧ gs = []
  | maybe c, t, gs => (t = [c] ∨ t = []) ∧ gs = []
  | opt s, t, gs =>
    (∃ gs', s.Reads t gs' ∧ gs = some t :: gs') ∨ t = [] ∧ gs = List.replicate (s.groups + 1) none
  | seq s u, t, gs =>
    ∃ t₁ t₂ gs₁ gs₂, t = t₁ ++ t₂ ∧ gs = gs₁ ++ gs₂ ∧ s.Reads t₁ gs₁ ∧ u.Reads t₂ gs₂

variable {s : Shape} {t pre mid post : List Char} {gs : Groups} {n : Nat} {c c' : Captures}

/-- Every group has an entry. -/
theorem Reads.length_eq (h : s.Reads t gs) : gs.length = s.groups := by
  induction s generalizing t gs with
  | opt s ih =>
    rcases h with ⟨gs', hs, rfl⟩ | ⟨-, rfl⟩
    · rw [List.length_cons, ih hs, groups]
    · rw [List.length_replicate, groups]
  | seq s u ihs ihu =>
    obtain ⟨t₁, t₂, gs₁, gs₂, rfl, rfl, hs, hu⟩ := h
    rw [List.length_append, ihs hs, ihu hu, groups]
  | _ =>
    obtain ⟨-, rfl⟩ := h
    rfl

/-- What an expression spans is read by its shape, and recorded. -/
theorem reads_of_spans (h : Spans (concat (s.parts n)) pre mid post c c') :
    ∃ gs, s.Reads mid gs ∧ Records (pre ++ mid ++ post) n gs c c' := by
  -- On the shape, with the groups numbered on from those before; of a part that is left out,
  -- no group takes part.
  induction s generalizing n pre mid post c c' with
  | nil =>
    obtain ⟨rfl, rfl⟩ := spans_concat_nil.mp h
    exact ⟨[], ⟨rfl, rfl⟩, records_none _ n 0 _⟩
  | char a | escaped a =>
    rw [parts, concat_singleton] at h
    obtain ⟨rfl, rfl⟩ := spans_char.mp h
    exact ⟨[], ⟨rfl, rfl⟩, records_none _ n 0 _⟩
  | token name =>
    rw [parts, concat_singleton] at h
    obtain ⟨hne, hmid, rfl⟩ := spans_placeholder.mp h
    exact ⟨[some mid], ⟨⟨hne, hmid⟩, rfl⟩, (records_none _ (n + 1) 0 _).group⟩
  | either =>
    rw [parts, concat_singleton] at h
    obtain ⟨a, ha, rfl, rfl⟩ := spans_chars.mp h
    have hrange : ∀ d : Char, a ∈ CharSet.range d d ↔ a = d := fun d => CharSet.mem_single
    simp only [CharSet.mem_union, CharSet.not_mem_never, hrange, false_or] at ha
    refine ⟨[], ⟨?_, rfl⟩, records_none _ n 0 _⟩
    exact ha.imp (congrArg fun d => [d]) (congrArg fun d => [d])
  | maybe a =>
    rw [parts, concat_singleton] at h
    rcases spans_alt.mp h with h | h
    · obtain ⟨rfl, rfl⟩ := spans_char.mp h
      exact ⟨[], ⟨.inl rfl, rfl⟩, records_none _ n 0 _⟩
    · obtain ⟨rfl, rfl⟩ := spans_empty.mp h
      exact ⟨[], ⟨.inr rfl, rfl⟩, records_none _ n 0 _⟩
  | opt s ih =>
    rw [parts, concat_singleton] at h
    rcases spans_alt.mp h with h | h
    · obtain ⟨c₁, hs, rfl⟩ := spans_group.mp h
      obtain ⟨gs, hreads, hrecords⟩ := ih hs
      exact ⟨some mid :: gs, .inl ⟨gs, hreads, rfl⟩, hrecords.group⟩
    · obtain ⟨rfl, rfl⟩ := spans_empty.mp h
      exact ⟨_, .inr ⟨rfl, rfl⟩, records_none _ n _ _⟩
  | seq s u ihs ihu =>
    obtain ⟨m₁, m₂, c₁, rfl, hs, hu⟩ := spans_concat_append.mp h
    obtain ⟨gs₁, hreads₁, hrecords₁⟩ := ihs hs
    obtain ⟨gs₂, hreads₂, hrecords₂⟩ := ihu hu
    have htext : pre ++ m₁ ++ (m₂ ++ post) = pre ++ (m₁ ++ m₂) ++ post := by simp
    have htext' : pre ++ m₁ ++ m₂ ++ post = pre ++ (m₁ ++ m₂) ++ post := by simp
    rw [htext] at hrecords₁
    rw [htext', ← hreads₁.length_eq] at hrecords₂
    exact ⟨gs₁ ++ gs₂, ⟨m₁, m₂, gs₁, gs₂, rfl, rfl, hreads₁, hreads₂⟩,
      hrecords₁.append hrecords₂⟩

/-- What a shape reads is spanned by its expression. -/
theorem exists_spans_of_reads (h : s.Reads mid gs) :
    ∃ c', Spans (concat (s.parts n)) pre mid post c c' := by
  induction s generalizing n pre mid post c gs with
  | nil =>
    obtain ⟨rfl, -⟩ := h
    exact ⟨c, spans_concat_nil.mpr ⟨rfl, rfl⟩⟩
  | char a | escaped a =>
    obtain ⟨rfl, -⟩ := h
    rw [parts, concat_singleton]
    exact ⟨c, spans_char.mpr ⟨rfl, rfl⟩⟩
  | token name =>
    obtain ⟨⟨hne, hmid⟩, -⟩ := h
    rw [parts, concat_singleton]
    exact ⟨_, spans_placeholder.mpr ⟨hne, hmid, rfl⟩⟩
  | either =>
    rw [parts, concat_singleton]
    obtain ⟨rfl | rfl, -⟩ := h
    · exact ⟨c, spans_chars.mpr ⟨';', by decide, rfl, rfl⟩⟩
    · exact ⟨c, spans_chars.mpr ⟨'/', by decide, rfl, rfl⟩⟩
  | maybe a =>
    rw [parts, concat_singleton]
    obtain ⟨rfl | rfl, -⟩ := h
    · exact ⟨c, spans_alt.mpr (.inl (spans_char.mpr ⟨rfl, rfl⟩))⟩
    · exact ⟨c, spans_alt.mpr (.inr (spans_empty.mpr ⟨rfl, rfl⟩))⟩
  | opt s ih =>
    rw [parts, concat_singleton]
    rcases h with ⟨gs', hs, -⟩ | ⟨rfl, -⟩
    · obtain ⟨c', hspans⟩ := ih hs
      exact ⟨_, spans_alt.mpr (.inl (spans_group.mpr ⟨c', hspans, rfl⟩))⟩
    · exact ⟨c, spans_alt.mpr (.inr (spans_empty.mpr ⟨rfl, rfl⟩))⟩
  | seq s u ihs ihu =>
    obtain ⟨t₁, t₂, gs₁, gs₂, rfl, -, hs, hu⟩ := h
    obtain ⟨c₁, hs⟩ := ihs hs
    obtain ⟨c₂, hu⟩ := ihu hu
    exact ⟨c₂, spans_concat_append.mpr ⟨t₁, t₂, c₁, rfl, hs, hu⟩⟩

/-- The condition on a path matches the texts that its shape reads. -/
theorem isSome_captures?_regex {text : String} :
    (s.regex.captures? text).isSome = true ↔ ∃ gs, s.Reads text.toList gs := by
  rw [← String.ofList_toList (s := text), isSome_captures?, String.toList_ofList]
  constructor
  · rintro ⟨c, hc⟩
    obtain ⟨c', hspans, -⟩ := found_regex.mp hc
    obtain ⟨gs, hreads, -⟩ := reads_of_spans hspans
    exact ⟨gs, hreads⟩
  · rintro ⟨gs, hreads⟩
    obtain ⟨c', hspans⟩ := exists_spans_of_reads hreads
    exact ⟨_, found_regex.mpr ⟨c', hspans, rfl⟩⟩

/-- A match of the condition on a path captures the whole text, and then what the groups of its
shape read. -/
theorem captures?_regex {text : String} {groups : List (Option String)}
    (h : s.regex.captures? text = some groups) :
    ∃ gs, s.Reads text.toList gs ∧ groups = some text :: gs.map (Option.map String.ofList) := by
  obtain ⟨c, hsearch, rfl⟩ := Option.map_eq_some_iff.mp h
  obtain ⟨c', hspans, rfl⟩ := found_regex.mp (found_of_search? hsearch)
  obtain ⟨gs, hreads, hrecords⟩ := reads_of_spans hspans
  rw [List.nil_append, List.append_nil] at hrecords
  refine ⟨gs, hreads, ?_⟩
  have hcut : (fun span : Nat × Nat => String.ofList ((text.toList.drop span.1).take
      (span.2 - span.1))) = String.ofList ∘ cut text.toList := rfl
  rw [groupCount_regex, ← hreads.length_eq, List.range_succ_eq_map, List.map_cons, List.map_map]
  congr 1
  -- The whole match is group 0, which has been open from the start of the text.
  · have hstart : c'.starts.lookup 0 = some 0 := hrecords.starts 0 (Nat.le_refl 0)
    simp [Captures.closeAt, hstart]
  · apply List.ext_getElem?
    intro i
    have hspans := hrecords.spans (i + 1)
    have hgroup : groupAt 0 gs (i + 1) = (gs[i]?).join := rfl
    have hnone : (({} : Captures).openAt 0 0).spans.lookup (i + 1) = none := rfl
    have hclose : (c'.closeAt 0 text.toList.length).spans.lookup (i + 1) =
        c'.spans.lookup (i + 1) := rfl
    rw [hgroup, hnone, Option.map_none, Option.or_none] at hspans
    by_cases hi : i < gs.length
    · rw [List.getElem?_map, List.getElem?_map, List.getElem?_range hi,
        List.getElem?_eq_getElem hi] at *
      simp only [Option.map_some, Function.comp_apply, Nat.succ_eq_add_one, hclose, hcut,
        ← Option.map_map, hspans]
      rfl
    · have hlength := Nat.le_of_not_lt hi
      rw [List.getElem?_eq_none (by simpa using hlength),
        List.getElem?_eq_none (by simpa using hlength)]

/-! ### Texts and formats -/

section Texts

variable {escape : Bool} {xs : Tokens} {t : List Char} {gs : Groups}

theorem reads_ofTokens_nil : (ofTokens escape []).Reads t gs ↔ t = [] ∧ gs = [] := Iff.rfl

theorem reads_ofTokens_inl {c : Char} : (ofTokens escape (.inl c :: xs)).Reads t gs ↔
    ∃ t', t = c :: t' ∧ (ofTokens escape xs).Reads t' gs := by
  have hchar : ∀ t₁ gs₁, (if escape && isMeta c then escaped c else char c).Reads t₁ gs₁ ↔
      t₁ = [c] ∧ gs₁ = [] := by
    intro t₁ gs₁
    split <;> exact Iff.rfl
  rw [ofTokens]
  constructor
  · rintro ⟨t₁, t₂, gs₁, gs₂, rfl, rfl, h, hrest⟩
    obtain ⟨rfl, rfl⟩ := (hchar t₁ gs₁).mp h
    exact ⟨t₂, rfl, hrest⟩
  · rintro ⟨t', rfl, hrest⟩
    exact ⟨[c], t', [], gs, rfl, rfl, (hchar _ _).mpr ⟨rfl, rfl⟩, hrest⟩

theorem reads_ofTokens_inr {name : Option (List Char)} :
    (ofTokens escape (.inr name :: xs)).Reads t gs ↔
      ∃ v t' gs', IsPart v ∧ t = v ++ t' ∧ gs = some v :: gs' ∧
        (ofTokens escape xs).Reads t' gs' := by
  constructor
  · rintro ⟨v, t', _, gs', rfl, rfl, ⟨hv, rfl⟩, hrest⟩
    exact ⟨v, t', gs', hv, rfl, rfl, hrest⟩
  · rintro ⟨v, t', gs', hv, rfl, rfl, hrest⟩
    exact ⟨v, t', [some v], gs', rfl, rfl, ⟨hv, rfl⟩, hrest⟩

/-- A text without placeholders reads itself. -/
theorem reads_ofTokens_map_inl {cs : List Char} :
    (ofTokens escape (cs.map .inl)).Reads t gs ↔ t = cs ∧ gs = [] := by
  induction cs generalizing t with
  | nil => exact reads_ofTokens_nil
  | cons c cs ih =>
    rw [List.map_cons, reads_ofTokens_inl]
    simp only [ih]
    constructor
    · rintro ⟨_, rfl, rfl, rfl⟩
      exact ⟨rfl, rfl⟩
    · rintro ⟨rfl, rfl⟩
      exact ⟨cs, rfl, rfl, rfl⟩

/-- The text of a format that may be absent. -/
def formatText (fmt : Option (List Char)) : List Char := (fmt.map ('.' :: ·)).getD []

/-- What the two groups of a format that may be absent read. -/
def formatGroups (fmt : Option (List Char)) : Groups := [fmt.map ('.' :: ·), fmt]

theorem reads_format : format.Reads t gs ↔
    ∃ fmt : Option (List Char), (∀ f ∈ fmt, IsPart f) ∧ t = formatText fmt ∧
      gs = formatGroups fmt := by
  constructor
  · rintro (⟨_, ⟨_, f, _, _, rfl, rfl, ⟨rfl, rfl⟩, hf, rfl⟩, rfl⟩ | ⟨rfl, rfl⟩)
    · refine ⟨some f, fun f' hf' => ?_, rfl, rfl⟩
      obtain rfl := Option.some.inj hf'
      exact hf
    · exact ⟨none, nofun, rfl, rfl⟩
  · rintro ⟨fmt, hfmt, rfl, rfl⟩
    cases fmt with
    | none => exact .inr ⟨rfl, rfl⟩
    | some f =>
      exact .inl ⟨[some f], ⟨['.'], f, [], [some f], rfl, rfl, ⟨rfl, rfl⟩, hfmt f rfl, rfl⟩, rfl⟩

end Texts

/-! ### Values -/

/-- The text that the last placeholder of a name has read, if there is one and it took part. -/
def value? (s : Shape) (gs : Groups) (name : List Char) : Option (List Char) :=
  (lastGroup name s.pieces).bind fun i => (gs[i - 1]?).join

theorem lastGroup_bounds {name : List Char} {ps : List Piece} {i : Nat}
    (h : lastGroup name ps = some i) : 1 ≤ i ∧ i ≤ ps.countP (·.opensGroup) := by
  induction ps generalizing i with
  | nil => cases h
  | cons p ps ih =>
    have hshift : ∀ {i : Nat}, (lastGroup name ps).map (· + 1) = some i →
        1 ≤ i ∧ i ≤ ps.countP (·.opensGroup) + 1 := by
      intro i h
      obtain ⟨j, hj, rfl⟩ := Option.map_eq_some_iff.mp h
      exact ⟨Nat.le_add_left 1 j, Nat.succ_le_succ (ih hj).2⟩
    cases p with
    | char c =>
      rw [List.countP_cons_of_neg Bool.false_ne_true]
      exact ih h
    | opening =>
      rw [List.countP_cons_of_pos rfl]
      exact hshift h
    | token n =>
      rw [List.countP_cons_of_pos rfl]
      rcases Option.or_eq_some_iff.mp h with h | ⟨-, h⟩
      · exact hshift h
      · split at h
        · obtain rfl := Option.some.inj h
          exact ⟨Nat.le_refl 1, Nat.le_add_left 1 _⟩
        · cases h

variable {s u : Shape} {gs gs' : Groups} {name : List Char}

theorem value?_eq_none (h : .token (some name) ∉ s.pieces) : s.value? gs name = none := by
  rw [value?, lastGroup_eq_none h, Option.bind_none]

/-- Placeholders of the second part hide those of the first. -/
theorem value?_seq (h : gs.length = s.groups) :
    (seq s u).value? (gs ++ gs') name =
      if .token (some name) ∈ u.pieces then u.value? gs' name else s.value? gs name := by
  rw [value?, pieces, lastGroup_append, countP_opensGroup_pieces]
  split
  · next hmem =>
    obtain ⟨j, hj⟩ := Option.isSome_iff_exists.mp (isSome_lastGroup.mpr hmem)
    have hbounds := lastGroup_bounds hj
    have hindex : j + s.groups - 1 - gs.length = j - 1 := by omega
    rw [value?, hj, Option.map_some, Option.some_or, Option.bind_some, Option.bind_some,
      List.getElem?_append_right (by omega), hindex]
  · next hmem =>
    rw [lastGroup_eq_none hmem, Option.map_none, Option.none_or, value?]
    refine Option.bind_congr fun i hi => ?_
    have hbounds := lastGroup_bounds hi
    rw [countP_opensGroup_pieces] at hbounds
    rw [List.getElem?_append_left (by omega)]

/-- A text without placeholders has no values. -/
theorem value?_ofTokens_map_inl {escape : Bool} {cs : List Char} :
    (seq (ofTokens escape (cs.map .inl)) u).value? gs name = u.value? gs name := by
  have hnone : ∀ n, .token n ∉ (ofTokens escape (cs.map .inl)).pieces := by
    intro n hn
    simpa using token_mem_pieces_ofTokens.mp hn
  have hlength : ([] : Groups).length = (ofTokens escape (cs.map .inl)).groups := by
    rw [groups_ofTokens, List.countP_map]
    exact (List.countP_eq_zero.mpr fun c _ => Bool.false_ne_true).symm
  refine (@value?_seq _ _ [] gs _ hlength).trans ?_
  split
  · rfl
  · next hmem =>
    rw [value?_eq_none hmem, value?_eq_none (hnone _)]

end Shape

end HttpRouting
