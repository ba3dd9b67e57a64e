import HttpRouting.Proofs.MethodConditions

/-!
# Stems of paths

A path falls into steps, each of them a separator and the characters up to the next one, with a
format at the end that may be absent. The steps without the format are the stem of the path. A path
has one stem and one format, so paths that different routes read can be told apart by their stems.

## Main definitions

* `Stem`, `Stem.text` — steps, and the text that they make
* `ResourcePath` — the paths below a plural resource
* `ResourcePath.HasStem`, `ResourcePath.Covers` — the stems of such a path
* `ResourcePath.Reaches` — such a path leads to the path of a request

## Main results

* `Stem.text_append_inj` — a path has one stem and one format
* `ResourcePath.describes` — the shape of the condition on such a path
* `ResourcePath.exists_covers_of_reads`, `ResourcePath.exists_reads_of_covers` — what it reads
* `ResourcePath.Reaches.exists_common` — paths that lead to the same place have the same stem
-/

namespace HttpRouting

open Placeholder Shape

/-! ### Words -/

section Words

variable {w : String}

theorem isPlain_of_isWord (h : isWord w = true) : Template.IsPlain w := by
  intro c hc
  have hword := List.all_eq_true.mp (Bool.and_eq_true_iff.mp h).2 c hc
  constructor
  · rintro rfl
    exact absurd hword (by decide)
  · rintro rfl
    exact absurd hword (by decide)

theorem colon_not_mem_of_isWord (h : isWord w = true) : ':' ∉ w.toList :=
  fun hmem => (isPlain_of_isWord h ':' hmem).1 rfl

/-- Words are parts of a path. -/
theorem isPart_of_isWord (h : isWord w = true) : IsPart w.toList := by
  obtain ⟨hne, hall⟩ := Bool.and_eq_true_iff.mp h
  refine ⟨fun hnil => ?_, fun c hc hseparator => ?_⟩
  · obtain rfl := String.toList_eq_nil_iff.mp hnil
    cases hne
  · have hseparators : ∀ d ∈ separators, ¬(d.isAlphanum || d == '_' || d == '-') = true :=
      List.all_iff_forall_prop.mp (by decide)
    exact hseparators c hseparator (List.all_eq_true.mp hall c hc)

theorem ne_empty_of_isWord (h : isWord w = true) : w ≠ "" :=
  fun heq => (isPart_of_isWord h).1 (by rw [heq]; rfl)

end Words

/-! ### Stems -/

/-- Separators, each with the characters up to the next one. -/
abbrev Stem := List (Char × List Char)

namespace Stem

/-- The text of the steps. -/
def text (s : Stem) : List Char := s.flatMap fun p => p.1 :: p.2

/-- Every step starts with a separator, which is not the dot of a format, and has no other. -/
def Proper (s : Stem) : Prop := ∀ p ∈ s, IsSeparator p.1 ∧ p.1 ≠ '.' ∧ ∀ a ∈ p.2, ¬IsSeparator a

theorem text_cons (p : Char × List Char) (s : Stem) : text (p :: s) = p.1 :: (p.2 ++ text s) := rfl

variable {s s' : Stem} {fmt fmt' : Option (List Char)}

theorem Proper.tail {p : Char × List Char} (h : Proper (p :: s)) : s.Proper :=
  fun q hq => h q (List.mem_cons_of_mem p hq)

/-- What follows a step starts with a separator. -/
theorem Proper.isSeparator_head (h : s.Proper) :
    ∀ a ∈ (s.text ++ formatText fmt).head?, IsSeparator a := by
  cases s with
  | nil =>
    cases fmt with
    | none => nofun
    | some f =>
      intro a ha
      obtain rfl : '.' = a := Option.some.inj ha
      decide
  | cons p s =>
    intro a ha
    obtain rfl : p.1 = a := Option.some.inj ha
    exact (h p List.mem_cons_self).1

/-- A format does not start like a step. -/
theorem Proper.formatText_ne {p : Char × List Char} (h : Proper (p :: s)) {t : List Char} :
    formatText fmt ≠ p.1 :: t := by
  cases fmt with
  | none => nofun
  | some f =>
    intro heq
    exact (h p List.mem_cons_self).2.1 (List.cons.inj heq).1.symm

/-- A path has one stem and one format. -/
theorem text_append_inj (h : s.Proper) (h' : s'.Proper)
    (heq : s.text ++ formatText fmt = s'.text ++ formatText fmt') : s = s' ∧ fmt = fmt' := by
  -- Step by step from the left: a step ends where the next one or the format starts.
  induction s generalizing s' with
  | nil =>
    cases s' with
    | nil =>
      refine ⟨rfl, ?_⟩
      cases fmt with
      | none => cases fmt' with
        | none => rfl
        | some f' => cases heq
      | some f => cases fmt' with
        | none => cases heq
        | some f' => exact congrArg some (List.cons.inj heq).2
    | cons p' s' => exact absurd heq h'.formatText_ne
  | cons p s ih =>
    cases s' with
    | nil => exact absurd heq.symm h.formatText_ne
    | cons p' s' =>
      rw [text_cons, text_cons, List.cons_append, List.cons_append, List.append_assoc,
        List.append_assoc] at heq
      obtain ⟨hfst, hrest⟩ := List.cons.inj heq
      obtain ⟨hsnd, hrest⟩ := append_inj_of_separator (h p List.mem_cons_self).2.2
        (h' p' List.mem_cons_self).2.2 h.tail.isSeparator_head h'.tail.isSeparator_head hrest
      obtain ⟨rfl, rfl⟩ := ih h.tail h'.tail hrest
      exact ⟨congrArg (· :: s) (Prod.ext hfst hsnd), rfl⟩

/-- Steps that start with a slash. -/
def slashed (steps : List (List Char)) : Stem := steps.map ('/', ·)

theorem proper_slashed {steps : List (List Char)} (h : ∀ v ∈ steps, IsPart v) :
    (slashed steps).Proper :=
  have hslash : IsSeparator '/' ∧ '/' ≠ '.' := by decide
  List.forall_mem_map.mpr fun v hv => ⟨hslash.1, hslash.2, (h v hv).2⟩

theorem slashed_inj {steps steps' : List (List Char)} (h : slashed steps = slashed steps') :
    steps = steps' :=
  List.map_injective_iff.mpr (fun _ _ heq => (Prod.mk.inj heq).2) h

end Stem

/-! ### Formats -/

namespace Shape

variable {s : Shape} {t : List Char} {gs : Groups}

/-- A path with a format that may be absent. -/
theorem reads_seq_format : (seq s format).Reads t gs ↔
    ∃ t' gs' fmt, (∀ f ∈ fmt, IsPart f) ∧ t = t' ++ formatText fmt ∧ gs = gs' ++ formatGroups fmt ∧
      s.Reads t' gs' := by
  constructor
  · rintro ⟨t', _, gs', _, rfl, rfl, hs, hformat⟩
    obtain ⟨fmt, hfmt, rfl, rfl⟩ := reads_format.mp hformat
    exact ⟨t', gs', fmt, hfmt, rfl, rfl, hs⟩
  · rintro ⟨t', gs', fmt, hfmt, rfl, rfl, hs⟩
    exact ⟨t', _, gs', _, rfl, rfl, hs, reads_format.mpr ⟨fmt, hfmt, rfl, rfl⟩⟩

theorem value?_format (fmt : Option (List Char)) :
    format.value? (formatGroups fmt) "format".toList = fmt := by
  cases fmt <;> rfl

/-- The format of a path hides no other placeholder. -/
theorem value?_seq_format (h : gs.length = s.groups) (fmt : Option (List Char)) :
    (seq s format).value? (gs ++ formatGroups fmt) "format".toList = fmt ∧
      (seq s format).value? (gs ++ formatGroups fmt) "id".toList = s.value? gs "id".toList := by
  constructor
  · rw [value?_seq h, if_pos (by decide), value?_format]
  · rw [value?_seq h, if_neg (by decide)]

end Shape

/-! ### Paths of resources -/

/-- A path below a plural resource whose members have an identifier. -/
inductive ResourcePath where
  /-- The collection. -/
  | collection
  /-- A word below the collection, and nothing behind it. -/
  | only (word : String)
  /-- A word below the collection. -/
  | word (word : String)
  /-- A member. -/
  | member
  /-- A word below a member. -/
  | below (word : String)
  /-- A word below a member or behind a semicolon, and nothing behind it. -/
  | either (word : String)
deriving DecidableEq, Repr

namespace ResourcePath

/-- The pattern of the path. -/
def pattern : ResourcePath → String
  | collection => "^/?(\\.:format)?$"
  | only w => "^/" ++ w ++ "$"
  | word w => ResourceScope.actionPath "" w
  | member => "^/:id(\\.:format)?$"
  | below w => ResourceScope.actionPath "/:id" w
  | either w => "^/:id[;/]" ++ w ++ "$"

/-- Whether a format may follow. -/
def hasFormat : ResourcePath → Bool
  | collection | word _ | member | below _ => true
  | only _ | either _ => false

/-- The shape of the path without its format. -/
def stemShape : ResourcePath → Shape
  | collection => .maybe '/'
  | only w | word w => ofText false ('/' :: w.toList)
  | member => ofText false "/:id".toList
  | below w => ofText false ("/:id/".toList ++ w.toList)
  | either w => seq (ofText false "/:id".toList) (seq .either (ofText false w.toList))

/-- The shape of the path. -/
def shape (p : ResourcePath) : Shape := if p.hasFormat then seq p.stemShape format else p.stemShape

/-- The paths that resources declare: further actions are words, and the standard ones are given. -/
def Accepted : ResourcePath → Prop
  | collection | member => True
  | only w => w = "new"
  | word w | below w => isWord w = true
  | either w => w = "edit" ∨ w = "delete"

/-- The stems of the path, with the identifier of the member that they lead to. -/
inductive HasStem : ResourcePath → Option (List Char) → Stem → Prop where
  /-- The collection without a slash behind it. -/
  | collection : HasStem .collection none []
  /-- The collection with a slash behind it. -/
  | slash : HasStem .collection none [('/', [])]
  /-- A word, and nothing behind it. -/
  | only (w : String) : HasStem (.only w) none [('/', w.toList)]
  /-- A word. -/
  | word (w : String) : HasStem (.word w) none [('/', w.toList)]
  /-- A member. -/
  | member {i : List Char} (hi : IsPart i) : HasStem .member (some i) [('/', i)]
  /-- A word below a member. -/
  | below {i : List Char} (hi : IsPart i) (w : String) :
      HasStem (.below w) (some i) [('/', i), ('/', w.toList)]
  /-- A word below a member or behind a semicolon. -/
  | either {i : List Char} (hi : IsPart i) {c : Char} (hc : c = ';' ∨ c = '/') (w : String) :
      HasStem (.either w) (some i) [('/', i), (c, w.toList)]

/-- The path covers a text with a stem, an identifier and a format. -/
structure Covers (p : ResourcePath) (id fmt : Option (List Char)) (s : Stem) : Prop where
  /-- The stem is one of the path. -/
  stem : p.HasStem id s
  /-- The format is a part. -/
  format : ∀ f ∈ fmt, IsPart f
  /-- There is a format only where there may be one. -/
  hasFormat : fmt.isSome = true → p.hasFormat = true

variable {p : ResourcePath} {id fmt : Option (List Char)} {s : Stem} {t : List Char} {gs : Groups}

/-- Without a format, a path covers its stems. -/
theorem Covers.of_stem (h : p.HasStem id s) : p.Covers id none s where
  stem := h
  format := nofun
  hasFormat := nofun

/-- The word of the path, if it has one. -/
def word? : ResourcePath → Option String
  | collection | member => none
  | only w | word w | below w | either w => some w

theorem Accepted.isWord (h : p.Accepted) : ∀ w ∈ p.word?, isWord w = true := by
  intro w hw
  cases p with
  | collection => cases hw
  | member => cases hw
  | only =>
    obtain rfl := Option.some.inj hw
    obtain rfl := h
    decide
  | word =>
    obtain rfl := Option.some.inj hw
    exact h
  | below =>
    obtain rfl := Option.some.inj hw
    exact h
  | either =>
    obtain rfl := Option.some.inj hw
    rcases h with rfl | rfl <;> decide

/-- Stems are proper. -/
theorem HasStem.proper (hp : p.Accepted) (h : p.HasStem id s) : s.Proper := by
  have hslash : IsSeparator '/' ∧ '/' ≠ '.' := by decide
  have hsemicolon : IsSeparator ';' ∧ ';' ≠ '.' := by decide
  have hstep : ∀ {v : List Char}, IsPart v →
      IsSeparator '/' ∧ '/' ≠ '.' ∧ ∀ a ∈ v, ¬IsSeparator a :=
    fun hv => ⟨hslash.1, hslash.2, hv.2⟩
  cases h with
  | collection => exact fun q hq => nomatch hq
  | slash => exact List.forall_mem_singleton.mpr ⟨hslash.1, hslash.2, nofun⟩
  | only w => exact List.forall_mem_singleton.mpr (hstep (isPart_of_isWord (hp.isWord w rfl)))
  | word w => exact List.forall_mem_singleton.mpr (hstep (isPart_of_isWord (hp.isWord w rfl)))
  | member hi => exact List.forall_mem_singleton.mpr (hstep hi)
  | below hi w =>
    exact List.forall_mem_cons.mpr ⟨hstep hi,
      List.forall_mem_singleton.mpr (hstep (isPart_of_isWord (hp.isWord w rfl)))⟩
  | either hi hc w =>
    have hword := isPart_of_isWord (hp.isWord w rfl)
    refine List.forall_mem_cons.mpr ⟨hstep hi, List.forall_mem_singleton.mpr ?_⟩
    rcases hc with rfl | rfl
    · exact ⟨hsemicolon.1, hsemicolon.2, hword.2⟩
    · exact hstep hword

/-! ### Conditions -/

theorem checkActions_singleton {w : String} (h : isWord w = true) (kind : ActionKind) :
    ResourceOptions.checkActions "" kind [] [(w, .single .get)] = .ok () := by
  rw [ResourceOptions.checkActions, h]
  rfl

/-- Declarations make the condition on the path. -/
theorem Accepted.declared (hp : p.Accepted) : (Condition.pattern p.pattern).Declared := by
  have hplural : ∀ {path : String} (action : String) (method : Method),
      (path, method, action) ∈ Behavior.pluralActions ":id" →
        (Condition.pattern path).Declared :=
    fun _ _ hmem => @Condition.Declared.plural "" _ _ _ {} rfl hmem
  cases p with
  | collection => exact hplural "index" .get (by decide)
  | member => exact hplural "show" .get (by decide)
  | only w =>
    obtain rfl := hp
    exact hplural "new" .get (by decide)
  | either w =>
    rcases hp with rfl | rfl
    · exact hplural "edit" .get (by decide)
    · exact hplural "delete" .get (by decide)
  | word w =>
    exact .collection (checkActions_singleton hp .collection) List.mem_cons_self
  | below w =>
    exact @Condition.Declared.member "" _ _ _ { member := [(w, .single .get)] } rfl
      (checkActions_singleton hp .member) List.mem_cons_self

/-- The condition on the path has its shape. -/
theorem Accepted.describes (hp : p.Accepted) : p.shape.Describes (.pattern p.pattern) := by
  have hslash : ∀ {cs : List Char}, (∀ c ∈ cs, Ordinary c) → ∀ c ∈ '/' :: cs, Ordinary c :=
    fun h => List.forall_mem_cons.mpr ⟨ordinary_slash, h⟩
  have hid : ∀ c ∈ "/:id".toList, Ordinary c := List.all_iff_forall_prop.mp (by decide)
  cases p with
  | collection => exact describes_collection
  | only w =>
    exact describes_plain _ (hslash (ordinary_of_isWord (hp.isWord w rfl))) (by simp [pattern])
  | word w =>
    exact describes_formatted (hslash (ordinary_of_isWord (hp.isWord w rfl)))
      (by simp [pattern, ResourceScope.actionPath])
  | member => exact describes_formatted hid rfl
  | below w =>
    have hstart : ∀ c ∈ "/:id/".toList, Ordinary c := List.all_iff_forall_prop.mp (by decide)
    have hword := ordinary_of_isWord (hp.isWord w rfl)
    exact describes_formatted (List.forall_mem_append.mpr ⟨hstart, hword⟩)
      (by simp [pattern, ResourceScope.actionPath])
  | either w =>
    exact describes_either _ hid (ordinary_of_isWord (hp.isWord w rfl)) (by simp [pattern])

theorem isEmptyPath_pattern (p : ResourcePath) :
    (Condition.pattern p.pattern).isEmptyPath = false := by
  obtain ⟨cs, hcs⟩ : ∃ cs, p.pattern.toList = '^' :: '/' :: cs := by
    cases p with
    | collection | member => exact ⟨_, rfl⟩
    | only w | word w | below w | either w =>
      simp [pattern, ResourceScope.actionPath]
  rw [Condition.isEmptyPath, Condition.text, Bool.or_eq_false_iff, beq_eq_false_iff_ne,
    beq_eq_false_iff_ne, Ne, Ne, ← String.toList_inj, ← String.toList_inj, hcs]
  exact ⟨List.cons_ne_nil _ _, fun heq =>
    absurd (List.cons.inj (List.cons.inj heq).2).1 (by decide)⟩

/-! ### Readings -/

section Tokens

variable {w : String}

theorem tokens_word (h : isWord w = true) :
    Segment.tokens ('/' :: w.toList) = ('/' :: w.toList).map .inl :=
  Segment.tokens_of_plain fun hmem => (List.mem_cons.mp hmem).elim (by decide)
    (colon_not_mem_of_isWord h)

theorem tokens_member : Segment.tokens "/:id".toList =
    .inl '/' :: .inr (some "id".toList) :: ([] : List Char).map .inl := by
  decide +kernel

theorem tokens_below (h : isWord w = true) : Segment.tokens ("/:id/".toList ++ w.toList) =
    .inl '/' :: .inr (some "id".toList) :: ('/' :: w.toList).map .inl := by
  have htoken : token? ("id/".toList ++ w.toList) = some (some "id".toList, '/' :: w.toList) := rfl
  have htext : "/:id/".toList ++ w.toList = '/' :: ':' :: ("id/".toList ++ w.toList) := rfl
  rw [htext, Segment.tokens_cons (by simp), Segment.tokens_token htoken, tokens_word h]

variable {cs : List Char}

/-- A member, with a text behind it. -/
theorem reads_member :
    (ofTokens false (.inl '/' :: .inr (some "id".toList) :: cs.map .inl)).Reads t gs ↔
      ∃ i, IsPart i ∧ t = '/' :: (i ++ cs) ∧ gs = [some i] := by
  rw [reads_ofTokens_inl]
  constructor
  · rintro ⟨_, rfl, h⟩
    obtain ⟨i, _, _, hi, rfl, rfl, hrest⟩ := reads_ofTokens_inr.mp h
    obtain ⟨rfl, rfl⟩ := reads_ofTokens_map_inl.mp hrest
    exact ⟨i, hi, rfl, rfl⟩
  · rintro ⟨i, hi, rfl, rfl⟩
    exact ⟨_, rfl, reads_ofTokens_inr.mpr
      ⟨i, cs, [], hi, rfl, rfl, reads_ofTokens_map_inl.mpr ⟨rfl, rfl⟩⟩⟩

theorem not_token_mem_map_inl {name : Option (List Char)} :
    .token name ∉ (ofTokens false (cs.map .inl)).pieces := by
  intro h
  simpa using token_mem_pieces_ofTokens.mp h

theorem value?_member (i : List Char) :
    (ofTokens false (.inl '/' :: .inr (some "id".toList) :: cs.map .inl)).value? [some i]
      "id".toList = some i := by
  have hgroup : lastGroup "id".toList
      (ofTokens false (.inl '/' :: .inr (some "id".toList) :: cs.map .inl)).pieces = some 1 :=
    @lastGroup_split _ _ [.char '/'] _ rfl not_token_mem_map_inl
  rw [value?, hgroup]
  rfl

end Tokens

/-- The only placeholder of a path without its format is the identifier. -/
theorem eq_of_token_mem_stemShape (hp : p.Accepted) {name : Option (List Char)}
    (h : .token name ∈ p.stemShape.pieces) : name = some "id".toList := by
  have hmember : ∀ {cs : List Char}, .token name ∈
      (ofTokens false (.inl '/' :: .inr (some "id".toList) :: cs.map .inl)).pieces →
        name = some "id".toList := by
    intro cs hname
    simpa using token_mem_pieces_ofTokens.mp hname
  cases p with
  | collection => simp [stemShape, Shape.pieces] at h
  | only w | word w =>
    rw [stemShape, ofText, tokens_word (hp.isWord w rfl)] at h
    exact absurd h not_token_mem_map_inl
  | member =>
    rw [stemShape, ofText, tokens_member] at h
    exact hmember h
  | below w =>
    rw [stemShape, ofText, tokens_below (hp.isWord w rfl)] at h
    exact hmember h
  | either w =>
    rw [stemShape, ofText, ofText, tokens_member,
      Segment.tokens_of_plain (colon_not_mem_of_isWord (hp.isWord w rfl))] at h
    rcases List.mem_append.mp h with h | h
    · exact hmember h
    · exact absurd (by simpa [Shape.pieces] using h) (@not_token_mem_map_inl w.toList _)

/-- The only placeholders of a path are the identifier and the format. -/
theorem eq_of_token_mem_shape (hp : p.Accepted) {name : List Char}
    (h : .token (some name) ∈ p.shape.pieces) : name = "id".toList ∨ name = "format".toList := by
  unfold shape at h
  split at h
  · rcases List.mem_append.mp h with h | h
    · exact .inl (Option.some.inj (eq_of_token_mem_stemShape hp h))
    · refine .inr ?_
      simpa [format, Shape.pieces] using h
  · exact .inl (Option.some.inj (eq_of_token_mem_stemShape hp h))

/-- A path without its format reads its stems, and the identifier is that of the stem. -/
theorem exists_hasStem_of_reads (hp : p.Accepted) (h : p.stemShape.Reads t gs) :
    ∃ s, p.HasStem (p.stemShape.value? gs "id".toList) s ∧ t = s.text := by
  -- One case for each path: its tokens are known, and so is what they read.
  cases p with
  | collection =>
    obtain ⟨rfl | rfl, rfl⟩ := h
    · exact ⟨_, .slash, rfl⟩
    · exact ⟨_, .collection, rfl⟩
  | only w =>
    rw [stemShape, ofText, tokens_word (hp.isWord w rfl)] at h ⊢
    obtain ⟨rfl, rfl⟩ := reads_ofTokens_map_inl.mp h
    rw [value?_eq_none not_token_mem_map_inl]
    exact ⟨_, .only w, by simp [Stem.text]⟩
  | word w =>
    rw [stemShape, ofText, tokens_word (hp.isWord w rfl)] at h ⊢
    obtain ⟨rfl, rfl⟩ := reads_ofTokens_map_inl.mp h
    rw [value?_eq_none not_token_mem_map_inl]
    exact ⟨_, .word w, by simp [Stem.text]⟩
  | member =>
    rw [stemShape, ofText, tokens_member] at h ⊢
    obtain ⟨i, hi, rfl, rfl⟩ := reads_member.mp h
    rw [value?_member]
    exact ⟨_, .member hi, rfl⟩
  | below w =>
    rw [stemShape, ofText, tokens_below (hp.isWord w rfl)] at h ⊢
    obtain ⟨i, hi, rfl, rfl⟩ := reads_member.mp h
    rw [value?_member]
    exact ⟨_, .below hi w, by simp [Stem.text]⟩
  | either w =>
    rw [stemShape, ofText, ofText, tokens_member,
      Segment.tokens_of_plain (colon_not_mem_of_isWord (hp.isWord w rfl))] at h ⊢
    obtain ⟨_, _, _, _, rfl, rfl, hmember, c, _, _, _, rfl, rfl, ⟨hc, rfl⟩, hword⟩ := h
    obtain ⟨i, hi, rfl, rfl⟩ := reads_member.mp hmember
    obtain ⟨rfl, rfl⟩ := reads_ofTokens_map_inl.mp hword
    have hnone : .token (some "id".toList) ∉
        (seq .either (ofTokens false (w.toList.map .inl))).pieces := by
      simpa [Shape.pieces] using @not_token_mem_map_inl w.toList _
    have hlength : [some i].length = (ofTokens false
        (.inl '/' :: .inr (some "id".toList) :: ([] : List Char).map .inl)).groups := rfl
    rw [value?_seq hlength, if_neg hnone, value?_member]
    rcases hc with rfl | rfl
    · exact ⟨_, .either hi (.inl rfl) w, by simp [Stem.text]⟩
    · exact ⟨_, .either hi (.inr rfl) w, by simp [Stem.text]⟩

/-- Every stem is read. -/
theorem exists_reads_of_hasStem (hp : p.Accepted) (h : p.HasStem id s) :
    ∃ gs, p.stemShape.Reads s.text gs := by
  cases h with
  | collection => exact ⟨[], .inr rfl, rfl⟩
  | slash => exact ⟨[], .inl rfl, rfl⟩
  | only w =>
    rw [stemShape, ofText, tokens_word (hp.isWord w rfl)]
    exact ⟨[], reads_ofTokens_map_inl.mpr ⟨by simp [Stem.text], rfl⟩⟩
  | word w =>
    rw [stemShape, ofText, tokens_word (hp.isWord w rfl)]
    exact ⟨[], reads_ofTokens_map_inl.mpr ⟨by simp [Stem.text], rfl⟩⟩
  | @member i hi =>
    rw [stemShape, ofText, tokens_member]
    exact ⟨_, reads_member.mpr ⟨i, hi, rfl, rfl⟩⟩
  | @below i hi w =>
    rw [stemShape, ofText, tokens_below (hp.isWord w rfl)]
    exact ⟨_, reads_member.mpr ⟨i, hi, by simp [Stem.text], rfl⟩⟩
  | @either i hi c hc w =>
    rw [stemShape, ofText, ofText, tokens_member,
      Segment.tokens_of_plain (colon_not_mem_of_isWord (hp.isWord w rfl))]
    refine ⟨_, '/' :: (i ++ []), c :: w.toList, _, _, by simp [Stem.text], rfl,
      reads_member.mpr ⟨i, hi, rfl, rfl⟩, [c], w.toList, [], [], rfl, rfl, ⟨?_, rfl⟩,
      reads_ofTokens_map_inl.mpr ⟨rfl, rfl⟩⟩
    exact hc.imp (congrArg fun d => [d]) (congrArg fun d => [d])

/-- What the path reads has a stem and a format, from which the placeholders have their values. -/
theorem exists_covers_of_reads (hp : p.Accepted) (h : p.shape.Reads t gs) :
    ∃ s, p.Covers (p.shape.value? gs "id".toList) (p.shape.value? gs "format".toList) s ∧
      t = s.text ++ formatText (p.shape.value? gs "format".toList) := by
  unfold shape at h ⊢
  cases hformat : p.hasFormat with
  | true =>
    rw [hformat, if_pos rfl] at h
    obtain ⟨t', gs', fmt, hfmt, rfl, rfl, hstem⟩ := reads_seq_format.mp h
    obtain ⟨s, hs, rfl⟩ := exists_hasStem_of_reads hp hstem
    obtain ⟨hvalue, hid⟩ := value?_seq_format hstem.length_eq fmt
    rw [if_pos rfl, hvalue, hid]
    exact ⟨s, ⟨hs, hfmt, fun _ => hformat⟩, rfl⟩
  | false =>
    rw [hformat, if_neg Bool.false_ne_true] at h
    obtain ⟨s, hs, rfl⟩ := exists_hasStem_of_reads hp h
    have hnone : p.stemShape.value? gs "format".toList = none := by
      have hformat : .token (some "format".toList) ∉ p.stemShape.pieces := fun hmem =>
        absurd (eq_of_token_mem_stemShape hp hmem) (by decide)
      exact value?_eq_none hformat
    rw [if_neg Bool.false_ne_true, hnone]
    exact ⟨s, .of_stem hs, (List.append_nil s.text).symm⟩

theorem exists_reads_of_covers (hp : p.Accepted) (h : p.Covers id fmt s) :
    ∃ gs, p.shape.Reads (s.text ++ formatText fmt) gs := by
  obtain ⟨gs, hgs⟩ := exists_reads_of_hasStem hp h.stem
  unfold shape
  cases hformat : p.hasFormat with
  | true =>
    rw [if_pos rfl]
    exact ⟨_, reads_seq_format.mpr ⟨_, gs, fmt, h.format, rfl, rfl, hgs⟩⟩
  | false =>
    obtain rfl : fmt = none := by
      cases fmt with
      | none => rfl
      | some f => rw [h.hasFormat rfl] at hformat; cases hformat
    refine ⟨gs, ?_⟩
    rw [if_neg Bool.false_ne_true]
    exact (List.append_nil s.text).symm ▸ hgs

/-! ### Paths of requests -/

/-- The path leads below a resource to the path of a request, with an identifier and a format. -/
def Reaches (p : ResourcePath) (w path : String) (id fmt : Option String) : Prop :=
  ∃ s, p.Covers (id.map String.toList) (fmt.map String.toList) s ∧
    path.toList = Stem.text (('/', w.toList) :: s) ++ formatText (fmt.map String.toList)

theorem reaches_of_covers {w path : String} (h : p.Covers id fmt s)
    (hpath : path.toList = Stem.text (('/', w.toList) :: s) ++ formatText fmt) :
    p.Reaches w path (id.map String.ofList) (fmt.map String.ofList) := by
  have hchars : ∀ t : Option (List Char), (t.map String.ofList).map String.toList = t := by
    intro t
    cases t with
    | none => rfl
    | some t => exact congrArg some String.toList_ofList
  refine ⟨s, ?_, ?_⟩
  · rwa [hchars, hchars]
  · rwa [hchars]

/-- What leads to a path covers its stem. -/
theorem Reaches.covers {w path : String} (hw : isWord w = true) (hp : p.Accepted)
    {id' fmt' : Option String} (h : p.Reaches w path id' fmt') (hs : s.Proper)
    (hpath : path.toList = Stem.text (('/', w.toList) :: s) ++ formatText fmt) :
    p.Covers (id'.map String.toList) fmt s ∧ fmt'.map String.toList = fmt := by
  obtain ⟨s', hs', hpath'⟩ := h
  have hword : IsSeparator '/' ∧ '/' ≠ '.' ∧ ∀ a ∈ w.toList, ¬IsSeparator a :=
    ⟨by decide, by decide, (isPart_of_isWord hw).2⟩
  -- The name of the resource is a step like the others, so whole paths can be compared.
  obtain ⟨hstem, hformat⟩ := Stem.text_append_inj (List.forall_mem_cons.mpr ⟨hword, hs⟩)
    (List.forall_mem_cons.mpr ⟨hword, hs'.stem.proper hp⟩) (hpath.symm.trans hpath')
  obtain rfl := (List.cons.inj hstem).2
  exact ⟨hformat ▸ hs', hformat.symm⟩

/-- The stem and the format of a path are the same, whatever leads there. -/
theorem Reaches.exists_common {p' : ResourcePath} {w path : String} (hw : isWord w = true)
    (hp : p.Accepted) (hp' : p'.Accepted) {id id' fmt fmt' : Option String}
    (h : p.Reaches w path id fmt) (h' : p'.Reaches w path id' fmt') :
    fmt = fmt' ∧ ∃ s, p.Covers (id.map String.toList) (fmt.map String.toList) s ∧
      p'.Covers (id'.map String.toList) (fmt.map String.toList) s ∧
      path.toList = Stem.text (('/', w.toList) :: s) ++ formatText (fmt.map String.toList) := by
  obtain ⟨s, hs, hpath⟩ := h
  obtain ⟨hs', hformat⟩ := h'.covers hw hp' (hs.stem.proper hp) hpath
  obtain rfl := Option.map_injective (fun _ _ => String.toList_inj.mp) hformat
  exact ⟨rfl, s, hs, hs', hpath⟩

end ResourcePath

end HttpRouting
