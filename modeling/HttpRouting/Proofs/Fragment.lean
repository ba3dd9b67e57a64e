import HttpRouting.Proofs.AcceptedOptions
import HttpRouting.Proofs.Pattern
import HttpRouting.Segment
import Mathlib.Algebra.GroupWithZero.Nat

/-!
# Path conditions and their shapes

Conditions on a path come from a few places: literal texts, the pattern of default routes, and the
patterns of resources, into which keys and actions have been put. Every one of them is a shape
between anchors. A literal text is escaped and the name of a resource action is not, but the
placeholders in either are the ones of the text as it was given.

## Main definitions

* `Shape.ofText` — the shape of a text with placeholders
* `Condition.Declared` — the conditions on a path that declarations make
* `Shape.Describes` — a condition consists of a shape between anchors

## Main results

* `Shape.spells_ofText` — a text that is escaped or left alone has its shape
* `Condition.Declared.exists_shape` — every declared condition has a shape
* `Shape.Describes.expand_eq` — its expansion
-/

namespace HttpRouting

open Placeholder

namespace Segment

theorem tokens_token {cs rest : List Char} {name : Option (List Char)}
    (h : token? cs = some (name, rest)) : tokens (':' :: cs) = .inr name :: tokens rest := by
  rw [tokens, if_pos rfl]
  split
  · next htoken =>
    obtain ⟨rfl, rfl⟩ := Prod.mk.inj (Option.some.inj (h.symm.trans htoken))
    rfl
  · next htoken =>
    rw [h] at htoken
    cases htoken

/-- A character that starts no placeholder is kept. -/
theorem tokens_cons {c : Char} {cs : List Char} (h : c = ':' → token? cs = none) :
    tokens (c :: cs) = .inl c :: tokens cs := by
  rw [tokens]
  split
  · next hc =>
    split
    · next htoken => simp [h hc] at htoken
    · rfl
  · rfl

end Segment

namespace Shape

/-! ### Texts -/

/-- The characters that stand for a character of a text, which may be escaped. -/
def written (escape : Bool) (cs : List Char) : List Char :=
  cs.flatMap fun c => if escape && isMeta c then ['\\', c] else [c]

/-- The shape of some characters and placeholders. -/
def ofTokens (escape : Bool) : List (Char ⊕ Option (List Char)) → Shape
  | [] => nil
  | .inl c :: xs => seq (if escape && isMeta c then escaped c else char c) (ofTokens escape xs)
  | .inr name :: xs => seq (token name) (ofTokens escape xs)

/-- The shape of a text with placeholders. -/
def ofText (escape : Bool) (cs : List Char) : Shape := ofTokens escape (Segment.tokens cs)

/-- A text that does not continue a placeholder in front of it. -/
def Closed (tail : List Char) : Prop :=
  ∀ c ∈ tail.head?, Identifier.isRest c = false ∧ c ≠ ':'

variable {escape : Bool} {cs tail : List Char}

theorem written_true (cs : List Char) : written true cs = escapeMeta cs := rfl

theorem written_false (cs : List Char) : written false cs = cs := by
  simp [written]

theorem written_cons (c : Char) (cs : List Char) :
    written escape (c :: cs) =
      (if escape && isMeta c then ['\\', c] else [c]) ++ written escape cs := rfl

theorem written_cons_of_not_isMeta {c : Char} (h : isMeta c = false) (cs : List Char) :
    written escape (c :: cs) = c :: written escape cs := by
  simp [written_cons, h]

theorem isRest_of_isStart {c : Char} (h : Identifier.isStart c = true) :
    Identifier.isRest c = true := by
  simp only [Identifier.isStart, Identifier.isRest, Char.isAlphanum, Bool.or_eq_true] at h ⊢
  exact h.imp_left .inl

theorem isStart_of_isRest {c : Char} (h : Identifier.isRest c = false) :
    Identifier.isStart c = false := by
  rw [← Bool.not_eq_true] at h ⊢
  exact mt isRest_of_isStart h

/-- Characters of identifiers are never escaped. -/
theorem isMeta_of_isRest {c : Char} (h : Identifier.isRest c = true) : isMeta c = false := by
  have hmeta : ∀ c ∈ ['\\', '.', '+', '*', '?', '(', ')', '|', '[', ']', '{', '}', '^', '$', '#',
      '&', '-', '~'], Identifier.isRest c = false :=
    List.all_iff_forall_prop.mp (by decide)
  refine decide_eq_false fun hmem => ?_
  rw [hmeta c hmem] at h
  cases h

/-- An escaped text starts with its first character or with a backslash. -/
theorem forall_head?_written {P : Char → Prop} {c : Char} (hbackslash : P '\\') (hc : P c) :
    ∀ d ∈ (written escape (c :: cs) ++ tail).head?, P d := by
  intro d hd
  rw [written_cons] at hd
  split at hd
  · obtain rfl : '\\' = d := by simpa using hd
    exact hbackslash
  · obtain rfl : c = d := by simpa using hd
    exact hc

theorem takeWhile_eq_nil {p : Char → Bool} (h : ∀ c ∈ cs.head?, p c = false) :
    cs.takeWhile p = [] ∧ cs.dropWhile p = cs := by
  cases cs with
  | nil => exact ⟨rfl, rfl⟩
  | cons c cs => simp [h c rfl]

/-- Escaping changes no identifier that a text starts with. -/
theorem takeWhile_written (h : Closed tail) (cs : List Char) :
    (written escape cs ++ tail).takeWhile Identifier.isRest = cs.takeWhile Identifier.isRest ∧
      (written escape cs ++ tail).dropWhile Identifier.isRest =
        written escape (cs.dropWhile Identifier.isRest) ++ tail := by
  -- An identifier ends at the latest where the tail starts, because the tail is closed.
  induction cs with
  | nil => exact takeWhile_eq_nil fun c hc => (h c hc).1
  | cons c cs ih =>
    cases hc : Identifier.isRest c with
    | true =>
      rw [written_cons_of_not_isMeta (isMeta_of_isRest hc)]
      simp [hc, ih]
    | false =>
      obtain ⟨htake, hdrop⟩ := takeWhile_eq_nil (@forall_head?_written escape cs tail
        (Identifier.isRest · = false) c rfl hc)
      rw [htake, hdrop]
      simp [hc]

theorem read?_eq_none (h : ∀ c ∈ cs.head?, Identifier.isStart c = false) :
    Identifier.read? cs = none := by
  cases cs with
  | nil => rfl
  | cons c cs => simp [Identifier.read?, h c rfl]

theorem read?_written (h : Closed tail) (cs : List Char) :
    Identifier.read? (written escape cs ++ tail) =
      (Identifier.read? cs).map fun p => (p.1, written escape p.2 ++ tail) := by
  cases cs with
  | nil => exact read?_eq_none fun c hc => isStart_of_isRest (h c hc).1
  | cons c cs =>
    cases hc : Identifier.isStart c with
    | true =>
      obtain ⟨htake, hdrop⟩ := @takeWhile_written escape tail h cs
      rw [written_cons_of_not_isMeta (isMeta_of_isRest (isRest_of_isStart hc))]
      simp [Identifier.read?, hc, htake, hdrop]
    | false =>
      rw [read?_eq_none (forall_head?_written rfl hc)]
      simp [Identifier.read?, hc]

theorem token?_eq_none (hread : Identifier.read? cs = none) (h : ∀ c ∈ cs.head?, c ≠ ':') :
    token? cs = none := by
  unfold token?
  rw [hread]
  cases cs with
  | nil => rfl
  | cons c cs => simp [h c rfl]

/-- Escaping changes no placeholder. -/
theorem token?_written (h : Closed tail) (cs : List Char) :
    token? (written escape cs ++ tail) =
      (token? cs).map fun p => (p.1, written escape p.2 ++ tail) := by
  have hwritten := @read?_written escape tail h cs
  cases hread : Identifier.read? cs with
  | some p =>
    rw [hread] at hwritten
    simp [token?, hread, hwritten]
  | none =>
    rw [hread] at hwritten
    cases cs with
    | nil => exact token?_eq_none hwritten fun c hc => (h c hc).2
    | cons c cs =>
      by_cases hc : c = ':'
      · subst hc
        rw [written_cons_of_not_isMeta rfl, List.cons_append] at hwritten ⊢
        simp [token?, hread, hwritten]
      · rw [token?_eq_none hread (by simpa using hc),
          token?_eq_none hwritten (forall_head?_written (by decide) hc)]
        rfl

/-- A text has the shape of its characters and placeholders, whether it is escaped or not. -/
theorem spells_ofText (h : Closed tail) (cs : List Char) :
    (ofText escape cs).Spells (written escape cs ++ tail) tail := by
  unfold ofText
  -- Along the scan of the given text. The scan of the written text finds the same placeholders.
  fun_induction Segment.tokens cs with
  | case1 => rfl
  | case2 cs name rest htoken ih =>
    have hwritten := @token?_written escape tail h cs
    rw [htoken] at hwritten
    rw [written_cons_of_not_isMeta rfl]
    exact ⟨_, ⟨_, rfl, hwritten⟩, ih⟩
  | case3 cs hnone ih =>
    have hwritten := @token?_written escape tail h cs
    rw [hnone] at hwritten
    rw [written_cons_of_not_isMeta rfl, ofTokens, if_neg (by simp [isMeta])]
    exact ⟨_, ⟨rfl, fun _ => hwritten⟩, ih⟩
  | case4 c cs hc ih =>
    rw [written_cons, ofTokens]
    split
    · exact ⟨_, rfl, ih⟩
    · exact ⟨_, ⟨rfl, fun hcolon => absurd hcolon hc⟩, ih⟩

theorem suffix_of_token? {rest : List Char} {name : Option (List Char)}
    (h : token? cs = some (name, rest)) : rest <:+ cs := by
  unfold token? at h
  split at h
  · next read hread =>
    obtain ⟨-, rfl⟩ := Prod.mk.inj (Option.some.inj h)
    exact ⟨_, Identifier.append_of_read? hread⟩
  · split at h
    · obtain ⟨-, rfl⟩ := Prod.mk.inj (Option.some.inj h)
      exact List.suffix_cons _ _
    · cases h

theorem mem_of_mem_tokens {c : Char} (h : .inl c ∈ Segment.tokens cs) : c ∈ cs := by
  fun_induction Segment.tokens cs with
  | case1 => cases h
  | case2 cs name rest htoken ih =>
    rcases List.mem_cons.mp h with hc | h
    · cases hc
    · exact List.mem_cons_of_mem _ ((suffix_of_token? htoken).subset (ih h))
  | case3 cs hnone ih =>
    rcases List.mem_cons.mp h with hc | h
    · obtain rfl := Sum.inl.inj hc
      exact List.mem_cons_self
    · exact List.mem_cons_of_mem _ (ih h)
  | case4 d cs hd ih =>
    rcases List.mem_cons.mp h with hc | h
    · obtain rfl := Sum.inl.inj hc
      exact List.mem_cons_self
    · exact List.mem_cons_of_mem _ (ih h)

theorem ordinary_of_isMeta {c : Char} (h : isMeta c = false) : Ordinary c := by
  have hsubset : ['\\', '.', '^', '$', '[', '(', ')', '|', '?', '*', '+', '{'] ⊆
      ['\\', '.', '+', '*', '?', '(', ')', '|', '[', ']', '{', '}', '^', '$', '#', '&', '-', '~'] :=
    by decide
  exact fun hmem => of_decide_eq_false h (hsubset hmem)

theorem tidy_ofTokens {xs : List (Char ⊕ Option (List Char))}
    (h : escape = true ∨ ∀ c, .inl c ∈ xs → Ordinary c) : (ofTokens escape xs).Tidy := by
  induction xs with
  | nil => trivial
  | cons x xs ih =>
    have hxs := ih (h.imp_right fun h c hc => h c (List.mem_cons_of_mem _ hc))
    cases x with
    | inr name => exact ⟨trivial, hxs⟩
    | inl c =>
      rw [ofTokens]
      split
      · next hmeta => exact ⟨(Bool.and_eq_true_iff.mp hmeta).2, hxs⟩
      · next hmeta =>
        refine ⟨?_, hxs⟩
        rcases h with rfl | h
        · exact ordinary_of_isMeta (by simpa using hmeta)
        · exact h c List.mem_cons_self

/-- An escaped text is tidy, and so is a text of ordinary characters. -/
theorem tidy_ofText (h : escape = true ∨ ∀ c ∈ cs, Ordinary c) : (ofText escape cs).Tidy :=
  tidy_ofTokens (h.imp_right fun h c hc => h c (mem_of_mem_tokens hc))

/-! ### Sizes -/

/-- A bound on the weight of the expressions that the parser makes of a shape. -/
def weight : Shape → Nat
  | nil => 0
  | char _ | escaped _ => 128
  | token _ => (Regex.group 0 placeholderRegex).weight
  | either => 128
  | maybe _ => 64 + 128 + 32
  | opt s => 64 + (64 + (s.weight + 32)) + 32
  | seq s t => s.weight + t.weight

theorem weight_concat_le (rs : List Regex) :
    (Regex.concat rs).weight ≤ (rs.map Regex.weight).sum + 32 := by
  induction rs with
  | nil => exact Nat.le_refl 32
  | cons r rs ih =>
    have happend : (Regex.append r (Regex.concat rs)).weight ≤
        r.weight + (Regex.concat rs).weight := by
      unfold Regex.append
      split
      · exact Nat.le_add_left _ _
      · exact Nat.le_add_right _ _
      · exact Nat.le_refl _
    rw [List.map_cons, List.sum_cons]
    exact Nat.le_trans happend (by omega)

theorem sum_weight_parts_le (s : Shape) (n : Nat) :
    ((s.parts n).map Regex.weight).sum ≤ s.weight := by
  -- The bound does not depend on `n`: the number of a group adds nothing to its weight.
  induction s generalizing n with
  | nil => exact Nat.le_refl 0
  | char c | escaped c => exact weight_char_le c
  | token name => exact Nat.le_refl _
  | either => exact Nat.le_of_ble_eq_true rfl
  | maybe c =>
    have hchar := weight_char_le c
    simp only [parts, List.map_cons, List.map_nil, List.sum_cons, List.sum_nil, Regex.weight,
      weight]
    omega
  | opt s ih =>
    have hinner := weight_concat_le (s.parts (n + 1))
    have hparts := ih (n + 1)
    simp only [parts, List.map_cons, List.map_nil, List.sum_cons, List.sum_nil, Regex.weight,
      weight]
    omega
  | seq s t ihs iht =>
    have hs := ihs n
    have ht := iht (n + s.groups)
    rw [parts, List.map_append, List.sum_append, weight]
    omega

/-- A group that may be left out is tidy if its contents are, and small. -/
theorem tidy_opt {s : Shape} (tidy : s.Tidy) (h : s.weight ≤ 100000) : (opt s).Tidy := by
  refine ⟨tidy, fun n => ?_⟩
  have hconcat := weight_concat_le (s.parts n)
  have hparts := sum_weight_parts_le s n
  rw [Regex.maxWeight]
  omega

/-! ### Conditions -/

/-- The condition consists of a tidy shape between anchors. -/
structure Describes (s : Shape) (c : Condition) : Prop where
  /-- The characters of the shape mean themselves. -/
  tidy : s.Tidy
  /-- The text between the anchors has the shape. -/
  spells : ∃ cs, c.source.toList = '^' :: cs ∧ s.Spells cs ['$']

theorem closed_dollar : Closed ['$'] := by
  intro c hc
  obtain rfl : '$' = c := by simpa using hc
  decide

theorem describes_literal (t : String) : (ofText true t.toList).Describes (.literal t) := by
  refine ⟨tidy_ofText (.inl rfl), escapeMeta t.toList ++ ['$'], ?_, ?_⟩
  · rw [Condition.source, String.toList_ofList, List.cons_append]
  · rw [← written_true]
    exact spells_ofText closed_dollar t.toList

theorem ordinary_slash : Ordinary '/' := by decide

/-- The format that may follow a path. -/
def format : Shape := opt (seq (escaped '.') (token (some "format".toList)))

theorem tidy_format : format.Tidy := tidy_opt ⟨rfl, trivial⟩ (by decide)

theorem spells_format (tail : List Char) :
    format.Spells ("(\\.:format)?".toList ++ tail) tail :=
  ⟨'\\', _, rfl, by decide, _, rfl, _, rfl, rfl⟩

/-- The shape of the path of default routes. -/
def defaultPath : Shape :=
  let identifier := seq (char '/') (token (some "id".toList))
  let action := seq (char '/') (seq (token (some "action".toList)) (opt identifier))
  seq (char '/') (seq (token (some "controller".toList)) (seq (opt action) format))

theorem describes_defaultPath : defaultPath.Describes Behavior.defaultPath := by
  refine ⟨⟨ordinary_slash, trivial, tidy_opt ?_ (by decide), tidy_format⟩, _, rfl, ?_⟩
  · exact ⟨ordinary_slash, trivial, tidy_opt ⟨ordinary_slash, trivial⟩ (by decide)⟩
  · refine ⟨_, ⟨rfl, nofun⟩, _, ⟨_, rfl, rfl⟩, _, ?_, spells_format ['$']⟩
    refine ⟨'/', _, rfl, by decide, _, ⟨rfl, nofun⟩, _, ⟨_, rfl, rfl⟩, ?_⟩
    exact ⟨'/', _, rfl, by decide, _, ⟨rfl, nofun⟩, _, rfl, rfl⟩

/-! ### Resources -/

/-- A text of ordinary characters has its shape as it is. -/
theorem spells_raw (h : Closed tail) (cs : List Char) :
    (ofText false cs).Spells (cs ++ tail) tail := by
  have hspells := @spells_ofText false tail h cs
  rwa [written_false] at hspells

theorem ordinary_of_isRest {c : Char} (h : Identifier.isRest c = true) : Ordinary c :=
  ordinary_of_isMeta (isMeta_of_isRest h)

theorem ordinary_of_isIdentifier {cs : List Char} (h : Identifier.isIdentifier cs = true) :
    ∀ c ∈ cs, Ordinary c := by
  cases cs with
  | nil => nofun
  | cons c cs =>
    obtain ⟨hstart, hrest⟩ := Bool.and_eq_true_iff.mp h
    refine List.forall_mem_cons.mpr ⟨ordinary_of_isRest (isRest_of_isStart hstart), ?_⟩
    exact fun d hd => ordinary_of_isRest (List.all_eq_true.mp hrest d hd)

/-- Words are made of ordinary characters. -/
theorem ordinary_of_isWord {s : String} (h : isWord s = true) : ∀ c ∈ s.toList, Ordinary c := by
  intro c hc
  have hword := List.all_eq_true.mp (Bool.and_eq_true_iff.mp h).2 c hc
  simp only [Bool.or_eq_true, beq_iff_eq] at hword
  rcases hword with (halphanum | rfl) | rfl
  · exact ordinary_of_isRest (by simp [Identifier.isRest, halphanum])
  · decide
  · decide

end Shape

namespace ResourceOptions

theorem ordinary_intercalate {keys : List String}
    (h : ∀ k ∈ keys, Identifier.isIdentifier k.toList = true) :
    ∀ c ∈ ("/".intercalate (keys.map (":" ++ ·))).toList, Shape.Ordinary c := by
  have hcolon : ∀ c ∈ ":".toList, Shape.Ordinary c :=
    List.all_iff_forall_prop.mp (by decide)
  have hslash : ∀ c ∈ "/".toList, Shape.Ordinary c :=
    List.all_iff_forall_prop.mp (by decide)
  induction keys with
  | nil => simp
  | cons k keys ih =>
    obtain ⟨hk, hkeys⟩ := List.forall_mem_cons.mp h
    have hkey := List.forall_mem_append.mpr ⟨hcolon, Shape.ordinary_of_isIdentifier hk⟩
    rw [List.map_cons]
    by_cases hnil : keys.map (":" ++ ·) = []
    · rw [hnil, String.intercalate_singleton, String.toList_append]
      exact hkey
    · rw [String.intercalate_cons_of_ne_nil hnil, String.toList_append, String.toList_append,
        String.toList_append]
      exact List.forall_mem_append.mpr ⟨List.forall_mem_append.mpr ⟨hkey, hslash⟩, ih hkeys⟩

/-- The path of a member's keys is made of ordinary characters. -/
theorem ordinary_keyPath {name : String} {o : ResourceOptions}
    (h : checkKeys name o.keys = .ok ()) :
    ∀ c ∈ (o.keyPath?.getD ":id").toList, Shape.Ordinary c := by
  unfold keyPath?
  cases hkeys : o.keys with
  | none => exact List.all_iff_forall_prop.mp (by decide)
  | some keys =>
    rw [hkeys] at h
    have hidentifier := isIdentifier_of_checkKeys h
    exact ordinary_intercalate hidentifier

end ResourceOptions

/-- The conditions on a path that declarations make: literal texts, the path of default routes, and
the paths of resources whose keys and further actions are accepted. -/
inductive Condition.Declared : Condition → Prop where
  /-- A literal text. -/
  | literal (t : String) : Declared (.literal t)
  /-- The path of default routes. -/
  | default : Declared Behavior.defaultPath
  /-- The path of a standard action of a plural resource. -/
  | plural {name path action : String} {method : Method} {o : ResourceOptions}
      (keys : ResourceOptions.checkKeys name o.keys = .ok ())
      (mem : (path, method, action) ∈ Behavior.pluralActions (o.keyPath?.getD ":id")) :
      Declared (.pattern path)
  /-- The path of a standard action of a singular resource. -/
  | singular {path action : String} {method : Method}
      (mem : (path, method, action) ∈ Behavior.singularActions) : Declared (.pattern path)
  /-- The path of a further action on a member of a plural resource. -/
  | member {name action : String} {kind : ActionKind} {methods : MethodSet} {o : ResourceOptions}
      (keys : ResourceOptions.checkKeys name o.keys = .ok ())
      (actions : ResourceOptions.checkActions name kind [] o.member = .ok ())
      (mem : (action, methods) ∈ o.member) :
      Declared (.pattern (ResourceScope.actionPath ("/" ++ o.keyPath?.getD ":id") action))
  /-- The path of a further action on a collection or on a singular resource. -/
  | collection {name action : String} {kind : ActionKind} {methods : MethodSet}
      {as : List (String × MethodSet)}
      (actions : ResourceOptions.checkActions name kind [] as = .ok ())
      (mem : (action, methods) ∈ as) : Declared (.pattern (ResourceScope.actionPath "" action))

namespace Shape

theorem closed_format (tail : List Char) : Closed ("(\\.:format)?".toList ++ tail) := by
  intro c hc
  obtain rfl : '(' = c := by simpa using hc
  decide

/-- A text of ordinary characters, between anchors and before an optional format. -/
theorem describes_formatted {path : String} {cs : List Char} (h : ∀ c ∈ cs, Ordinary c)
    (hpath : path.toList = '^' :: (cs ++ "(\\.:format)?$".toList)) :
    (seq (ofText false cs) format).Describes (.pattern path) :=
  ⟨⟨tidy_ofText (.inr h), tidy_format⟩, _, hpath, _,
    spells_raw (closed_format ['$']) cs, spells_format ['$']⟩

/-- A text of ordinary characters, between anchors. -/
theorem describes_plain {path : String} (cs : List Char) (h : ∀ c ∈ cs, Ordinary c)
    (hpath : path.toList = '^' :: (cs ++ ['$'])) : (ofText false cs).Describes (.pattern path) :=
  ⟨tidy_ofText (.inr h), _, hpath, spells_raw closed_dollar cs⟩

/-- Two texts of ordinary characters around a semicolon or a slash, between anchors. -/
theorem describes_either {path : String} {cs : List Char} (ds : List Char)
    (hcs : ∀ c ∈ cs, Ordinary c)
    (hds : ∀ c ∈ ds, Ordinary c)
    (hpath : path.toList = '^' :: (cs ++ "[;/]".toList ++ ds ++ ['$'])) :
    (seq (ofText false cs) (seq either (ofText false ds))).Describes (.pattern path) := by
  refine ⟨⟨tidy_ofText (.inr hcs), trivial, tidy_ofText (.inr hds)⟩, _, hpath, _, ?_, _, rfl,
    spells_raw closed_dollar ds⟩
  rw [List.append_assoc, List.append_assoc]
  refine spells_raw (fun c hc => ?_) cs
  obtain rfl : '[' = c := by simpa using hc
  decide

/-- The path of a collection: nothing or a slash, before an optional format. -/
theorem describes_collection :
    (seq (maybe '/') format).Describes (.pattern "^/?(\\.:format)?$") :=
  ⟨⟨ordinary_slash, tidy_format⟩, _, rfl, _, rfl, spells_format ['$']⟩

end Shape

open Shape in
/-- Every condition that declarations make is a tidy shape between anchors. -/
theorem Condition.Declared.exists_shape {c : Condition} (h : c.Declared) :
    ∃ s : Shape, s.Describes c := by
  have hslash : ∀ {cs : List Char}, (∀ c ∈ cs, Ordinary c) → ∀ c ∈ '/' :: cs, Ordinary c :=
    fun h => List.forall_mem_cons.mpr ⟨ordinary_slash, h⟩
  have hnew : ∀ c ∈ "new".toList, Ordinary c := List.all_iff_forall_prop.mp (by decide)
  have hedit : ∀ c ∈ "edit".toList, Ordinary c := List.all_iff_forall_prop.mp (by decide)
  have hdelete : ∀ c ∈ "delete".toList, Ordinary c := List.all_iff_forall_prop.mp (by decide)
  -- The actions of both kinds of resources share four shapes.
  cases h with
  | literal t => exact ⟨_, describes_literal t⟩
  | default => exact ⟨_, describes_defaultPath⟩
  | @plural name path action method o keys mem =>
    have hkeys := hslash (ResourceOptions.ordinary_keyPath keys)
    have hmember : ∀ {path : String}, path = "^/" ++ o.keyPath?.getD ":id" ++ "(\\.:format)?$" →
        ∃ s : Shape, s.Describes (.pattern path) := by
      rintro _ rfl
      exact ⟨_, describes_formatted hkeys (by simp)⟩
    simp only [Behavior.pluralActions, List.mem_cons, Prod.mk.injEq, List.not_mem_nil,
      or_false] at mem
    rcases mem with ⟨rfl, -⟩ | ⟨rfl, -⟩ | ⟨rfl, -⟩ | ⟨rfl, -⟩ | ⟨rfl, -⟩ | ⟨rfl, -⟩ | ⟨rfl, -⟩ |
      ⟨rfl, -⟩
    · exact ⟨_, describes_collection⟩
    · exact ⟨_, describes_plain "/new".toList (hslash hnew) rfl⟩
    · exact ⟨_, describes_collection⟩
    · exact hmember rfl
    · exact ⟨_, describes_either "edit".toList hkeys hedit (by simp)⟩
    · exact ⟨_, describes_either "delete".toList hkeys hdelete (by simp)⟩
    · exact hmember rfl
    · exact hmember rfl
  | singular mem =>
    simp only [Behavior.singularActions, List.mem_cons, Prod.mk.injEq, List.not_mem_nil,
      or_false] at mem
    rcases mem with ⟨rfl, -⟩ | ⟨rfl, -⟩ | ⟨rfl, -⟩ | ⟨rfl, -⟩ | ⟨rfl, -⟩ | ⟨rfl, -⟩
    · exact ⟨_, describes_either "new".toList (List.forall_mem_nil _) hnew rfl⟩
    · exact ⟨_, describes_collection⟩
    · exact ⟨_, describes_collection⟩
    · exact ⟨_, describes_either "edit".toList (List.forall_mem_nil _) hedit rfl⟩
    · exact ⟨_, describes_collection⟩
    · exact ⟨_, describes_collection⟩
  | member keys actions mem =>
    have hkeys := hslash (ResourceOptions.ordinary_keyPath keys)
    have hword := hslash (ordinary_of_isWord (ResourceOptions.isWord_of_checkActions actions _ mem))
    refine ⟨_, describes_formatted (List.forall_mem_append.mpr ⟨hkeys, hword⟩) ?_⟩
    simp [ResourceScope.actionPath]
  | collection actions mem =>
    have hword := hslash (ordinary_of_isWord (ResourceOptions.isWord_of_checkActions actions _ mem))
    refine ⟨_, describes_formatted hword ?_⟩
    simp [ResourceScope.actionPath]

/-! ### Expansion -/

namespace Shape

theorem isIdentifier_of_read? {cs rest name : List Char}
    (h : Identifier.read? cs = some (name, rest)) : Identifier.isIdentifier name = true := by
  cases cs with
  | nil => cases h
  | cons c cs =>
    rw [Identifier.read?] at h
    split at h
    · next hstart =>
      obtain ⟨rfl, -⟩ := Prod.mk.inj (Option.some.inj h)
      exact Bool.and_eq_true_iff.mpr ⟨hstart, List.all_takeWhile⟩
    · cases h

theorem isIdentifier_of_token? {cs rest name : List Char}
    (h : token? cs = some (some name, rest)) : Identifier.isIdentifier name = true := by
  unfold token? at h
  split at h
  · next hread =>
    obtain ⟨hname, -⟩ := Prod.mk.inj (Option.some.inj h)
    obtain rfl := Option.some.inj hname
    exact isIdentifier_of_read? hread
  · split at h <;> simp at h

/-- The names of placeholders are identifiers. -/
theorem isIdentifier_of_spells {s : Shape} {cs tail : List Char} (h : s.Spells cs tail)
    {name : List Char} (hname : .token (some name) ∈ s.pieces) :
    Identifier.isIdentifier name = true := by
  induction s generalizing cs tail with
  | token name' =>
    obtain ⟨cs', -, htoken⟩ := h
    obtain rfl : some name = name' := by simpa [pieces] using hname
    exact isIdentifier_of_token? htoken
  | opt s ih =>
    obtain ⟨d, ds, -, -, hs⟩ := h
    exact ih hs (by simpa [pieces] using hname)
  | seq s t ihs iht =>
    obtain ⟨mid, hs, ht⟩ := h
    rcases List.mem_append.mp hname with hname | hname
    · exact ihs hs hname
    · exact iht ht hname
  | _ => simp [pieces] at hname

theorem captures_append (ps qs : List Piece) (n : Nat) :
    captures n (ps ++ qs) = captures n ps ++ captures (n + ps.countP (·.opensGroup)) qs := by
  induction ps generalizing n with
  | nil => rfl
  | cons p ps ih =>
    cases p with
    | char c =>
      rw [List.cons_append, captures, captures, ih, List.countP_cons_of_neg Bool.false_ne_true]
    | opening =>
      rw [List.cons_append, captures, captures, ih, List.countP_cons_of_pos rfl, Nat.add_right_comm,
        Nat.add_assoc]
    | token name =>
      rw [List.cons_append, captures, captures, ih, List.countP_cons_of_pos rfl, Nat.add_right_comm,
        Nat.add_assoc, List.cons_append]

/-- The pieces of a condition are those of its shape between anchors. -/
theorem Describes.pieces_eq {s : Shape} {c : Condition} (h : s.Describes c) :
    Placeholder.pieces .plain c.source.toList = .char '^' :: (s.pieces ++ [.char '$']) := by
  obtain ⟨cs, hsource, hspells⟩ := h.spells
  have hend : Placeholder.pieces .plain ['$'] = [.char '$'] := by
    have hmode : Mode.plain.next '$' = .plain := rfl
    rw [pieces_cons (by simp), hmode, pieces_nil]
    rfl
  have hmode : Mode.plain.next '^' = .plain := rfl
  rw [hsource, pieces_cons (by simp), hmode, pieces_of_spells hspells h.tidy, hend]
  rfl

/-- The expansion of a condition is that of its shape. -/
theorem Describes.expand_eq {s : Shape} {c : Condition} (h : s.Describes c) :
    expand c.source ({} : Options).placeholderPattern = ⟨s.pattern, captures 0 s.pieces⟩ := by
  have htext : ({} : Options).placeholderPattern.toList = placeholderText := rfl
  have hcaptures : captures 0 (.char '^' :: (s.pieces ++ [.char '$'])) = captures 0 s.pieces := by
    rw [captures, captures_append, captures, captures, List.append_nil]
  rw [expand, h.pieces_eq, htext, hcaptures, List.flatMap_cons, List.flatMap_append, flatMap_pieces]
  rfl

end Shape

end HttpRouting
