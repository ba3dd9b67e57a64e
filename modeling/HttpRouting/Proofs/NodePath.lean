import HttpRouting.Proofs.CaseVariants
import HttpRouting.Proofs.Fragment

/-!
# The path of a node

A step of a declaration adds conditions to a chain. Each of them is expanded by itself, and its
placeholders become parameters. A step whose conditions have placeholders on the path only has the
placeholders of its path condition, whatever the order of its conditions, and each name stands for
the last group that it was expanded into.

## Main definitions

* `Condition.IsPlain` — a condition without placeholders
* `Placeholder.lastGroup` — the group of the last placeholder of a name

## Main results

* `Condition.IsPlain.foldCase` — small letters add no placeholders
* `Node.getElem?_conditions`, `Node.getElem?_spellings` — the texts of a node
* `Node.getElem?_placeholders`, `Node.getElem?_params` — what a node reads
* `Placeholder.lastGroup_append`, `Placeholder.lastGroup_split` — the last group counts
-/

namespace HttpRouting

open Placeholder

/-! ### Small letters

Conditions on methods are put into small letters, or ignore case. Neither adds a placeholder. -/

section SmallLetters

/-- What a placeholder is read by does not tell the capital letters from the small ones. -/
theorem reading_toLower (c : Char) :
    (Identifier.isStart c.toLower, Identifier.isRest c.toLower, decide (c.toLower = ':')) =
      (Identifier.isStart c, Identifier.isRest c, decide (c = ':')) :=
  Unicode.toLower_invariant (fun c => (Identifier.isStart c, Identifier.isRest c, decide (c = ':')))
    (by decide +kernel) c

theorem isStart_toLower (c : Char) : Identifier.isStart c.toLower = Identifier.isStart c :=
  congrArg Prod.fst (reading_toLower c)

theorem isRest_toLower (c : Char) : Identifier.isRest c.toLower = Identifier.isRest c :=
  congrArg (fun p => p.2.1) (reading_toLower c)

theorem toLower_eq_colon {c : Char} : c.toLower = ':' ↔ c = ':' :=
  decide_eq_decide.mp (congrArg (fun p => p.2.2) (reading_toLower c))

theorem token?_toLower (cs : List Char) :
    token? (cs.map Char.toLower) =
      (token? cs).map fun p => (p.1.map (·.map Char.toLower), p.2.map Char.toLower) := by
  -- Small letters continue a name exactly where the letters before did.
  have hread : Identifier.read? (cs.map Char.toLower) =
      (Identifier.read? cs).map fun p => (p.1.map Char.toLower, p.2.map Char.toLower) := by
    cases cs with
    | nil => rfl
    | cons c cs =>
      have hrest : Identifier.isRest ∘ Char.toLower = Identifier.isRest := funext isRest_toLower
      rw [List.map_cons, Identifier.read?, Identifier.read?, isStart_toLower, List.takeWhile_map,
        List.dropWhile_map, hrest]
      split <;> rfl
  unfold token?
  rw [hread]
  cases Identifier.read? cs with
  | some p => rfl
  | none =>
    cases cs with
    | nil => rfl
    | cons c cs =>
      by_cases hc : c = ':'
      · subst hc
        rfl
      · simp [hc, toLower_eq_colon]

/-- A text in small letters has as many placeholders as before. -/
theorem tokens_toLower (cs : List Char) :
    Segment.tokens (cs.map Char.toLower) =
      (Segment.tokens cs).map (Sum.map Char.toLower (Option.map (·.map Char.toLower))) := by
  fun_induction Segment.tokens cs with
  | case1 =>
    rw [List.map_nil, Segment.tokens]
    rfl
  | case2 cs name rest htoken ih =>
    have hlower := token?_toLower cs
    rw [htoken] at hlower
    rw [List.map_cons, toLower_eq_colon.mpr rfl, Segment.tokens_token hlower, ih]
    rfl
  | case3 cs hnone ih =>
    have hlower := token?_toLower cs
    rw [hnone] at hlower
    rw [List.map_cons, Segment.tokens_cons fun _ => hlower, ih]
    rfl
  | case4 c cs hc ih =>
    rw [List.map_cons, Segment.tokens_cons fun hcolon => absurd (toLower_eq_colon.mp hcolon) hc, ih]
    rfl

/-- The pattern that every placeholder has to match, by default. -/
abbrev defaultPlaceholder : String := ({} : Options).placeholderPattern

/-- A condition has no placeholders. -/
def Condition.IsPlain (c : Condition) : Prop :=
  (expand c.source defaultPlaceholder).placeholders = []

instance (c : Condition) : Decidable c.IsPlain := inferInstanceAs (Decidable (_ = _))

theorem captures_eq_nil {ps : List Piece} {n : Nat} :
    captures n ps = [] ↔ ∀ name, .token name ∉ ps := by
  induction ps generalizing n with
  | nil => simp [captures]
  | cons p ps ih =>
    cases p with
    | char c => simp [captures, ih]
    | opening => simp [captures, ih]
    | token name =>
      rw [captures]
      exact ⟨fun h => absurd h (List.cons_ne_nil _ _), fun h => absurd List.mem_cons_self (h name)⟩

theorem token_mem_pieces_ofTokens {escape : Bool} {xs : List (Char ⊕ Option (List Char))}
    {name : Option (List Char)} :
    .token name ∈ (Shape.ofTokens escape xs).pieces ↔ .inr name ∈ xs := by
  induction xs with
  | nil => simp [Shape.ofTokens, Shape.pieces]
  | cons x xs ih =>
    cases x with
    | inr name' => simp [Shape.ofTokens, Shape.pieces, ih]
    | inl c =>
      rw [Shape.ofTokens]
      split <;> simp [Shape.pieces, ih]

theorem isPlain_literal {t : String} :
    (Condition.literal t).IsPlain ↔ ∀ name, .inr name ∉ Segment.tokens t.toList := by
  rw [Condition.IsPlain, (Shape.describes_literal t).expand_eq, captures_eq_nil]
  simp only [Shape.ofText, token_mem_pieces_ofTokens]

/-- The flag in front of a pattern is scanned as text. -/
theorem expand_ignoringCase (s pattern : String) :
    expand (String.ofList ("(?i)".toList ++ s.toList)) pattern =
      ⟨String.ofList ("(?i)".toList ++ (expand s pattern).source.toList),
        (expand s pattern).placeholders⟩ := by
  have hpieces : pieces .plain ('(' :: '?' :: 'i' :: ')' :: s.toList) =
      .char '(' :: .char '?' :: .char 'i' :: .char ')' :: pieces .plain s.toList := by
    rw [Shape.pieces_cons (by simp), Shape.pieces_cons (by simp), Shape.pieces_cons (by simp),
      Shape.pieces_cons (by simp)]
    rfl
  have htext : (String.ofList ("(?i)".toList ++ s.toList)).toList =
      '(' :: '?' :: 'i' :: ')' :: s.toList := String.toList_ofList
  simp only [expand, htext, hpieces, captures, String.toList_ofList]
  rfl

/-- Putting a condition on a method into small letters adds no placeholders. -/
theorem Condition.IsPlain.foldCase {c : Condition} (h : c.IsPlain) : c.foldCase.IsPlain := by
  cases c with
  | literal t =>
    refine isPlain_literal.mpr fun name hname => ?_
    rw [String.toList_ofList, tokens_toLower] at hname
    obtain ⟨x, hx, hname⟩ := List.mem_map.mp hname
    cases x with
    | inl c => cases hname
    | inr name' => exact isPlain_literal.mp h name' hx
  | pattern s =>
    rw [Condition.foldCase]
    split
    · exact h
    · rw [Condition.IsPlain, Condition.source, expand_ignoringCase]
      exact h

end SmallLetters

/-! ### Nodes -/

/-- The condition on a key as it is tested. -/
def Condition.tested (k : Key) (c : Condition) : Condition :=
  if k = .method then c.foldCase else c

theorem Condition.IsPlain.tested {k : Key} {c : Condition} (h : c.IsPlain) :
    (c.tested k).IsPlain := by
  unfold Condition.tested
  split
  · exact h.foldCase
  · exact h

/-- The conditions without a path condition that demands nothing. -/
def Conditions.kept (cs : Conditions) : Conditions :=
  if cs[Key.path]?.any (·.isEmptyPath) then cs.erase .path else cs

theorem Conditions.getElem?_kept_path (cs : Conditions) :
    cs.kept[Key.path]? = cs[Key.path]?.filter (!·.isEmptyPath) := by
  unfold Conditions.kept
  cases hpath : cs[Key.path]? with
  | none => simp [hpath]
  | some c =>
    cases hempty : c.isEmptyPath with
    | true => simp [hempty, Option.filter]
    | false => simp [hpath, hempty, Option.filter]

theorem Conditions.getElem?_kept {k : Key} (h : k ≠ .path) (cs : Conditions) :
    cs.kept[k]? = cs[k]? := by
  unfold Conditions.kept
  split
  · rw [Std.ExtTreeMap.getElem?_erase, if_neg (by simpa using Ne.symm h)]
  · rfl

/-- What is inserted for the entries of a list is found, if no key comes twice. -/
theorem getElem?_foldl_insert {β γ : Type} (g : Key → β → γ) {l : List (Key × β)}
    (hl : l.Pairwise fun p q => p.1 ≠ q.1) (m : Std.ExtTreeMap Key γ) (k : Key) :
    (∀ b, (k, b) ∈ l → (l.foldl (fun m p => m.insert p.1 (g p.1 p.2)) m)[k]? = some (g k b)) ∧
      ((∀ b, (k, b) ∉ l) → (l.foldl (fun m p => m.insert p.1 (g p.1 p.2)) m)[k]? = m[k]?) := by
  -- An entry is not overwritten by later ones, since keys are distinct.
  induction l generalizing m with
  | nil => exact ⟨nofun, fun _ => rfl⟩
  | cons p l ih =>
    obtain ⟨hp, hl⟩ := List.pairwise_cons.mp hl
    obtain ⟨hfound, habsent⟩ := ih hl (m.insert p.1 (g p.1 p.2))
    refine ⟨fun b hb => ?_, fun hb => ?_⟩
    · rcases List.mem_cons.mp hb with rfl | hb
      · rw [List.foldl_cons, habsent fun b hb => hp _ hb rfl]
        exact Std.ExtTreeMap.getElem?_insert_self
      · exact hfound b hb
    · have hne : p.1 ≠ k := by
        rintro rfl
        exact hb p.2 List.mem_cons_self
      rw [List.foldl_cons, habsent fun b hb' => hb b (List.mem_cons_of_mem _ hb'),
        Std.ExtTreeMap.getElem?_insert, if_neg (by simpa using hne)]

theorem pairwise_toList {β : Type} (m : Std.ExtTreeMap Key β) :
    m.toList.Pairwise fun p q => p.1 ≠ q.1 :=
  m.distinct_keys_toList.imp fun h heq => h (by simpa using heq)

namespace Node

/-- The node with some more conditions, one after the other. -/
def addAll (l : List (Key × Condition)) (n : Node) : Node :=
  l.foldl (fun n p => n.addCondition {} p.1 p.2) n

theorem ofConditions_eq (cs : Conditions) (ps : Params) :
    Node.ofConditions {} cs ps = addAll cs.kept.toList { params := ps } := rfl

/-- What the conditions of a node put into one of its maps is found there. -/
theorem getElem?_ofConditions (o : Options) (part : Node → Std.ExtTreeMap Key String)
    (g : Key → Condition → String)
    (hpart : ∀ n k c, part (addCondition o n k c) = (part n).insert k (g k c))
    (cs : Conditions) {ps : Params} (hempty : part { params := ps } = ∅) (k : Key) :
    (part (Node.ofConditions o cs ps))[k]? = cs.kept[k]?.map (g k) := by
  have hfold : ∀ (l : List (Key × Condition)) (n : Node),
      part (l.foldl (fun n p => n.addCondition o p.1 p.2) n) =
        l.foldl (fun m p => m.insert p.1 (g p.1 p.2)) (part n) := by
    intro l
    induction l with
    | nil => exact fun n => rfl
    | cons p l ih =>
      intro n
      rw [List.foldl_cons, List.foldl_cons, ← hpart]
      exact ih (n.addCondition o p.1 p.2)
  have hnode : Node.ofConditions o cs ps =
      cs.kept.toList.foldl (fun n p => n.addCondition o p.1 p.2) { params := ps } := rfl
  obtain ⟨hfound, habsent⟩ := getElem?_foldl_insert g (pairwise_toList cs.kept) ∅ k
  rw [hnode, hfold, hempty]
  cases hk : cs.kept[k]? with
  | some c => exact hfound c (by simpa using hk)
  | none => exact habsent (by simp [hk])

/-- The conditions of a node are the given ones, expanded. -/
theorem getElem?_conditions (cs : Conditions) (ps : Params) (k : Key) :
    (Node.ofConditions {} cs ps).conditions[k]? =
      cs.kept[k]?.map fun c => (expand (c.tested k).source defaultPlaceholder).source := by
  refine getElem?_ofConditions {} (·.conditions)
    (fun k c => (expand (c.tested k).source defaultPlaceholder).source) (fun n k c => ?_) cs rfl k
  simp only [addCondition, Condition.tested, Bool.and_true, decide_eq_true_eq]

/-- The texts to generate from are those of the given conditions. -/
theorem getElem?_spellings (cs : Conditions) (ps : Params) (k : Key) :
    (Node.ofConditions {} cs ps).spellings[k]? =
      cs.kept[k]?.map fun c => (c.tested k).spelling := by
  refine getElem?_ofConditions {} (·.spellings) (fun k c => (c.tested k).spelling)
    (fun n k c => ?_) cs rfl k
  simp only [addCondition, Condition.tested, Bool.and_true, decide_eq_true_eq]

theorem isPattern_tested (k : Key) (c : Condition) : (c.tested k).isPattern = c.isPattern := by
  unfold Condition.tested
  split
  · cases c with
    | literal t => rfl
    | pattern s =>
      rw [Condition.foldCase]
      split <;> rfl
  · rfl

/-- A node has a pattern if one of its conditions is one. -/
theorem hasPattern_ofConditions (cs : Conditions) (ps : Params) :
    (Node.ofConditions {} cs ps).hasPattern = cs.kept.toList.any (·.2.isPattern) := by
  have hfold : ∀ (l : List (Key × Condition)) (n : Node),
      (addAll l n).hasPattern = (n.hasPattern || l.any (·.2.isPattern)) := by
    intro l
    induction l with
    | nil => exact fun n => (Bool.or_false _).symm
    | cons p l ih =>
      intro n
      have hadd : (n.addCondition {} p.1 p.2).hasPattern =
          (n.hasPattern || (p.2.tested p.1).isPattern) := by
        simp only [addCondition, Condition.tested, Bool.and_true, decide_eq_true_eq]
      rw [List.any_cons, ← Bool.or_assoc, ← isPattern_tested p.1, ← hadd]
      exact ih (n.addCondition {} p.1 p.2)
  rw [ofConditions_eq, hfold]
  rfl

/-- A condition without placeholders adds none to a node, and no parameters. -/
theorem addCondition_isPlain {c : Condition} (h : c.IsPlain) (n : Node) (k : Key) :
    (n.addCondition {} k c).params = n.params ∧
      (n.addCondition {} k c).placeholders = n.placeholders := by
  have hnone := h.tested (k := k)
  simp only [Condition.IsPlain, Condition.tested] at hnone
  simp only [addCondition, Bool.and_true, decide_eq_true_eq]
  rw [hnone]
  exact ⟨rfl, rfl⟩

theorem addAll_isPlain {l : List (Key × Condition)} (h : ∀ p ∈ l, p.2.IsPlain) (n : Node) :
    (addAll l n).params = n.params ∧ (addAll l n).placeholders = n.placeholders := by
  induction l generalizing n with
  | nil => exact ⟨rfl, rfl⟩
  | cons p l ih =>
    obtain ⟨hp, hl⟩ := List.forall_mem_cons.mp h
    obtain ⟨hparams, hplaceholders⟩ := addCondition_isPlain hp n p.1
    obtain ⟨hparams', hplaceholders'⟩ := ih hl (n.addCondition {} p.1 p.2)
    exact ⟨hparams'.trans hparams, hplaceholders'.trans hplaceholders⟩

end Node

/-- The number of the last group, among those that some pieces open, that stands for a placeholder
of the given name. -/
def Placeholder.lastGroup (name : List Char) : List Piece → Option Nat
  | [] => none
  | .char _ :: ps => lastGroup name ps
  | .opening :: ps => (lastGroup name ps).map (· + 1)
  | .token n :: ps => ((lastGroup name ps).map (· + 1)).or (if n = some name then some 1 else none)

theorem getElem?_foldl_captures (ps : List Piece) (n : Nat)
    (m : Std.ExtTreeMap String (Key × Nat)) (name : String) :
    (((captures n ps).filterMap fun (name, i) => name.map (·, i)).foldl
        (fun m (name, i) => m.insert name (Key.path, i)) m)[name]? =
      ((lastGroup name.toList ps).map fun i => (Key.path, n + i)).or m[name]? := by
  -- Later insertions win, and the groups of the later pieces are counted behind the first one.
  induction ps generalizing n m with
  | nil => rfl
  | cons p ps ih =>
    have hshift : ((lastGroup name.toList ps).map fun i => (Key.path, n + 1 + i)) =
        ((lastGroup name.toList ps).map (· + 1)).map fun i => (Key.path, n + i) := by
      rw [Option.map_map]
      congr 1
      funext i
      simp [Nat.add_assoc, Nat.add_comm 1]
    cases p with
    | char c => exact ih n m
    | opening =>
      rw [captures, ih, lastGroup, hshift]
    | token token =>
      rw [lastGroup]
      cases token with
      | none =>
        refine (ih (n + 1) m).trans ?_
        rw [hshift, if_neg (by simp), Option.or_none]
      | some token =>
        refine (ih (n + 1) (m.insert (String.ofList token) (Key.path, n + 1))).trans ?_
        rw [hshift, Option.map_or, Option.or_assoc]
        congr 1
        rw [Std.ExtTreeMap.getElem?_insert]
        by_cases h : String.ofList token = name
        · have htoken : some token = some name.toList := by rw [← h, String.toList_ofList]
          rw [if_pos (by simpa using h), if_pos htoken]
          rfl
        · have htoken : some token ≠ some name.toList := by
            rintro heq
            rw [Option.some.inj heq, String.ofList_toList] at h
            exact h rfl
          rw [if_neg (by simpa using h), if_neg htoken]
          rfl

/-- The first insertion of a name counts. -/
theorem getElem?_insertIfNew_or (ps : Params) (name value x : String) :
    (ps.insertIfNew name value)[x]? =
      ps[x]?.or (if name = x then some value else none) := by
  rw [Std.ExtTreeMap.getElem?_insertIfNew]
  by_cases hname : name = x
  · subst hname
    cases hvalue : ps[name]? with
    | none =>
      have hnew : name ∉ ps := by
        rw [Std.ExtTreeMap.mem_iff_isSome_getElem?, hvalue]
        exact Bool.false_ne_true
      rw [if_pos ⟨by simp, hnew⟩, if_pos rfl]
      rfl
    | some v =>
      have hold : name ∈ ps := Std.ExtTreeMap.mem_iff_isSome_getElem?.mpr (by simp [hvalue])
      rw [if_neg fun hnew => hnew.2 hold]
      rfl
  · rw [if_neg fun hnew => hname (by simpa using hnew.1), if_neg hname, Option.or_none]

theorem getElem?_foldl_reading (ps : List Piece) (n : Nat) (m : Params) (name : String) :
    (((captures n ps).filterMap fun (name, i) => name.map (·, i)).foldl
        (fun m (name, _) => m.insertIfNew name (Node.reading name)) m)[name]? =
      m[name]?.or
        (if .token (some name.toList) ∈ ps then some (Node.reading name) else none) := by
  -- The first insertion of a name wins, but every insertion of a name has the same value.
  induction ps generalizing n m with
  | nil => simp [captures]
  | cons p ps ih =>
    cases p with
    | char c => exact (ih n m).trans (by simp)
    | opening => exact (ih (n + 1) m).trans (by simp)
    | token token =>
      cases token with
      | none => exact (ih (n + 1) m).trans (by simp)
      | some token =>
        refine (ih (n + 1) (m.insertIfNew (String.ofList token)
          (Node.reading (String.ofList token)))).trans ?_
        rw [getElem?_insertIfNew_or, Option.or_assoc]
        congr 1
        by_cases h : String.ofList token = name
        · subst h
          simp
        · have hne : Piece.token (some name.toList) ≠ .token (some token) := by
            rintro ⟨rfl⟩
            exact h String.ofList_toList
          simp [h, hne]

namespace Node

variable {cs : Conditions}

/-- Conditions before and behind the one on the path have no placeholders, so only its own count. -/
theorem ofConditions_of_path (hother : ∀ k c, k ≠ Key.path → cs[k]? = some c → c.IsPlain)
    {c : Condition} (hpath : cs.kept[Key.path]? = some c) (ps : Params) :
    ∃ n : Node, n.params = ps ∧ n.placeholders = ∅ ∧
      (Node.ofConditions {} cs ps).params = (n.addCondition {} .path c).params ∧
      (Node.ofConditions {} cs ps).placeholders = (n.addCondition {} .path c).placeholders := by
  -- Conditions are added in the order of their keys, some of which come before the path.
  obtain ⟨before, after, hsplit⟩ := List.append_of_mem
    (Std.ExtTreeMap.mem_toList_iff_getElem?_eq_some.mpr hpath)
  have hdistinct := pairwise_toList cs.kept
  rw [hsplit] at hdistinct
  obtain ⟨-, hbehind, hbefore⟩ := List.pairwise_append.mp hdistinct
  have hplain : ∀ p ∈ cs.kept.toList, p.1 ≠ Key.path → p.2.IsPlain := by
    intro p hp hne
    refine hother p.1 p.2 hne ?_
    rw [← Conditions.getElem?_kept hne cs]
    exact Std.ExtTreeMap.mem_toList_iff_getElem?_eq_some.mp hp
  have hbeforePlain : ∀ p ∈ before, p.2.IsPlain := fun p hp =>
    hplain p (by simp [hsplit, hp]) (hbefore p hp _ List.mem_cons_self)
  have hafterPlain : ∀ p ∈ after, p.2.IsPlain := fun p hp =>
    hplain p (by simp [hsplit, hp]) ((List.pairwise_cons.mp hbehind).1 p hp).symm
  have hsteps : addAll (before ++ (.path, c) :: after) { params := ps } =
      addAll after ((addAll before { params := ps }).addCondition {} .path c) :=
    List.foldl_append
  obtain ⟨hparams, hplaceholders⟩ := addAll_isPlain hbeforePlain { params := ps }
  rw [ofConditions_eq, hsplit, hsteps]
  exact ⟨_, hparams, hplaceholders, addAll_isPlain hafterPlain _⟩

theorem getElem?_placeholders (hother : ∀ k c, k ≠ Key.path → cs[k]? = some c → c.IsPlain)
    {c : Condition} {s : Shape} (hpath : cs.kept[Key.path]? = some c) (hc : s.Describes c)
    (ps : Params) (name : String) :
    (Node.ofConditions {} cs ps).placeholders[name]? =
      (lastGroup name.toList s.pieces).map (Key.path, ·) := by
  obtain ⟨n, -, hempty, -, hplaceholders⟩ := ofConditions_of_path hother hpath ps
  rw [hplaceholders]
  simp only [addCondition, reduceCtorEq, decide_false, Bool.false_and, Bool.false_eq_true, if_false,
    hc.expand_eq, hempty]
  refine (getElem?_foldl_captures s.pieces 0 ∅ name).trans ?_
  simp

/-- A node reads the placeholders of its path, unless it has parameters of the same names. -/
theorem getElem?_params (hother : ∀ k c, k ≠ Key.path → cs[k]? = some c → c.IsPlain)
    {c : Condition} {s : Shape} (hpath : cs.kept[Key.path]? = some c) (hc : s.Describes c)
    (ps : Params) (name : String) :
    (Node.ofConditions {} cs ps).params[name]? = ps[name]?.or
      (if .token (some name.toList) ∈ s.pieces then some (reading name) else none) := by
  obtain ⟨n, hown, -, hparams, -⟩ := ofConditions_of_path hother hpath ps
  rw [hparams]
  simp only [addCondition, reduceCtorEq, decide_false, Bool.false_and, Bool.false_eq_true, if_false,
    hc.expand_eq, hown]
  exact getElem?_foldl_reading s.pieces 0 ps name

/-- A node without a path condition has no placeholders, and only the parameters it was given. -/
theorem ofConditions_of_none (hother : ∀ k c, k ≠ Key.path → cs[k]? = some c → c.IsPlain)
    (hpath : cs.kept[Key.path]? = none) (ps : Params) :
    (Node.ofConditions {} cs ps).params = ps ∧ (Node.ofConditions {} cs ps).placeholders = ∅ := by
  refine @addAll_isPlain cs.kept.toList (fun p hp => ?_) { params := ps }
  have hmem : cs.kept[p.1]? = some p.2 := Std.ExtTreeMap.mem_toList_iff_getElem?_eq_some.mp hp
  have hne : p.1 ≠ .path := by
    intro h
    rw [h, hpath] at hmem
    cases hmem
  exact hother p.1 p.2 hne ((Conditions.getElem?_kept hne cs).symm.trans hmem)

end Node

/-! ### Groups of placeholders -/

namespace Placeholder

variable {name : List Char}

/-- Placeholders further to the right count, and their groups come after those to the left. -/
theorem lastGroup_append (ps qs : List Piece) :
    lastGroup name (ps ++ qs) =
      ((lastGroup name qs).map (· + ps.countP (·.opensGroup))).or (lastGroup name ps) := by
  have hshift : ∀ n : Nat, (((lastGroup name qs).map (· + n)).map (· + 1)) =
      (lastGroup name qs).map (· + (n + 1)) := by
    intro n
    rw [Option.map_map]
    rfl
  -- The groups of the first part are counted one by one from the left.
  induction ps with
  | nil => simp [lastGroup]
  | cons p ps ih =>
    cases p with
    | char c =>
      rw [List.cons_append, lastGroup, ih, List.countP_cons_of_neg Bool.false_ne_true, lastGroup]
    | opening =>
      rw [List.cons_append, lastGroup, ih, List.countP_cons_of_pos rfl, lastGroup, Option.map_or,
        hshift]
    | token n =>
      rw [List.cons_append, lastGroup, ih, List.countP_cons_of_pos rfl, lastGroup, Option.map_or,
        hshift, Option.or_assoc]

/-- There is a group for every name among the placeholders, and for no other. -/
theorem isSome_lastGroup {ps : List Piece} :
    (lastGroup name ps).isSome = true ↔ .token (some name) ∈ ps := by
  induction ps with
  | nil => simp [lastGroup]
  | cons p ps ih =>
    cases p with
    | char c => simp [lastGroup, ih]
    | opening => simp [lastGroup, ih]
    | token n =>
      rw [lastGroup, Option.isSome_or, Bool.or_eq_true, Option.isSome_map, ih, List.mem_cons,
        Piece.token.injEq, or_comm]
      refine or_congr_left ?_
      by_cases h : n = some name
      · simp [h]
      · simp [h, Ne.symm h]

theorem lastGroup_eq_none {ps : List Piece} (h : .token (some name) ∉ ps) :
    lastGroup name ps = none :=
  Option.not_isSome_iff_eq_none.mp (mt isSome_lastGroup.mp h)

/-- The group of a placeholder behind which there is none of the same name. -/
theorem lastGroup_split {ps before after : List Piece}
    (h : ps = before ++ .token (some name) :: after) (hafter : .token (some name) ∉ after) :
    lastGroup name ps = some (before.countP (·.opensGroup) + 1) := by
  rw [h, lastGroup_append, lastGroup, lastGroup_eq_none hafter, if_pos rfl]
  exact congrArg some (Nat.add_comm 1 _)

end Placeholder

end HttpRouting
