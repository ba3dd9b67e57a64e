import HttpRouting.Proofs.TemplateGrammar

/-!
# Templates and their grammar

The reading of a parameter value says everything about its template: which reference is at fault if
there is none, what its parts are if there is one, and what it becomes in a match.

## Main definitions

* `Template.Faulty` — what may be wrong with a reference
* `Template.Assembles` — parts are the references of a value and the longest texts between them
* `Template.replaced` — what a piece of a value becomes in a match

## Main results

* `Template.mapM_ofRun_iff` — the parts of a value
* `Template.mapM_ofRun_eq_error_iff` — its fault
* `Template.render_of_assembles` — the value in a match
* `Template.parse_iff_grammar` — values follow their grammar
-/

namespace HttpRouting.Template

/-! ### Faults -/

variable {r : Reference} {param value : String} {placeholders : String → Option (Key × Nat)}
  {groups : Key → Option Nat} {xs : List (Char ⊕ Reference)} {ps : List Part}

/-- What may be wrong with a reference of a parameter. -/
inductive Faulty (param : String) (placeholders : String → Option (Key × Nat))
    (groups : Key → Option Nat) : Reference → PatternError → Prop where
  /-- No placeholder has the name. -/
  | unknown {name : String} (h : placeholders name = none) :
      Faulty param placeholders groups (.placeholder name) (.unknownPlaceholder param name)
  /-- There is no such condition. -/
  | absent {k : Key} {n : Nat} (h : groups k = none) :
      Faulty param placeholders groups (.capture k n) (.unknownCondition param k.name)
  /-- The condition has fewer groups. -/
  | above {k : Key} {n available : Nat} (h : groups k = some available) (hlt : available < n) :
      Faulty param placeholders groups (.capture k n)
        (.captureOutOfRange param k.name n available)

/-- The group of a condition that a reference stands for. -/
def target (placeholders : String → Option (Key × Nat)) : Reference → Option (Key × Nat)
  | .placeholder name => placeholders name
  | .capture k n => some (k, n)

theorem resolve_eq_error_iff {e : PatternError} :
    resolve param placeholders groups r = .error e ↔ Faulty param placeholders groups r e := by
  constructor
  · intro h
    unfold resolve at h
    split at h
    · split at h
      · cases h
      · next hnone =>
        obtain rfl := Except.error.inj h
        exact .unknown hnone
    · split at h
      · next hnone =>
        obtain rfl := Except.error.inj h
        exact .absent hnone
      · next available havailable =>
        split at h
        · next hlt =>
          obtain rfl := Except.error.inj h
          exact .above havailable hlt
        · cases h
  · rintro (hnone | hnone | ⟨havailable, hlt⟩)
    · simp only [resolve, hnone]
    · simp only [resolve, hnone]
    · simp only [resolve, havailable, if_pos hlt]

theorem eq_capture_of_resolve {p : Part} (h : resolve param placeholders groups r = .ok p) :
    ∃ k n, target placeholders r = some (k, n) ∧ p = .capture k n := by
  unfold resolve at h
  split at h
  · split at h
    · next k n hsome => exact ⟨k, n, hsome, (Except.ok.inj h).symm⟩
    · cases h
  · next k n =>
    split at h
    · cases h
    · split at h
      · cases h
      · exact ⟨k, n, rfl, (Except.ok.inj h).symm⟩

/-- A reference is resolved unless something is wrong with it. -/
theorem resolve_eq_ok_iff {p : Part} : resolve param placeholders groups r = .ok p ↔
    (∀ e, ¬ Faulty param placeholders groups r e) ∧
      ∃ k n, target placeholders r = some (k, n) ∧ p = .capture k n := by
  simp only [← resolve_eq_error_iff]
  constructor
  · intro h
    refine ⟨fun e he => ?_, eq_capture_of_resolve h⟩
    rw [h] at he
    cases he
  · rintro ⟨hfault, k, n, htarget, rfl⟩
    cases hr : resolve param placeholders groups r with
    | error e => exact absurd hr (hfault e)
    | ok p =>
      obtain ⟨k', n', htarget', rfl⟩ := eq_capture_of_resolve hr
      obtain ⟨rfl, rfl⟩ := Prod.mk.inj (Option.some.inj (htarget.symm.trans htarget'))
      rfl

/-! ### Parts -/

/-- Parts stand for a value: its references in order, and between them the longest texts. -/
inductive Assembles (placeholders : String → Option (Key × Nat)) :
    List (Char ⊕ Reference) → List Part → Prop where
  /-- Nothing is left. -/
  | nil : Assembles placeholders [] []
  /-- A reference. -/
  | capture {r : Reference} {k : Key} {n : Nat} {xs : List (Char ⊕ Reference)} {ps : List Part}
      (h : target placeholders r = some (k, n)) (hps : Assembles placeholders xs ps) :
      Assembles placeholders (.inr r :: xs) (.capture k n :: ps)
  /-- A text, up to the next reference or the end. -/
  | literal {cs : List Char} {xs : List (Char ⊕ Reference)} {ps : List Part} (hcs : cs ≠ [])
      (hxs : ∀ x ∈ xs.head?, x.isRight = true) (hps : Assembles placeholders xs ps) :
      Assembles placeholders (cs.map .inl ++ xs) (.literal (String.ofList cs) :: ps)

/-- Only the empty value has no parts. -/
theorem assembles_nil_iff : Assembles placeholders xs [] ↔ xs = [] := by
  constructor
  · intro h
    cases h
    rfl
  · rintro rfl
    exact .nil

theorem eq_nil_of_assembles (h : Assembles placeholders [] ps) : ps = [] := by
  generalize hxs : ([] : List (Char ⊕ Reference)) = xs at h
  cases h with
  | nil => rfl
  | capture htarget hps => cases hxs
  | literal hcs hright hps => simp [hcs] at hxs

theorem assembles_inr (h : Assembles placeholders (.inr r :: xs) ps) :
    ∃ k n ps', target placeholders r = some (k, n) ∧ ps = .capture k n :: ps' ∧
      Assembles placeholders xs ps' := by
  generalize hys : Sum.inr r :: xs = ys at h
  cases h with
  | nil => cases hys
  | capture htarget hps =>
    obtain ⟨heq, rfl⟩ := List.cons.inj hys
    obtain rfl := Sum.inr.inj heq
    exact ⟨_, _, _, htarget, rfl, hps⟩
  | @literal cs xs ps hcs hright hps =>
    cases cs with
    | nil => exact absurd rfl hcs
    | cons c cs => cases hys

/-- A character in front makes the first text longer, or is a text of its own. -/
theorem mapM_ofRun_pushChar {c : Char} {rs : List (List Char ⊕ Reference)}
    (h : (pushChar c rs).mapM (ofRun param placeholders groups) = .ok ps) :
    (∃ cs rs' ps', rs = .inl cs :: rs' ∧ ps = .literal (String.ofList (c :: cs)) :: ps' ∧
      rs.mapM (ofRun param placeholders groups) = .ok (.literal (String.ofList cs) :: ps')) ∨
    ((∀ x ∈ rs.head?, x.isRight = true) ∧ ∃ ps', ps = .literal (String.ofList [c]) :: ps' ∧
      rs.mapM (ofRun param placeholders groups) = .ok ps') := by
  match rs with
  | .inl cs :: rs =>
    obtain ⟨p, ps', hp, hps', rfl⟩ := mapM_cons_eq_ok.mp h
    obtain rfl := Except.ok.inj hp
    exact .inl ⟨cs, rs, ps', rfl, rfl, mapM_cons_eq_ok.mpr ⟨_, ps', rfl, hps', rfl⟩⟩
  | [] =>
    obtain ⟨p, ps', hp, hps', rfl⟩ := mapM_cons_eq_ok.mp h
    obtain rfl := Except.ok.inj hp
    exact .inr ⟨nofun, ps', rfl, hps'⟩
  | .inr r :: rs =>
    obtain ⟨p, ps', hp, hps', rfl⟩ := mapM_cons_eq_ok.mp h
    obtain rfl := Except.ok.inj hp
    exact .inr ⟨by simp, ps', rfl, hps'⟩

/-- Where no text starts, no run is one. -/
theorem isRight_of_runs {α : Type} {xs : List (Char ⊕ α)}
    (h : ∀ x ∈ (runs xs).head?, x.isRight = true) : ∀ x ∈ xs.head?, x.isRight = true := by
  match xs with
  | [] => nofun
  | .inr a :: xs => simp
  | .inl c :: xs =>
    rw [runs] at h
    unfold pushChar at h
    split at h <;> cases h _ rfl

theorem assembles_of_mapM
    (h : (runs xs).mapM (ofRun param placeholders groups) = .ok ps) :
    Assembles placeholders xs ps := by
  induction xs generalizing ps with
  | nil =>
    obtain rfl : [] = ps := Except.ok.inj h
    exact .nil
  | cons x xs ih =>
    cases x with
    | inr r =>
      obtain ⟨p, ps, hp, hps, rfl⟩ := mapM_cons_eq_ok.mp h
      obtain ⟨k, n, htarget, rfl⟩ := eq_capture_of_resolve hp
      exact .capture htarget (ih hps)
    | inl c =>
      rcases mapM_ofRun_pushChar h with ⟨cs, rs, ps, -, rfl, hps⟩ | ⟨hright, ps, rfl, hps⟩
      · -- The first part is the text that goes on, so the rest assembles to what follows it.
        generalize hfirst : String.ofList cs = first at hps
        cases ih hps with
        | @literal cs' xs ps hcs hxs hassembles =>
          obtain rfl := String.ofList_injective hfirst
          exact .literal (List.cons_ne_nil c cs) hxs hassembles
      · exact .literal (List.cons_ne_nil c []) (isRight_of_runs hright) (ih hps)

theorem mapM_of_assembles (h : Assembles placeholders xs ps)
    (hfault : ∀ r, .inr r ∈ xs → ∀ e, ¬ Faulty param placeholders groups r e) :
    (runs xs).mapM (ofRun param placeholders groups) = .ok ps := by
  induction h with
  | nil => rfl
  | capture htarget hps ih =>
    have hresolve := resolve_eq_ok_iff.mpr
      ⟨hfault _ List.mem_cons_self, _, _, htarget, rfl⟩
    exact mapM_cons_eq_ok.mpr
      ⟨_, _, hresolve, ih fun r hr => hfault r (List.mem_cons_of_mem _ hr), rfl⟩
  | literal hcs hxs hps ih =>
    rw [runs_map_inl_append hcs hxs]
    exact mapM_cons_eq_ok.mpr
      ⟨_, _, rfl, ih fun r hr => hfault r (List.mem_append_right _ hr), rfl⟩

/-- The parts of a value: there are some exactly if nothing is wrong with a reference. -/
theorem mapM_ofRun_iff : (runs xs).mapM (ofRun param placeholders groups) = .ok ps ↔
    (∀ r, .inr r ∈ xs → ∀ e, ¬ Faulty param placeholders groups r e) ∧
      Assembles placeholders xs ps := by
  refine ⟨fun h => ⟨fun r hr => ?_, assembles_of_mapM h⟩, fun h => mapM_of_assembles h.2 h.1⟩
  obtain ⟨p, hp⟩ := exists_mapM_eq_ok_iff.mp ⟨ps, h⟩ (.inr r) (inr_mem_runs.mpr hr)
  exact (resolve_eq_ok_iff.mp hp).1

/-- A list is refused at its first element, or behind it. -/
theorem mapM_cons_eq_error {ε α β : Type} {f : α → Except ε β} {a : α} {as : List α} {e : ε} :
    (a :: as).mapM f = .error e ↔
      f a = .error e ∨ (∃ b, f a = .ok b) ∧ as.mapM f = .error e := by
  rw [List.mapM_cons]
  cases f a with
  | error e' => simp [bind, Except.bind]
  | ok b =>
    cases as.mapM f with
    | error e' => simp [bind, Except.bind]
    | ok bs => simp [bind, Except.bind, pure, Except.pure]

/-- A character is never refused. -/
theorem mapM_ofRun_pushChar_eq_error_iff {c : Char} {rs : List (List Char ⊕ Reference)}
    {e : PatternError} :
    (pushChar c rs).mapM (ofRun param placeholders groups) = .error e ↔
      rs.mapM (ofRun param placeholders groups) = .error e := by
  have hliteral : ∀ (cs : List Char) (rs : List (List Char ⊕ Reference)),
      (.inl cs :: rs).mapM (ofRun param placeholders groups) = .error e ↔
        rs.mapM (ofRun param placeholders groups) = .error e := by
    intro cs rs
    rw [mapM_cons_eq_error, ofRun]
    simp
  unfold pushChar
  split
  · rw [hliteral, hliteral]
  · exact hliteral [c] rs

/-- The error is that of the first reference that something is wrong with. -/
theorem mapM_ofRun_eq_error_iff {e : PatternError} :
    (runs xs).mapM (ofRun param placeholders groups) = .error e ↔
      ∃ before r after, xs = before ++ .inr r :: after ∧ Faulty param placeholders groups r e ∧
        ∀ r', .inr r' ∈ before → ∀ e', ¬ Faulty param placeholders groups r' e' := by
  -- Characters in front cannot fail, so they only lengthen what stands before the first fault.
  induction xs with
  | nil =>
    constructor
    · nofun
    · rintro ⟨before, r, after, hsplit, -⟩
      simp at hsplit
  | cons x xs ih =>
    cases x with
    | inl c =>
      rw [runs, mapM_ofRun_pushChar_eq_error_iff, ih]
      constructor
      · rintro ⟨before, r, after, rfl, hfault, hbefore⟩
        exact ⟨.inl c :: before, r, after, rfl, hfault, by simpa using hbefore⟩
      · rintro ⟨before, r, after, hsplit, hfault, hbefore⟩
        cases before with
        | nil => cases hsplit
        | cons x before =>
          obtain ⟨rfl, rfl⟩ := List.cons.inj hsplit
          exact ⟨before, r, after, rfl, hfault, by simpa using hbefore⟩
    | inr r =>
      rw [runs, mapM_cons_eq_error, ih, ofRun, resolve_eq_error_iff]
      constructor
      · rintro (hfault | ⟨⟨p, hp⟩, before, r', after, rfl, hfault, hbefore⟩)
        · exact ⟨[], r, xs, rfl, hfault, fun r' hr' => absurd hr' List.not_mem_nil⟩
        · refine ⟨.inr r :: before, r', after, rfl, hfault, fun r'' hr'' => ?_⟩
          rcases List.mem_cons.mp hr'' with heq | hmem
          · obtain rfl := Sum.inr.inj heq
            exact (resolve_eq_ok_iff.mp hp).1
          · exact hbefore r'' hmem
      · rintro ⟨before, r', after, hsplit, hfault, hbefore⟩
        cases before with
        | nil =>
          obtain ⟨heq, rfl⟩ := List.cons.inj hsplit
          obtain rfl := Sum.inr.inj heq
          exact .inl hfault
        | cons x before =>
          obtain ⟨rfl, rfl⟩ := List.cons.inj hsplit
          refine .inr ⟨?_, before, r', after, rfl, hfault,
            fun r'' hr'' => hbefore r'' (List.mem_cons_of_mem _ hr'')⟩
          cases hr : resolve param placeholders groups r with
          | ok p => exact ⟨p, rfl⟩
          | error e' => exact absurd (resolve_eq_error_iff.mp hr) (hbefore r List.mem_cons_self e')

/-! ### Values -/

/-- What the group that a reference stands for has captured. -/
def groupText (placeholders : String → Option (Key × Nat)) (captured : Key → Nat → Option String)
    (r : Reference) : Option String :=
  (target placeholders r).bind fun p => captured p.1 p.2

/-- What a piece of a value becomes: a reference becomes the text of its group, and nothing if the
group took no part in the match. -/
def replaced (placeholders : String → Option (Key × Nat)) (captured : Key → Nat → Option String) :
    Char ⊕ Reference → List Char
  | .inl c => [c]
  | .inr r => ((groupText placeholders captured r).getD "").toList

variable {captured : Key → Nat → Option String}

/-- A single capture comes from a single reference. -/
theorem assembles_single {k : Key} {n : Nat} (h : Assembles placeholders xs [.capture k n]) :
    ∃ r, xs = [.inr r] ∧ target placeholders r = some (k, n) := by
  cases h with
  | capture htarget hps =>
    cases hps
    exact ⟨_, rfl, htarget⟩

theorem toList_join_of_assembles (h : Assembles placeholders xs ps) :
    (String.join (ps.map fun
      | .literal s => s
      | .capture k n => (captured k n).getD "")).toList =
      xs.flatMap (replaced placeholders captured) := by
  induction h with
  | nil => rfl
  | capture htarget hps ih =>
    rw [List.map_cons, String.join_cons, String.toList_append, ih, List.flatMap_cons, replaced,
      groupText, htarget]
    rfl
  | @literal cs xs ps hcs hxs hps ih =>
    have hchars : (cs.map Sum.inl).flatMap (replaced placeholders captured) = cs := by
      rw [List.flatMap_map]
      exact List.flatMap_singleton' cs
    rw [List.map_cons, String.join_cons, String.toList_append, ih, List.flatMap_append, hchars,
      String.toList_ofList]

theorem parts_of_capture? {t : Template} {k : Key} {n : Nat} (h : t.capture? = some (k, n)) :
    t.parts = [.capture k n] := by
  unfold capture? at h
  split at h
  · next hparts =>
    obtain ⟨rfl, rfl⟩ := Prod.mk.inj (Option.some.inj h)
    exact hparts
  · cases h

/-- A value is its text with every reference replaced, except that a value that is one reference is
absent if its group took no part in the match. -/
theorem render_of_assembles {t : Template} (h : Assembles placeholders xs t.parts) :
    (∀ r, xs = [.inr r] → t.render captured = groupText placeholders captured r) ∧
    ((∀ r, xs ≠ [.inr r]) →
      t.render captured = some (String.ofList (xs.flatMap (replaced placeholders captured)))) := by
  constructor
  · rintro r rfl
    obtain ⟨parts⟩ := t
    obtain ⟨k, n, ps, htarget, hparts, hps⟩ := assembles_inr h
    obtain rfl := eq_nil_of_assembles hps
    obtain rfl : parts = _ := hparts
    rw [groupText, htarget]
    rfl
  · intro hsingle
    cases hcapture : t.capture? with
    | some p =>
      rw [parts_of_capture? hcapture] at h
      obtain ⟨r, rfl, -⟩ := assembles_single h
      exact absurd rfl (hsingle r)
    | none =>
      rw [← toList_join_of_assembles h, String.ofList_toList]
      unfold render
      split
      · next hsome =>
        rw [hcapture] at hsome
        cases hsome
      · rfl

theorem parse_eq_error_iff {e : PatternError} :
    parse param value placeholders groups = .error e ↔
      (runs (references value.toList)).mapM (ofRun param placeholders groups) = .error e := by
  unfold parse
  cases (runs (references value.toList)).mapM (ofRun param placeholders groups) with
  | error e' => simp [bind, Except.bind]
  | ok ps => cases ps <;> exact ⟨nofun, nofun⟩

theorem parse_eq_ok_iff {t : Template} : parse param value placeholders groups = .ok t ↔
    ∃ ps, (runs (references value.toList)).mapM (ofRun param placeholders groups) = .ok ps ∧
      (ps = [] ∧ t.parts = [.literal ""] ∨ ps ≠ [] ∧ t.parts = ps) := by
  rw [parse, except_bind_eq_ok]
  refine exists_congr fun ps => and_congr_right fun _ => ?_
  obtain ⟨parts⟩ := t
  cases ps with
  | nil => simp [ofText, pure, Except.pure, eq_comm]
  | cons p ps => simp [pure, Except.pure, eq_comm]

/-- Values follow their grammar. Every value has exactly one reading. It is refused if something is
wrong with a reference, with the fault of the first such one, and accepted otherwise; its parts are
then its references in order and the longest texts between them, or one empty text if there is
nothing to read. In a match it becomes its text with each reference replaced by what its group
captured, and by nothing if the group took no part; a value that is a single reference is then
absent. -/
theorem parse_iff_grammar (param value : String) (placeholders : String → Option (Key × Nat))
    (groups : Key → Option Nat) :
    ∃ xs, (∀ ys, Reads value.toList ys ↔ ys = xs) ∧
      ((∃ e, parse param value placeholders groups = .error e) ↔
        ∃ r e, .inr r ∈ xs ∧ Faulty param placeholders groups r e) ∧
      (∀ e, parse param value placeholders groups = .error e ↔
        ∃ before r after, xs = before ++ .inr r :: after ∧
          Faulty param placeholders groups r e ∧
          ∀ r', .inr r' ∈ before → ∀ e', ¬ Faulty param placeholders groups r' e') ∧
      (∀ t, parse param value placeholders groups = .ok t ↔
        (∀ r, .inr r ∈ xs → ∀ e, ¬ Faulty param placeholders groups r e) ∧
        (xs = [] ∧ t.parts = [.literal ""] ∨ xs ≠ [] ∧ Assembles placeholders xs t.parts)) ∧
      ∀ t, parse param value placeholders groups = .ok t → ∀ captured,
        (∀ r, xs = [.inr r] → t.render captured = groupText placeholders captured r) ∧
        ((∀ r, xs ≠ [.inr r]) →
          t.render captured =
            some (String.ofList (xs.flatMap (replaced placeholders captured)))) := by
  -- Acceptance and refusal are those of the runs of the value, read in terms of its references.
  have hok : ∀ t, parse param value placeholders groups = .ok t ↔
      (∀ r, .inr r ∈ references value.toList → ∀ e, ¬ Faulty param placeholders groups r e) ∧
      (references value.toList = [] ∧ t.parts = [.literal ""] ∨
        references value.toList ≠ [] ∧
          Assembles placeholders (references value.toList) t.parts) := by
    intro t
    rw [parse_eq_ok_iff]
    simp only [mapM_ofRun_iff]
    constructor
    · rintro ⟨ps, ⟨hfault, hps⟩, ⟨rfl, ht⟩ | ⟨hne, rfl⟩⟩
      · exact ⟨hfault, .inl ⟨assembles_nil_iff.mp hps, ht⟩⟩
      · refine ⟨hfault, .inr ⟨fun hnil => ?_, hps⟩⟩
        rw [hnil] at hps
        exact hne (eq_nil_of_assembles hps)
    · rintro ⟨hfault, ⟨hnil, ht⟩ | ⟨hne, hparts⟩⟩
      · exact ⟨[], ⟨hfault, assembles_nil_iff.mpr hnil⟩, .inl ⟨rfl, ht⟩⟩
      · refine ⟨t.parts, ⟨hfault, hparts⟩, .inr ⟨fun hnil => ?_, rfl⟩⟩
        rw [hnil] at hparts
        exact hne (assembles_nil_iff.mp hparts)
  have herror : ∀ e, parse param value placeholders groups = .error e ↔
      ∃ before r after, references value.toList = before ++ .inr r :: after ∧
        Faulty param placeholders groups r e ∧
        ∀ r', .inr r' ∈ before → ∀ e', ¬ Faulty param placeholders groups r' e' := by
    intro e
    rw [parse_eq_error_iff, mapM_ofRun_eq_error_iff]
  refine ⟨references value.toList, fun ys => reads_iff, ⟨?_, ?_⟩, herror, hok,
    fun t ht captured => ?_⟩
  · rintro ⟨e, he⟩
    obtain ⟨before, r, after, hsplit, hfault, -⟩ := (herror e).mp he
    exact ⟨r, e, by simp [hsplit], hfault⟩
  · rintro ⟨r, e, hr, hfault⟩
    cases hparse : parse param value placeholders groups with
    | error e' => exact ⟨e', rfl⟩
    | ok t => exact absurd hfault (((hok t).mp hparse).1 r hr e)
  · obtain ⟨-, ⟨hnil, hparts⟩ | ⟨-, hparts⟩⟩ := (hok t).mp ht
    · obtain ⟨parts⟩ := t
      obtain rfl : parts = _ := hparts
      rw [hnil]
      exact ⟨nofun, fun _ => rfl⟩
    · exact render_of_assembles hparts

end HttpRouting.Template
