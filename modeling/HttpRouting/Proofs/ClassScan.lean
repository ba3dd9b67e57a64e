import HttpRouting.Proofs.LexemeText
import HttpRouting.Proofs.ScanSteps

/-!
# Scanning classes

The scan leaves a class at the first closing bracket that may close it. A class that lists only
characters, ranges, shorthands and properties ends there, and until then every character is read as
a member or as part of an escape. A class with another class or a named class in it goes on.

## Main definitions

* `Placeholder.Quiet` — a scan shows no group and reads no colon as plain text
* `Regex.Bracket.isFlat` — no other class is in a class

## Main results

* `Placeholder.quiet_of_inert` — characters without a meaning change nothing
* `Regex.Bracket.step?_cases` — what is read next in a class
* `Regex.Bracket.exists_of_read?` — a flat class is scanned to its end
-/

namespace HttpRouting

open Placeholder Regex

namespace Placeholder

/-- Scanning a text leads from one mode to another. On the way no capturing group is shown, and no
colon is read as plain text. -/
inductive Quiet : Mode → List Char → Mode → Prop where
  /-- Nothing is left, and nothing is shown by that. -/
  | nil {m : Mode} (h : m.opened none = none) : Quiet m [] m
  /-- A character. -/
  | cons {m m' : Mode} {c : Char} {cs : List Char} (hopened : m.opened (some c) = none)
      (hcolon : c = ':' → m.settles ':' = false) (hcs : Quiet (m.next c) cs m') :
      Quiet m (c :: cs) m'

namespace Quiet

variable {m m' m'' : Mode} {cs ds : List Char}

theorem append (h : Quiet m cs m') (h' : Quiet m' ds m'') : Quiet m (cs ++ ds) m'' := by
  induction h with
  | nil => exact h'
  | cons hopened hcolon hcs ih => exact .cons hopened hcolon (ih h')

theorem after_eq (h : Quiet m cs m') : m.after cs = m' := by
  induction h with
  | nil => rfl
  | cons hopened hcolon hcs ih => exact ih

theorem captureOffsetsFrom_eq (h : Quiet m cs m') (offset : Nat) :
    captureOffsetsFrom m offset cs = [] := by
  induction h generalizing offset with
  | nil h => rw [captureOffsetsFrom, h]; rfl
  | cons hopened hcolon hcs ih => rw [captureOffsetsFrom, hopened, ih]; rfl

end Quiet

/-- The modes in which the next character is read as part of an escape or of a class. -/
def Mode.confines : Mode → Bool
  | .escape | .classStart | .classNegated | .inClass | .classEscape => true
  | _ => false

theorem quiet_of_confines {m m' : Mode} {c : Char} {cs : List Char} (hm : m.confines = true)
    (hcs : Quiet (m.next c) cs m') : Quiet m (c :: cs) m' := by
  refine .cons ?_ (fun _ => ?_) hcs
  · cases m <;> first | rfl | cases hm
  · cases m <;> first | rfl | cases hm

theorem quiet_plain {cs : List Char} (h : ∀ c ∈ cs, Mode.plain.next c = .plain ∧ c ≠ ':') :
    Quiet .plain cs .plain := by
  induction cs with
  | nil => exact .nil rfl
  | cons c cs ih =>
    obtain ⟨⟨hnext, hcolon⟩, hcs⟩ := List.forall_mem_cons.mp h
    refine .cons rfl (fun hc => absurd hc hcolon) ?_
    rw [hnext]
    exact ih hcs

theorem quiet_inClass {cs : List Char} (h : ∀ c ∈ cs, Mode.inClass.next c = .inClass) :
    Quiet .inClass cs .inClass := by
  induction cs with
  | nil => exact .nil rfl
  | cons c cs ih =>
    obtain ⟨hnext, hcs⟩ := List.forall_mem_cons.mp h
    refine quiet_of_confines rfl ?_
    rw [hnext]
    exact ih hcs

theorem Mode.next_of_harmless {c : Char} (h : Harmless c) :
    Mode.plain.next c = .plain ∧ Mode.inClass.next c = .inClass := by
  simp only [Harmless, List.mem_cons, List.not_mem_nil, or_false, not_or] at h
  simp [Mode.next, Mode.settles, Mode.afterPlain, Mode.afterMember, h]

/-- Harmless characters are passed over in a class. -/
theorem quiet_inClass_of_harmless {cs : List Char} (h : ∀ c ∈ cs, Harmless c) :
    Quiet .inClass cs .inClass :=
  quiet_inClass fun c hc => (Mode.next_of_harmless (h c hc)).2

/-- Characters without a meaning of their own are passed over in plain text and in a class. -/
theorem quiet_of_inert {m : Mode} (hm : m = .plain ∨ m = .inClass) {cs : List Char}
    (h : ∀ c ∈ cs, Inert c) : Quiet m cs m := by
  have hinert := fun c hc => inert_iff.mp (h c hc)
  rcases hm with rfl | rfl
  · exact quiet_plain fun c hc => ⟨(Mode.next_of_harmless (hinert c hc).1).1, (hinert c hc).2⟩
  · exact quiet_inClass_of_harmless fun c hc => (hinert c hc).1

/-- The scan is inside a class and reads what comes next as a member of it. -/
def Mode.Inside (m : Mode) (cs : List Char) : Prop :=
  m.confines = true ∧ ∀ c ∈ cs.head?, m.next c = .afterMember c

theorem Mode.inside_inClass (cs : List Char) : Mode.inClass.Inside cs := ⟨rfl, fun _ _ => rfl⟩

theorem Mode.inside_classNegated {cs : List Char} (h : cs.head? ≠ some ']') :
    Mode.classNegated.Inside cs := by
  refine ⟨rfl, fun c hc => ?_⟩
  have hne : c ≠ ']' := by
    rintro rfl
    exact h hc
  simp [Mode.next, Mode.settles, hne]

theorem Mode.inside_classStart {cs : List Char} (h : cs.head? ≠ some ']')
    (h' : cs.head? ≠ some '^') : Mode.classStart.Inside cs := by
  refine ⟨rfl, fun c hc => ?_⟩
  have hne : c ≠ ']' := by
    rintro rfl
    exact h hc
  have hne' : c ≠ '^' := by
    rintro rfl
    exact h' hc
  simp [Mode.next, Mode.settles, hne, hne']

end Placeholder

namespace Regex

variable {v : Bool} {cs rest : List Char}

/-! ### Pieces of classes -/

theorem Posix.exists_of_read? {p : Posix × Bool} (h : Posix.read? cs = some (p, rest)) :
    ∃ text, cs = text ++ rest := by
  have hnamed : ∀ {negated : Bool} {cs : List Char}, named? negated cs = some (p, rest) →
      ∃ text, cs = text ++ rest := by
    intro negated cs h
    unfold named? at h
    split at h
    · next hdrop =>
      obtain ⟨k, hk, h⟩ := Option.bind_eq_some_iff.mp h
      obtain ⟨-, rfl⟩ := Prod.mk.inj (Option.some.inj h)
      refine ⟨cs.takeWhile (· != ':') ++ [':', ']'], ?_⟩
      rw [List.append_assoc, List.cons_append, List.cons_append, List.nil_append, ← hdrop,
        List.takeWhile_append_dropWhile]
    · cases h
  cases cs with
  | nil => cases h
  | cons c cs =>
    by_cases hc : c = ':'
    · subst hc
      rw [read?_colon] at h
      obtain ⟨text, htext⟩ := hnamed h
      split at htext
      · next hcaret =>
        obtain ⟨cs, rfl⟩ := List.head?_eq_some_iff.mp (beq_iff_eq.mp hcaret)
        exact ⟨':' :: '^' :: text, congrArg (':' :: '^' :: ·) htext⟩
      · exact ⟨':' :: text, congrArg (':' :: ·) htext⟩
    · unfold Posix.read? at h
      split at h
      · next heq => exact absurd (List.cons.inj heq).1 hc
      · cases h

theorem SetOp.exists_of_read? {c : Char} {o : SetOp} (h : SetOp.read? c cs = some (o, rest)) :
    cs = c :: rest ∧ (c = '&' ∨ c = '-' ∨ c = '~') := by
  unfold SetOp.read? at h
  split at h
  · next d rest' =>
    split at h
    · cases h
    · next heq =>
      obtain rfl := of_not_not heq
      repeat' split at h
      all_goals cases h
      · next hc => exact ⟨rfl, .inl hc⟩
      · next hc => exact ⟨rfl, .inr (.inl hc)⟩
      · next hc => exact ⟨rfl, .inr (.inr hc)⟩
  · cases h

namespace Bracket

/-- Only characters, ranges, shorthands and properties are listed. -/
def isPlain : Bracket → Bool
  | nothing | range _ _ | shorthand _ _ | property _ _ => true
  | posix _ _ | nested _ _ => false
  | union a b | op _ a b => a.isPlain && b.isPlain

/-- No class is inside the class. -/
def isFlat : Bracket → Bool
  | nested _ a => a.isPlain
  | a => a.isPlain

/-- The scan reads a character of a class, and what an escape adds to it. -/
theorem exists_of_atom? {c : Char} {a : Atom} (h : atom? v c cs = some (a, rest)) :
    ∃ text, cs = text ++ rest ∧ (v = false → c ≠ ']' → ∀ m : Mode, m.Inside [c] →
      Quiet m (c :: text) .inClass) := by
  unfold atom? at h
  split at h
  · next hc =>
    subst hc
    obtain ⟨d, text, rfl, htext⟩ := Atom.exists_of_escaped? h
    refine ⟨d :: text, rfl, fun hv _ m hm => quiet_of_confines hm.1 ?_⟩
    rw [hm.2 '\\' rfl]
    exact quiet_of_confines rfl (quiet_inClass_of_harmless (htext hv).1)
  · next hc =>
    obtain ⟨-, rfl⟩ := Prod.mk.inj (Option.some.inj h)
    refine ⟨[], rfl, fun _ hclose m hm => quiet_of_confines hm.1 ?_⟩
    have hnext : m.next c = .inClass := by
      rw [hm.2 c rfl]
      simp [Mode.afterMember, hc, hclose]
    rw [hnext]
    exact .nil rfl

theorem exists_of_item? {c : Char} {b : Bracket} (h : item? v c cs = some (b, rest)) :
    ∃ text, cs = text ++ rest ∧ (v = false → c ≠ ']' → ∀ m : Mode, m.Inside [c] →
      Quiet m (c :: text) .inClass) := by
  simp only [item?, Option.bind_eq_bind, Option.bind_eq_some_iff, Prod.exists] at h
  obtain ⟨a, r, ha, d, afterD, hd, h⟩ := h
  obtain ⟨text, rfl, htext⟩ := exists_of_atom? ha
  obtain ⟨skipped, rfl, hskipped⟩ := exists_of_next hd
  split at h
  · obtain ⟨b', hb', h⟩ := Option.bind_eq_some_iff.mp h
    obtain ⟨-, rfl⟩ := Prod.mk.inj (Option.some.inj h)
    exact ⟨text, rfl, htext⟩
  · next hrange =>
    obtain ⟨hdash, hclose, -⟩ := by simpa only [not_or] using hrange
    obtain ⟨e, r', he, b', rest', hb', lo, hlo, hi, hhi, hread⟩ := by
      simpa only [Option.bind_eq_some_iff, Prod.exists] using h
    obtain ⟨skipped', rfl, hskipped'⟩ := exists_of_next he
    obtain ⟨text', rfl, htext'⟩ := exists_of_atom? hb'
    split at hread
    · obtain ⟨-, rfl⟩ := Prod.mk.inj (Option.some.inj hread)
      refine ⟨text ++ skipped ++ d :: (skipped' ++ e :: text'), by simp, fun hv hc m hm => ?_⟩
      obtain rfl := hskipped hv
      obtain rfl := hskipped' hv
      obtain rfl := of_not_not hdash
      subst hv
      have he : e ≠ ']' := by
        rintro rfl
        exact hclose rfl
      have hsecond := htext' rfl he .inClass (Mode.inside_inClass _)
      have hjoin : Quiet .inClass ('-' :: e :: text') .inClass := quiet_of_confines rfl hsecond
      simpa using (htext rfl hc m hm).append hjoin
    · cases hread

/-! ### Classes -/

/-- What is read next in a class. -/
theorem step?_cases {l : Level} {outer : List Level} {x : Bracket ⊕ Level × List Level}
    (h : step? v l outer cs = some (x, rest)) :
    ∃ c after, next v cs = some (c, after) ∧
      (c = ']' ∧ after = rest ∧ (outer = [] ∧ x = .inl l.close ∨
        ∃ up outer', outer = up :: outer' ∧ x = .inr (up.push l.close, outer')) ∨
      c = '[' ∧ (∃ k n, Posix.read? after = some ((k, n), rest) ∧
        x = .inr (l.push (.posix k n), outer)) ∨
      c = '[' ∧ (∃ inner, Level.open? v after = some (inner, rest) ∧
        x = .inr (inner, l :: outer)) ∨
      (∃ o, SetOp.read? c after = some (o, rest) ∧ x = .inr (l.pushOp o, outer)) ∨
      c ≠ ']' ∧ ∃ b, item? v c after = some (b, rest) ∧ x = .inr (l.push b, outer)) := by
  simp only [step?, Option.bind_eq_bind, Option.bind_eq_some_iff, Prod.exists] at h
  obtain ⟨c, r, hc, h⟩ := h
  refine ⟨c, r, hc, ?_⟩
  split at h
  · next hclose =>
    split at h
    · obtain ⟨rfl, rfl⟩ := Prod.mk.inj (Option.some.inj h)
      exact .inl ⟨hclose, rfl, .inl ⟨rfl, rfl⟩⟩
    · obtain ⟨rfl, rfl⟩ := Prod.mk.inj (Option.some.inj h)
      exact .inl ⟨hclose, rfl, .inr ⟨_, _, rfl, rfl⟩⟩
  · next hclose =>
    split at h
    · next hopen =>
      split at h
      · next hposix =>
        obtain ⟨rfl, rfl⟩ := Prod.mk.inj (Option.some.inj h)
        exact .inr (.inl ⟨hopen, _, _, hposix, rfl⟩)
      · obtain ⟨⟨inner, r'⟩, hinner, h⟩ := Option.bind_eq_some_iff.mp h
        obtain ⟨rfl, rfl⟩ := Prod.mk.inj (Option.some.inj h)
        exact .inr (.inr (.inl ⟨hopen, inner, hinner, rfl⟩))
    · split at h
      · next hop =>
        obtain ⟨rfl, rfl⟩ := Prod.mk.inj (Option.some.inj h)
        exact .inr (.inr (.inr (.inl ⟨_, hop, rfl⟩)))
      · obtain ⟨⟨b, r'⟩, hitem, h⟩ := Option.bind_eq_some_iff.mp h
        obtain ⟨rfl, rfl⟩ := Prod.mk.inj (Option.some.inj h)
        exact .inr (.inr (.inr (.inr ⟨hclose, b, hitem, rfl⟩)))

/-- Dashes at the start of a class are members of it. -/
theorem Level.exists_of_openDashes? {l l' : Level} (h : l.openDashes? v cs = some (l', rest)) :
    ∃ text, cs = text ++ rest ∧ (v = false → (∀ c ∈ text, c = '-') ∧
      (text = [] → l' = l) ∧ (text ≠ [] → l'.items ≠ nothing)) := by
  have hitems : ∀ {l l' : Level} {cs : List Char}, l.openDashes? v cs = some (l', rest) →
      l.items ≠ nothing → l'.items ≠ nothing := by
    intro l l' cs h hl
    fun_induction Level.openDashes? v l cs with
    | case1 l cs hnext => cases h
    | case2 l cs r hnext ih => exact ih h (by simp [push])
    | case3 l cs c r hnext hc =>
      obtain ⟨rfl, -⟩ := Prod.mk.inj (Option.some.inj h)
      exact hl
  fun_induction Level.openDashes? v l cs with
  | case1 l cs hnext => cases h
  | case2 l cs r hnext ih =>
    obtain ⟨text, rfl, htext⟩ := ih h
    obtain ⟨skipped, rfl, hskipped⟩ := exists_of_next hnext
    refine ⟨skipped ++ '-' :: text, by simp, fun hv => ⟨?_, by simp, fun _ => ?_⟩⟩
    · rw [hskipped hv]
      exact List.forall_mem_cons.mpr ⟨rfl, (htext hv).1⟩
    · exact hitems h (by simp [push])
  | case3 l cs c r hnext hc =>
    obtain ⟨rfl, rfl⟩ := Prod.mk.inj (Option.some.inj h)
    exact ⟨[], rfl, fun _ => ⟨List.forall_mem_nil _, fun _ => rfl, absurd rfl⟩⟩

theorem quiet_dashes {m : Mode} (hm : m = .classStart ∨ m = .classNegated ∨ m = .inClass)
    {text : List Char} (hne : text ≠ []) (htext : ∀ c ∈ text, c = '-') :
    Quiet m text .inClass := by
  cases text with
  | nil => exact absurd rfl hne
  | cons c text =>
    obtain ⟨rfl, hrest⟩ := List.forall_mem_cons.mp htext
    have hinert : ∀ c ∈ text, Inert c := fun c hc => hrest c hc ▸ by decide
    have hquiet := quiet_of_inert (.inr rfl) hinert
    rcases hm with rfl | rfl | rfl <;> exact quiet_of_confines rfl hquiet

/-- At the start of a class the scan and the reader agree on what is a member. -/
theorem Level.exists_of_open? {l : Level} (h : Level.open? v cs = some (l, rest)) :
    ∃ text, cs = text ++ rest ∧
      (v = false → ∃ m : Mode, Quiet .classStart text m ∧ m.Inside rest) := by
  simp only [Level.open?, Option.bind_eq_bind, Option.bind_eq_some_iff, Prod.exists] at h
  obtain ⟨c, r, hc, l', cs', hread, c', r', hc', h⟩ := h
  obtain ⟨skipped, rfl, hskipped⟩ := exists_of_next hc
  obtain ⟨skipped', rfl, hskipped'⟩ := exists_of_next hc'
  obtain ⟨dashes, hdashesText, hdashes⟩ := exists_of_openDashes? hread
  -- What stands before the dashes, and the mode behind it.
  obtain ⟨start, hstart, hmode⟩ : ∃ start,
      skipped ++ c :: r = start ++ (dashes ++ (skipped' ++ c' :: r')) ∧
      (v = false → ∃ m : Mode, Quiet .classStart start m ∧
        (m = .classNegated ∨ m = .classStart ∧ c ≠ '^' ∧ start = [])) := by
    by_cases hcaret : c = '^'
    · subst hcaret
      refine ⟨skipped ++ ['^'], by simpa using hdashesText, fun hv => ⟨.classNegated, ?_, .inl rfl⟩⟩
      rw [hskipped hv]
      exact quiet_of_confines rfl (.nil rfl)
    · refine ⟨[], by simpa [hcaret] using hdashesText, fun _ => ⟨.classStart, .nil rfl, ?_⟩⟩
      exact .inr ⟨rfl, hcaret, rfl⟩
  rw [hstart]
  split at h
  · next hfirst =>
    obtain ⟨-, rfl⟩ := Prod.mk.inj (Option.some.inj h)
    obtain ⟨rfl, hnothing⟩ := hfirst
    refine ⟨start ++ dashes ++ skipped' ++ [']'], by simp, fun hv => ⟨.inClass, ?_, ?_⟩⟩
    · obtain ⟨m, hquiet, hm⟩ := hmode hv
      obtain rfl : dashes = [] := not_not.mp fun hne => (hdashes hv).2.2 hne hnothing
      rw [hskipped' hv, List.append_nil, List.append_nil]
      refine hquiet.append ?_
      rcases hm with rfl | ⟨rfl, -⟩ <;> exact quiet_of_confines rfl (.nil rfl)
    · exact Mode.inside_inClass r'
  · next hfirst =>
    obtain ⟨-, rfl⟩ := Prod.mk.inj (Option.some.inj h)
    refine ⟨start ++ dashes, by simp, fun hv => ?_⟩
    obtain ⟨m, hquiet, hm⟩ := hmode hv
    by_cases hne : dashes = []
    · subst hne
      have hc' : c' ≠ ']' := by
        rintro rfl
        exact hfirst ⟨rfl, by rw [(hdashes hv).2.1 rfl]⟩
      rw [hskipped' hv] at hstart ⊢
      refine ⟨m, by simpa using hquiet, ?_⟩
      rcases hm with rfl | ⟨rfl, hcaret, rfl⟩
      · exact Mode.inside_classNegated (by simpa using hc')
      · rw [hskipped hv] at hstart
        obtain ⟨rfl, -⟩ := List.cons.inj hstart
        exact Mode.inside_classStart (by simpa using hc') (by simpa using hcaret)
    · have hm' : m = .classStart ∨ m = .classNegated ∨ m = .inClass := by
        rcases hm with rfl | ⟨rfl, -⟩ <;> simp
      exact ⟨.inClass, hquiet.append (quiet_dashes hm' hne (hdashes hv).1), Mode.inside_inClass _⟩

theorem isPlain_operand_push (l : Level) (b : Bracket) :
    (l.push b).operand.isPlain = (l.operand.isPlain && b.isPlain) := by
  unfold Level.operand Level.push
  cases l.left <;> simp [isPlain, Bool.and_assoc]

theorem isPlain_operand_pushOp (l : Level) (o : SetOp) :
    (l.pushOp o).operand.isPlain = l.operand.isPlain := by
  simp [Level.pushOp, Level.operand, isPlain]

/-- A flat class is scanned to its end: no other class was open when its last part was read. -/
theorem exists_of_readFrom? {l : Level} {outer : List Level} {b : Bracket}
    (h : readFrom? v l outer cs = some (b, rest)) :
    ∃ text, cs = text ++ rest ∧ (b.isFlat = true → outer = [] ∧ l.operand.isPlain = true ∧
      (v = false → ∀ m : Mode, m.Inside cs → Quiet m text .plain)) := by
  -- Part by part of the class. That it is flat says, at each part, that all parts before were plain
  -- and that no inner class was open.
  fun_induction readFrom? v l outer cs with
  | case1 l outer cs hstep => cases h
  | case4 => cases h
  | case2 l outer cs b' r hstep =>
    obtain ⟨rfl, rfl⟩ := Prod.mk.inj (Option.some.inj h)
    obtain ⟨c, after, hc, hcases⟩ := step?_cases hstep
    obtain ⟨skipped, rfl, hskipped⟩ := exists_of_next hc
    rcases hcases with ⟨rfl, rfl, ⟨rfl, hx⟩ | ⟨_, _, -, hx⟩⟩ | ⟨-, _, _, -, hx⟩ | ⟨-, _, -, hx⟩ |
      ⟨_, -, hx⟩ | ⟨-, _, -, hx⟩
    · obtain rfl := Sum.inl.inj hx
      refine ⟨skipped ++ [']'], by simp, fun hflat => ⟨rfl, hflat, fun hv m hm => ?_⟩⟩
      rw [hskipped hv] at hm ⊢
      refine quiet_of_confines hm.1 ?_
      rw [hm.2 ']' rfl]
      exact .nil rfl
    all_goals cases hx
  | case3 l outer cs l' outer' r hstep hlt ih =>
    obtain ⟨text, rfl, hrest⟩ := ih h
    obtain ⟨c, after, hc, hcases⟩ := step?_cases hstep
    obtain ⟨skipped, rfl, hskipped⟩ := exists_of_next hc
    rcases hcases with ⟨rfl, rfl, ⟨-, hx⟩ | ⟨up, outer, rfl, hx⟩⟩ | ⟨rfl, k, n, hposix, hx⟩ |
      ⟨rfl, inner, hopen, hx⟩ | ⟨o, hop, hx⟩ | ⟨hclose, b', hread, hx⟩
    · cases hx
    · -- A class was inside, so the whole is not flat.
      obtain ⟨rfl, rfl⟩ := Prod.mk.inj (Sum.inr.inj hx)
      refine ⟨skipped ++ ']' :: text, by simp, fun hflat => ?_⟩
      have hplain := (hrest hflat).2.1
      rw [isPlain_operand_push] at hplain
      exact absurd (Bool.and_eq_true_iff.mp hplain).2 (by simp [Level.close, isPlain])
    · obtain ⟨rfl, rfl⟩ := Prod.mk.inj (Sum.inr.inj hx)
      obtain ⟨name, rfl⟩ := Posix.exists_of_read? hposix
      refine ⟨skipped ++ '[' :: (name ++ text), by simp, fun hflat => ?_⟩
      have hplain := (hrest hflat).2.1
      rw [isPlain_operand_push] at hplain
      exact absurd (Bool.and_eq_true_iff.mp hplain).2 (by simp [isPlain])
    · obtain ⟨rfl, rfl⟩ := Prod.mk.inj (Sum.inr.inj hx)
      obtain ⟨start, rfl, -⟩ := Level.exists_of_open? hopen
      exact ⟨skipped ++ '[' :: (start ++ text), by simp, fun hflat =>
        absurd (hrest hflat).1 (List.cons_ne_nil _ _)⟩
    · obtain ⟨rfl, rfl⟩ := Prod.mk.inj (Sum.inr.inj hx)
      obtain ⟨rfl, hchar⟩ := SetOp.exists_of_read? hop
      refine ⟨skipped ++ c :: c :: text, by simp, fun hflat => ?_⟩
      obtain ⟨rfl, hplain, hquiet⟩ := hrest hflat
      rw [isPlain_operand_pushOp] at hplain
      refine ⟨rfl, hplain, fun hv m hm => ?_⟩
      have hmember : Mode.afterMember c = .inClass := by rcases hchar with rfl | rfl | rfl <;> rfl
      rw [hskipped hv] at hm ⊢
      refine quiet_of_confines hm.1 ?_
      rw [hm.2 c rfl, hmember]
      refine quiet_of_confines rfl ?_
      rw [show Mode.inClass.next c = .inClass from hmember]
      exact hquiet hv _ (Mode.inside_inClass _)
    · obtain ⟨rfl, rfl⟩ := Prod.mk.inj (Sum.inr.inj hx)
      obtain ⟨item, rfl, hitem⟩ := exists_of_item? hread
      refine ⟨skipped ++ c :: (item ++ text), by simp, fun hflat => ?_⟩
      obtain ⟨rfl, hplain, hquiet⟩ := hrest hflat
      rw [isPlain_operand_push] at hplain
      refine ⟨rfl, (Bool.and_eq_true_iff.mp hplain).1, fun hv m hm => ?_⟩
      rw [hskipped hv] at hm ⊢
      exact (hitem hv hclose m ⟨hm.1, fun d hd => hm.2 d hd⟩).append
        (hquiet hv _ (Mode.inside_inClass _))

/-- A flat class is scanned to its end. -/
theorem exists_of_read? {b : Bracket} (h : read? v cs = some (b, rest)) :
    ∃ text, cs = text ++ rest ∧ (v = false → b.isFlat = true → Quiet .classStart text .plain) := by
  simp only [read?, Option.bind_eq_bind, Option.bind_eq_some_iff, Prod.exists] at h
  obtain ⟨l, r, hopen, h⟩ := h
  obtain ⟨start, rfl, hstart⟩ := Level.exists_of_open? hopen
  obtain ⟨text, rfl, htext⟩ := exists_of_readFrom? h
  refine ⟨start ++ text, (List.append_assoc _ _ _).symm, fun hv hflat => ?_⟩
  obtain ⟨m, hquiet, hm⟩ := hstart hv
  exact hquiet.append ((htext hflat).2.2 hv m hm)

end Bracket

end Regex

end HttpRouting
