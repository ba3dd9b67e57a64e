import HttpRouting.Regex.Match

/-!
# What a search finds

A search follows many threads at once and drops work that it has already followed. Here it is held
against a definition of matching that knows neither threads nor marks: `Covers` does the work of one
thread step by step, with every choice open. The search finds only what can be covered, and it finds
something whenever something can be covered.

The second half is the harder one. A mark hides work that is still being followed, so nothing is
known about that work yet. But a way through work that leads back to the same work at the same
position can be shortened, so `Scan.Kept` counts the steps of ways and excuses a mark by a way that
is no longer.

## Main definitions

* `Regex.Covers` — what doing some work at a position reads and records
* `Regex.Spans` — what an expression matches between two texts
* `Regex.Passes` — a way through some work up to the next characters, with its number of steps

## Main results

* `Regex.found_of_search?` — what is found is a match
* `Regex.isSome_search?` — something is found if there is a match
-/

namespace HttpRouting.Regex

/-- Doing some work behind `pre` can read `mid` before `post` and turn captures into others. -/
inductive Covers : List Char → List Char → List Char → List Task → Captures → Captures → Prop where
  /-- No work is left. -/
  | done (pre post : List Char) (c : Captures) : Covers pre [] post [] c c
  /-- A group ends. -/
  | close {pre mid post : List Char} {k : List Task} {c c' : Captures} {i : Nat}
      (h : Covers pre mid post k (c.closeAt i pre.length) c') :
      Covers pre mid post (.close i :: k) c c'
  /-- Nothing is to be matched. -/
  | empty {pre mid post : List Char} {k : List Task} {c c' : Captures}
      (h : Covers pre mid post k c c') : Covers pre mid post (.run .empty :: k) c c'
  /-- A character is read. -/
  | chars {pre mid post : List Char} {k : List Task} {c c' : Captures} {set : CharSet} {a : Char}
      (mem : a ∈ set) (h : Covers (pre ++ [a]) mid post k c c') :
      Covers pre (a :: mid) post (.run (.chars set) :: k) c c'
  /-- An assertion holds. -/
  | look {pre mid post : List Char} {k : List Task} {c c' : Captures} {a : Assertion}
      (holds : a.holds pre.getLast? (mid ++ post).head? = true) (h : Covers pre mid post k c c') :
      Covers pre mid post (.run (.look a) :: k) c c'
  /-- A group starts. -/
  | group {pre mid post : List Char} {k : List Task} {c c' : Captures} {i : Nat} {r : Regex}
      (h : Covers pre mid post (.run r :: .close i :: k) (c.openAt i pre.length) c') :
      Covers pre mid post (.run (.group i r) :: k) c c'
  /-- Two parts come one after the other. -/
  | cat {pre mid post : List Char} {k : List Task} {c c' : Captures} {r t : Regex}
      (h : Covers pre mid post (.run r :: .run t :: k) c c') :
      Covers pre mid post (.run (.cat r t) :: k) c c'
  /-- The first part is chosen. -/
  | left {pre mid post : List Char} {k : List Task} {c c' : Captures} {r t : Regex}
      (h : Covers pre mid post (.run r :: k) c c') :
      Covers pre mid post (.run (.alt r t) :: k) c c'
  /-- The second part is chosen. -/
  | right {pre mid post : List Char} {k : List Task} {c c' : Captures} {r t : Regex}
      (h : Covers pre mid post (.run t :: k) c c') :
      Covers pre mid post (.run (.alt r t) :: k) c c'
  /-- There is no further round. -/
  | stop {pre mid post : List Char} {k : List Task} {c c' : Captures} {greedy : Bool} {r : Regex}
      (h : Covers pre mid post k c c') : Covers pre mid post (.run (.star greedy r) :: k) c c'
  /-- There is another round. -/
  | more {pre mid post : List Char} {k : List Task} {c c' : Captures} {greedy : Bool} {r : Regex}
      (h : Covers pre mid post (.run r :: .run (.star greedy r) :: k) c c') :
      Covers pre mid post (.run (.star greedy r) :: k) c c'

/-- An expression matches `mid` between `pre` and `post`, and turns captures into others. -/
def Spans (r : Regex) (pre mid post : List Char) (c c' : Captures) : Prop :=
  Covers pre mid post [.run r] c c'

/-- The position behind `pre` and before `rest`. -/
def Spot.between (pre rest : List Char) : Spot := ⟨pre.length, pre.getLast?, rest.head?⟩

/-! ### What is found is a match -/

/-- Whatever covers some work from here on completes a match that has started before. -/
def Continues (r : Regex) (pre rest : List Char) (k : List Task) (c : Captures) : Prop :=
  ∃ u v, pre = u ++ v ∧ ∀ mid post c', rest = mid ++ post → Covers pre mid post k c c' →
    Spans (.group 0 r) u (v ++ mid) post {} c'

theorem Continues.map {r : Regex} {pre rest : List Char} {k k' : List Task} {c c₁ : Captures}
    (h : Continues r pre rest k c)
    (step : ∀ mid post c', rest = mid ++ post → Covers pre mid post k' c₁ c' →
      Covers pre mid post k c c') : Continues r pre rest k' c₁ := by
  obtain ⟨u, v, hpre, hall⟩ := h
  exact ⟨u, v, hpre, fun mid post c' hrest hk => hall mid post c' hrest (step mid post c' hrest hk)⟩

/-- Every thread and every match of a scan continues a match that has started before. -/
structure Scan.Sound (r : Regex) (pre rest : List Char) (s : Scan) : Prop where
  /-- A thread continues a match by reading a character. -/
  threads : ∀ t ∈ s.threads, Continues r pre rest (.run (.chars t.set) :: t.work) t.captures
  /-- What has been found is a match. -/
  found : ∀ c, s.found = some c → Continues r pre rest [] c

section Sound

variable {r : Regex} {pre rest : List Char} {s : Scan}

theorem Scan.Sound.push (h : s.Sound r pre rest) {t : Thread}
    (ht : Continues r pre rest (.run (.chars t.set) :: t.work) t.captures) :
    (s.push t).Sound r pre rest := by
  unfold Scan.push
  split
  · exact h
  · refine ⟨fun t' ht' => ?_, h.found⟩
    rcases List.mem_cons.mp ht' with rfl | ht'
    · exact ht
    · exact h.threads t' ht'

theorem Scan.Sound.accept (h : s.Sound r pre rest) {c : Captures}
    (hc : Continues r pre rest [] c) : (s.accept c).Sound r pre rest := by
  unfold Scan.accept
  split
  · exact h
  · refine ⟨h.threads, fun c' hc' => ?_⟩
    obtain rfl := Option.some.inj hc'
    exact hc

theorem Scan.Sound.mark (h : s.Sound r pre rest) (k : List Task) :
    (s.mark k).Sound r pre rest := ⟨h.threads, h.found⟩

theorem sound_follow (q : Regex) {k : List Task} {exit : Captures → Scan → Scan} {c : Captures}
    (hexit : ∀ c s, Continues r pre rest k c → s.Sound r pre rest → (exit c s).Sound r pre rest)
    (hc : Continues r pre rest (.run q :: k) c) (hs : s.Sound r pre rest) :
    (follow (.between pre rest) q k exit c s).Sound r pre rest := by
  induction q generalizing k exit c s with
  | empty => exact hexit c s (hc.map fun _ _ _ _ h => .empty h) hs
  | chars set => exact hs.push hc
  | look a =>
    rw [follow]
    split
    · next holds =>
      refine hexit c s (hc.map fun mid post c' hrest h => .look ?_ h) hs
      rw [← hrest]
      exact holds
    · exact hs
  | group i q ih =>
    refine ih (fun c s hc hs => ?_) (hc.map fun _ _ _ _ h => .group h) hs
    exact hexit _ s (hc.map fun _ _ _ _ h => .close h) hs
  | cat q t ihq iht =>
    refine ihq (fun c s hc hs => ?_) (hc.map fun _ _ _ _ h => .cat h) hs
    exact iht hexit hc hs
  | alt q t ihq iht =>
    rw [follow]
    split
    · exact hs
    · refine iht hexit (hc.map fun _ _ _ _ h => .right h) ?_
      exact ihq hexit (hc.map fun _ _ _ _ h => .left h) (hs.mark _)
  | star greedy q ih =>
    -- A round that comes back to the iteration without reading anything goes no further.
    have body : ∀ s : Scan, s.Sound r pre rest →
        (follow (.between pre rest) q (.run (.star greedy q) :: k) (fun _ s => s) c s).Sound
          r pre rest :=
      fun s hs => ih (fun _ _ _ hs => hs) (hc.map fun _ _ _ _ h => .more h) hs
    have leave : ∀ s : Scan, s.Sound r pre rest → (exit c s).Sound r pre rest :=
      fun s hs => hexit c s (hc.map fun _ _ _ _ h => .stop h) hs
    rw [follow]
    split
    · exact hs
    · split
      · exact leave _ (body _ (hs.mark _))
      · exact body _ (leave _ (hs.mark _))

theorem sound_resume {k : List Task} {c : Captures} (hc : Continues r pre rest k c)
    (hs : s.Sound r pre rest) : (resume (.between pre rest) k c s).Sound r pre rest := by
  induction k generalizing c s with
  | nil => exact hs.accept hc
  | cons task k ih =>
    cases task with
    | close i => exact ih (hc.map fun _ _ _ _ h => .close h) hs
    | run q => exact sound_follow q (fun c s hc hs => ih hc hs) hc hs

/-- The threads that have read a character continue the matches of those before. -/
theorem Continues.read {set : CharSet} {k : List Task} {c : Captures} {a : Char} {rest : List Char}
    (h : Continues r pre (a :: rest) (.run (.chars set) :: k) c) (ha : a ∈ set) :
    Continues r (pre ++ [a]) rest k c := by
  obtain ⟨u, v, rfl, hall⟩ := h
  refine ⟨u, v ++ [a], (List.append_assoc u v [a]).symm ▸ rfl, fun mid post c' hrest hk => ?_⟩
  rw [List.append_assoc]
  exact hall (a :: mid) post c' (by rw [hrest]; rfl) (.chars ha hk)

theorem sound_scan {pending : List Thread}
    (hpending : ∀ t ∈ pending, Continues r pre rest t.work t.captures) (best : Option Captures) :
    (scan r (.between pre rest) pending best).Sound r pre rest := by
  have start : Scan.Sound r pre rest {} := ⟨by simp, by simp⟩
  have resumed : ∀ s : Scan, s.Sound r pre rest →
      (pending.foldl (fun s t => resume (.between pre rest) t.work t.captures s) s).Sound
        r pre rest := by
    induction pending with
    | nil => exact fun s hs => hs
    | cons t ts ih =>
      intro s hs
      refine ih (fun t' ht' => hpending t' (List.mem_cons_of_mem _ ht')) _ ?_
      exact sound_resume (hpending t List.mem_cons_self) hs
  have new : Continues r pre rest [.run (.group 0 r)] {} :=
    ⟨pre, [], (List.append_nil pre).symm, fun _ _ _ _ h => h⟩
  rw [scan]
  split
  · exact resumed _ start
  · exact sound_resume new (resumed _ start)

/-- There is a match in a text that records the given captures. -/
def Found (r : Regex) (text : List Char) (c : Captures) : Prop :=
  ∃ u v w, text = u ++ v ++ w ∧ Spans (.group 0 r) u v w {} c

/-- What a scan has found is a match of the whole text. -/
theorem Scan.Sound.isMatch (h : s.Sound r pre rest) {c : Captures} (hc : s.found = some c) :
    Found r (pre ++ rest) c := by
  obtain ⟨u, v, rfl, hall⟩ := h.found c hc
  have hspans := hall [] rest c rfl (.done _ _ _)
  rw [List.append_nil] at hspans
  exact ⟨u, v, rest, rfl, hspans⟩

/-- The best match after a scan is a match of the whole text, if the best one before is. -/
theorem found_of_scan {pending : List Thread} {best : Option Captures}
    (hpending : ∀ t ∈ pending, Continues r pre rest t.work t.captures)
    (hbest : ∀ c, best = some c → Found r (pre ++ rest) c) (c : Captures)
    (hc : (scan r (.between pre rest) pending best).found.or best = some c) :
    Found r (pre ++ rest) c := by
  rcases Option.or_eq_some_iff.mp hc with hfound | ⟨-, hfound⟩
  · exact (sound_scan hpending best).isMatch hfound
  · exact hbest c hfound

theorem found_of_searchFrom {pending : List Thread} {best : Option Captures} {c : Captures}
    (hpending : ∀ t ∈ pending, Continues r pre rest t.work t.captures)
    (hbest : ∀ c, best = some c → Found r (pre ++ rest) c)
    (h : searchFrom r pre.length pre.getLast? pending best rest = some c) :
    Found r (pre ++ rest) c := by
  induction rest generalizing pre pending best with
  | nil =>
    rw [searchFrom, Option.orElse_eq_orElse, Option.orElse_eq_or] at h
    exact found_of_scan hpending hbest c h
  | cons a rest ih =>
    rw [searchFrom, Option.orElse_eq_orElse, Option.orElse_eq_or] at h
    have hs := sound_scan hpending best
    have hbest' := found_of_scan hpending hbest
    have htext : pre ++ a :: rest = pre ++ [a] ++ rest := by simp
    -- The threads that can read the next character continue their matches behind it.
    have hnext : ∀ t ∈ (scan r (.between pre (a :: rest)) pending best).threads.reverse.filter
        (a ∈ ·.set), Continues r (pre ++ [a]) rest t.work t.captures := by
      intro t ht
      obtain ⟨hmem, ha⟩ := List.mem_filter.mp ht
      exact (hs.threads t (List.mem_reverse.mp hmem)).read (by simpa using ha)
    rw [htext] at hbest' ⊢
    split at h
    · exact hbest' c h
    · refine ih hnext hbest' ?_
      rw [List.length_append, List.getLast?_concat]
      exact h

/-- The captures that a search answers with are those of a match. -/
theorem found_of_search? {text : List Char} {c : Captures} (h : r.search? text = some c) :
    Found r text c :=
  @found_of_searchFrom r [] text [] none c (by simp) (by simp) h

end Sound

/-! ### There is something to find -/

/-- A way through some work at a position, in at most the given number of steps. It ends where no
work is left, or before a character; `N` says of which characters and which work after them it may
end so. -/
inductive Passes (p : Spot) (N : CharSet → List Task → Prop) : Nat → List Task → Prop where
  /-- No work is left. -/
  | done (n : Nat) : Passes p N n []
  /-- A character is to be read. -/
  | chars (n : Nat) {set : CharSet} {k : List Task} (h : N set k) :
      Passes p N n (.run (.chars set) :: k)
  /-- A group ends. -/
  | close {n i : Nat} {k : List Task} (h : Passes p N n k) : Passes p N (n + 1) (.close i :: k)
  /-- Nothing is to be matched. -/
  | empty {n : Nat} {k : List Task} (h : Passes p N n k) : Passes p N (n + 1) (.run .empty :: k)
  /-- An assertion holds. -/
  | look {n : Nat} {k : List Task} {a : Assertion} (holds : a.holds p.before p.after = true)
      (h : Passes p N n k) : Passes p N (n + 1) (.run (.look a) :: k)
  /-- A group starts. -/
  | group {n i : Nat} {k : List Task} {r : Regex} (h : Passes p N n (.run r :: .close i :: k)) :
      Passes p N (n + 1) (.run (.group i r) :: k)
  /-- Two parts come one after the other. -/
  | cat {n : Nat} {k : List Task} {r t : Regex} (h : Passes p N n (.run r :: .run t :: k)) :
      Passes p N (n + 1) (.run (.cat r t) :: k)
  /-- The first part is chosen. -/
  | left {n : Nat} {k : List Task} {r t : Regex} (h : Passes p N n (.run r :: k)) :
      Passes p N (n + 1) (.run (.alt r t) :: k)
  /-- The second part is chosen. -/
  | right {n : Nat} {k : List Task} {r t : Regex} (h : Passes p N n (.run t :: k)) :
      Passes p N (n + 1) (.run (.alt r t) :: k)
  /-- There is no further round. -/
  | stop {n : Nat} {k : List Task} {greedy : Bool} {r : Regex} (h : Passes p N n k) :
      Passes p N (n + 1) (.run (.star greedy r) :: k)
  /-- There is another round. -/
  | more {n : Nat} {k : List Task} {greedy : Bool} {r : Regex}
      (h : Passes p N n (.run r :: .run (.star greedy r) :: k)) :
      Passes p N (n + 1) (.run (.star greedy r) :: k)

section Complete

variable {p : Spot} {N : CharSet → List Task → Prop} {E : Nat → Prop} {s : Scan} {k : List Task}

theorem Passes.succ {n : Nat} (h : Passes p N n k) : Passes p N (n + 1) k := by
  induction h with
  | done n => exact .done (n + 1)
  | chars n h => exact .chars (n + 1) h
  | close _ ih => exact .close ih
  | empty _ ih => exact .empty ih
  | look holds _ ih => exact .look holds ih
  | group _ ih => exact .group ih
  | cat _ ih => exact .cat ih
  | left _ ih => exact .left ih
  | right _ ih => exact .right ih
  | stop _ ih => exact .stop ih
  | more _ ih => exact .more ih

theorem Passes.mono {m n : Nat} (h : Passes p N m k) (hmn : m ≤ n) : Passes p N n k := by
  induction hmn with
  | refl => exact h
  | step _ ih => exact ih.succ

/-- A match ends here, or a thread has got through to a character where a way may end. -/
def Scan.Covered (N : CharSet → List Task → Prop) (s : Scan) : Prop :=
  s.found.isSome = true ∨ ∃ t ∈ s.threads, N t.set t.work

/-- A way of some length is excused by every way of at most that length through work that is being
followed. Whatever has been marked is done with, or its ways are excused. -/
def Scan.Kept (p : Spot) (N : CharSet → List Task → Prop) (E : Nat → Prop) (s : Scan) : Prop :=
  ∀ k ∈ s.seen, ∀ n, Passes p N n k → s.Covered N ∨ E n

/-- An excuse holds for all ways that are longer. -/
def Upward (E : Nat → Prop) : Prop := ∀ m n, m ≤ n → E m → E n

/-- A function follows some work: it loses nothing, keeps marks honest, and gets through the work on
every way that is not excused. The excuses are at least those of `E`. -/
structure Explores (p : Spot) (N : CharSet → List Task → Prop) (E : Nat → Prop) (f : Scan → Scan)
    (k : List Task) : Prop where
  /-- Nothing is lost. -/
  covered : ∀ s : Scan, s.Covered N → (f s).Covered N
  /-- Marks are kept honest. -/
  kept : ∀ E', (∀ n, E n → E' n) → Upward E' → ∀ s : Scan, s.Kept p N E' → (f s).Kept p N E'
  /-- The work is followed. -/
  followed : ∀ E', (∀ n, E n → E' n) → Upward E' → ∀ s : Scan, s.Kept p N E' →
    ∀ n, Passes p N n k → (f s).Covered N ∨ E' n

theorem covered_push (h : s.Covered N) (t : Thread) : (s.push t).Covered N := by
  unfold Scan.push
  split
  · exact h
  · rcases h with h | ⟨t', ht', hN⟩
    · exact .inl h
    · exact .inr ⟨t', List.mem_cons_of_mem _ ht', hN⟩

theorem covered_push_self {t : Thread} (h : N t.set t.work) : (s.push t).Covered N := by
  unfold Scan.push
  split
  · next hfound => exact .inl hfound
  · exact .inr ⟨t, List.mem_cons_self, h⟩

theorem covered_accept (c : Captures) : (s.accept c).Covered N := by
  unfold Scan.accept
  split
  · next hfound => exact .inl hfound
  · exact .inl rfl

theorem seen_push (s : Scan) (t : Thread) : (s.push t).seen = s.seen := by
  unfold Scan.push
  split <;> rfl

/-- Following the work that other work leads to is following that other work. -/
theorem Explores.of_step {f : Scan → Scan} {k' : List Task} (h : Explores p N E f k)
    (step : ∀ n, Passes p N n k' → ∃ m ≤ n, Passes p N m k) : Explores p N E f k' := by
  refine ⟨h.covered, h.kept, fun E' hE up s hs n hn => ?_⟩
  obtain ⟨m, hmn, hm⟩ := step n hn
  exact (h.followed E' hE up s hs m hm).imp_right (up m n hmn)

/-- Further excuses are allowed. -/
theorem Explores.weaken {E' : Nat → Prop} {f : Scan → Scan} (h : Explores p N E f k)
    (hE : ∀ n, E n → E' n) : Explores p N E' f k :=
  ⟨h.covered, fun E'' hE' => h.kept E'' fun n hn => hE' n (hE n hn),
    fun E'' hE' => h.followed E'' fun n hn => hE' n (hE n hn)⟩

/-- Work that has been marked and then followed, with its own ways as excuses while it was, needs
no excuse afterwards: a way back to it is shorter than the way that it is on. -/
theorem kept_unmark {W : List Task} (up : Upward E)
    (hs : s.Kept p N fun n => E n ∨ Passes p N n W)
    (hW : ∀ n, Passes p N n W → s.Covered N ∨ ∃ m < n, E m ∨ Passes p N m W) :
    s.Kept p N E ∧ ∀ n, Passes p N n W → s.Covered N ∨ E n := by
  -- By the length of the way: what is excused by a way back to the same work is shorter.
  have through : ∀ n, Passes p N n W → s.Covered N ∨ E n := by
    intro n
    induction n using Nat.strongRecOn with
    | ind n ih =>
      intro hn
      rcases hW n hn with hcovered | ⟨m, hmn, hE | hm⟩
      · exact .inl hcovered
      · exact .inr (up m n (Nat.le_of_lt hmn) hE)
      · exact (ih m hmn hm).imp_right (up m n (Nat.le_of_lt hmn))
  refine ⟨fun k hk n hn => ?_, through⟩
  rcases hs k hk n hn with hcovered | hE | hn
  · exact .inl hcovered
  · exact .inr hE
  · exact through n hn

theorem kept_mark {W : List Task} (hs : s.Kept p N E) :
    (s.mark W).Kept p N fun n => E n ∨ Passes p N n W := by
  intro k hk n hn
  rcases List.mem_cons.mp hk with rfl | hk
  · exact .inr (.inr hn)
  · exact (hs k hk n hn).imp_right .inl

theorem upward_or {W : List Task} (up : Upward E) : Upward fun n => E n ∨ Passes p N n W :=
  fun m n hmn h => h.imp (up m n hmn) (·.mono hmn)

/-- Work with two choices, which are followed one after the other unless the work is marked. -/
theorem explores_choice {W k₁ k₂ : List Task} {f f₁ f₂ : Scan → Scan}
    (h₁ : Explores p N (fun n => E n ∨ Passes p N n W) f₁ k₁)
    (h₂ : Explores p N (fun n => E n ∨ Passes p N n W) f₂ k₂)
    (hW : ∀ n, Passes p N n W → ∃ m < n, Passes p N m k₁ ∨ Passes p N m k₂)
    (hf : ∀ s : Scan, f s = if W ∈ s.seen then s else f₂ (f₁ (s.mark W))) :
    Explores p N E f W := by
  -- While the choices are followed, ways through the work itself are excuses. They are given up at
  -- the end.
  have chosen : ∀ E', (∀ n, E n → E' n) → Upward E' → ∀ s : Scan, s.Kept p N E' →
      (f₂ (f₁ (s.mark W))).Kept p N E' ∧
        ∀ n, Passes p N n W → (f₂ (f₁ (s.mark W))).Covered N ∨ E' n := by
    intro E' hE up s hs
    have hEW : ∀ n, E n ∨ Passes p N n W → E' n ∨ Passes p N n W := fun n => Or.imp_left (hE n)
    have upW := upward_or (p := p) (N := N) (W := W) up
    have hs₁ := h₁.kept _ hEW upW _ (kept_mark hs)
    refine kept_unmark up (h₂.kept _ hEW upW _ hs₁) fun n hn => ?_
    obtain ⟨m, hmn, hm | hm⟩ := hW n hn
    · rcases h₁.followed _ hEW upW _ (kept_mark hs) m hm with hcovered | hE'
      · exact .inl (h₂.covered _ hcovered)
      · exact .inr ⟨m, hmn, hE'⟩
    · exact (h₂.followed _ hEW upW _ hs₁ m hm).imp_right fun hE' => ⟨m, hmn, hE'⟩
  constructor
  · intro s hs
    rw [hf]
    split
    · exact hs
    · exact h₂.covered _ (h₁.covered _ hs)
  · intro E' hE up s hs
    rw [hf]
    split
    · exact hs
    · exact (chosen E' hE up s hs).1
  · intro E' hE up s hs n hn
    rw [hf]
    split
    · next hmarked => exact hs W hmarked n hn
    · exact (chosen E' hE up s hs).2 n hn

theorem explores_follow (q : Regex) {exit : Captures → Scan → Scan}
    (hexit : ∀ c, Explores p N E (exit c) k) (c : Captures) :
    Explores p N E (follow p q k exit c) (.run q :: k) := by
  induction q generalizing k exit c E with
  | empty =>
    refine (hexit c).of_step fun n hn => ?_
    cases hn with
    | empty h => exact ⟨_, Nat.le_succ _, h⟩
  | chars set =>
    refine ⟨fun s hs => covered_push hs _, fun E' _ _ s hs k' hk' n hn => ?_,
      fun E' _ _ s _ n hn => ?_⟩
    · rw [follow, seen_push] at hk'
      exact (hs k' hk' n hn).imp_left fun h => covered_push h _
    · cases hn with
      | chars _ h => exact .inl (covered_push_self h)
  | look a =>
    by_cases holds : a.holds p.before p.after = true
    · have hfollow : follow p (.look a) k exit c = exit c := by
        funext s
        rw [follow, if_pos holds]
      rw [hfollow]
      refine (hexit c).of_step fun n hn => ?_
      cases hn with
      | look _ h => exact ⟨_, Nat.le_succ _, h⟩
    · have hfollow : follow p (.look a) k exit c = id := by
        funext s
        rw [follow, if_neg holds]
        rfl
      rw [hfollow]
      refine ⟨fun s hs => hs, fun E' _ _ s hs => hs, fun E' _ _ s _ n hn => ?_⟩
      cases hn with
      | look h _ => exact absurd h holds
  | group i q ih =>
    have hclose : ∀ c : Captures,
        Explores p N E (exit (c.closeAt i p.offset)) (.close i :: k) := by
      refine fun c => (hexit _).of_step fun n hn => ?_
      cases hn with
      | close h => exact ⟨_, Nat.le_succ _, h⟩
    refine (ih hclose (c.openAt i p.offset)).of_step fun n hn => ?_
    cases hn with
    | group h => exact ⟨_, Nat.le_succ _, h⟩
  | cat q t ihq iht =>
    refine (ihq (fun c => iht hexit c) c).of_step fun n hn => ?_
    cases hn with
    | cat h => exact ⟨_, Nat.le_succ _, h⟩
  | alt q t ihq iht =>
    refine explores_choice ((ihq hexit c).weaken fun n => .inl) ((iht hexit c).weaken fun n => .inl)
      (fun n hn => ?_) fun s => by rw [follow]
    cases hn with
    | left h => exact ⟨_, Nat.lt_succ_self _, .inl h⟩
    | right h => exact ⟨_, Nat.lt_succ_self _, .inr h⟩
  | star greedy q ih =>
    -- A round that reads nothing is dropped when it is back at the iteration. Its way is excused,
    -- because the iteration is being followed.
    have drop : Explores p N (fun n => E n ∨ Passes p N n (.run (.star greedy q) :: k))
        (fun s => s) (.run (.star greedy q) :: k) :=
      ⟨fun s hs => hs, fun _ _ _ s hs => hs, fun _ hE _ _ _ n hn => .inr (hE n (.inr hn))⟩
    have body := ih (fun _ => drop) c
    have leave : Explores p N (fun n => E n ∨ Passes p N n (.run (.star greedy q) :: k))
        (exit c) k := (hexit c).weaken fun n => .inl
    cases greedy with
    | true =>
      refine explores_choice body leave (fun n hn => ?_) fun s => by rw [follow]; rfl
      cases hn with
      | stop h => exact ⟨_, Nat.lt_succ_self _, .inr h⟩
      | more h => exact ⟨_, Nat.lt_succ_self _, .inl h⟩
    | false =>
      refine explores_choice leave body (fun n hn => ?_) fun s => by rw [follow]; rfl
      cases hn with
      | stop h => exact ⟨_, Nat.lt_succ_self _, .inl h⟩
      | more h => exact ⟨_, Nat.lt_succ_self _, .inr h⟩

theorem explores_resume (k : List Task) (c : Captures) :
    Explores p N (fun _ => False) (resume p k c) k := by
  induction k generalizing c with
  | nil =>
    refine ⟨fun s _ => covered_accept c, fun E' _ _ s hs k' hk' n hn => .inl (covered_accept c),
      fun _ _ _ s _ n _ => .inl (covered_accept c)⟩
  | cons task k ih =>
    cases task with
    | close i =>
      refine (ih (c.closeAt i p.offset)).of_step fun n hn => ?_
      cases hn with
      | close h => exact ⟨_, Nat.le_succ _, h⟩
    | run q => exact explores_follow q ih c

/-- Threads that are resumed one after the other are all followed. -/
theorem kept_resumeAll (pending : List Thread) (hs : s.Kept p N fun _ => False) :
    let s' := pending.foldl (fun s t => resume p t.work t.captures s) s
    s'.Kept p N (fun _ => False) ∧ (s.Covered N → s'.Covered N) ∧
      ∀ t ∈ pending, ∀ n, Passes p N n t.work → s'.Covered N := by
  induction pending generalizing s with
  | nil => exact ⟨hs, id, by simp⟩
  | cons t ts ih =>
    have ht := explores_resume (p := p) (N := N) t.work t.captures
    have none : Upward fun _ => False := fun _ _ _ h => h
    obtain ⟨hkept, hmono, hall⟩ := ih (ht.kept _ (fun _ h => h) none s hs)
    refine ⟨hkept, fun h => hmono (ht.covered s h), fun t' ht' n hn => ?_⟩
    rcases List.mem_cons.mp ht' with rfl | ht'
    · refine hmono ?_
      exact (ht.followed _ (fun _ h => h) none s hs n hn).resolve_right id
    · exact hall t' ht' n hn

/-- A scan gets through the work of every thread and, if there is no match yet, through a new start
of the expression. -/
theorem covered_scan {r : Regex} {pending : List Thread} {best : Option Captures} {n : Nat}
    (h : (∃ t ∈ pending, Passes p N n t.work) ∨
      best = none ∧ Passes p N n [.run (.group 0 r)]) :
    (scan r p pending best).Covered N := by
  have start : Scan.Kept p N (fun _ => False) {} := by simp [Scan.Kept]
  obtain ⟨hkept, -, hall⟩ := kept_resumeAll pending start
  have new := explores_resume (p := p) (N := N) [.run (.group 0 r)] {}
  rw [scan]
  rcases h with ⟨t, ht, hn⟩ | ⟨rfl, hn⟩
  · have hcovered := hall t ht n hn
    split
    · exact hcovered
    · exact new.covered _ hcovered
  · exact (new.followed _ (fun _ h => h) (fun _ _ _ h => h) _ hkept n hn).resolve_right id

/-- Some work can be done from a position on. -/
def Feasible (pre rest : List Char) (k : List Task) : Prop :=
  ∃ mid post c c', rest = mid ++ post ∧ Covers pre mid post k c c'

/-- The next character can be read, and the work after it be done. -/
def Readable (pre rest : List Char) (set : CharSet) (k : List Task) : Prop :=
  ∃ a rest', rest = a :: rest' ∧ a ∈ set ∧ Feasible (pre ++ [a]) rest' k

/-- What covers some work takes a way through it to the next character. -/
theorem Covers.passes {pre mid post : List Char} {c c' : Captures}
    (h : Covers pre mid post k c c') :
    ∃ n, Passes (.between pre (mid ++ post)) (Readable pre (mid ++ post)) n k := by
  induction h with
  | done pre post c => exact ⟨0, .done 0⟩
  | chars mem h _ => exact ⟨0, .chars 0 ⟨_, _, rfl, mem, _, _, _, _, rfl, h⟩⟩
  | close _ ih =>
    obtain ⟨n, hn⟩ := ih
    exact ⟨n + 1, .close hn⟩
  | empty _ ih =>
    obtain ⟨n, hn⟩ := ih
    exact ⟨n + 1, .empty hn⟩
  | look holds _ ih =>
    obtain ⟨n, hn⟩ := ih
    exact ⟨n + 1, .look holds hn⟩
  | group _ ih =>
    obtain ⟨n, hn⟩ := ih
    exact ⟨n + 1, .group hn⟩
  | cat _ ih =>
    obtain ⟨n, hn⟩ := ih
    exact ⟨n + 1, .cat hn⟩
  | left _ ih =>
    obtain ⟨n, hn⟩ := ih
    exact ⟨n + 1, .left hn⟩
  | right _ ih =>
    obtain ⟨n, hn⟩ := ih
    exact ⟨n + 1, .right hn⟩
  | stop _ ih =>
    obtain ⟨n, hn⟩ := ih
    exact ⟨n + 1, .stop hn⟩
  | more _ ih =>
    obtain ⟨n, hn⟩ := ih
    exact ⟨n + 1, .more hn⟩

theorem Feasible.passes {pre rest : List Char} (h : Feasible pre rest k) :
    ∃ n, Passes (.between pre rest) (Readable pre rest) n k := by
  obtain ⟨mid, post, c, c', rfl, hcovers⟩ := h
  exact hcovers.passes

/-- If some thread, or a new start, can go through to a match, then after a scan there is a match or
a thread that still can. -/
theorem scan_of_feasible {r : Regex} {pre rest : List Char} {pending : List Thread}
    {best : Option Captures}
    (h : best.isSome = true ∨ (∃ t ∈ pending, Feasible pre rest t.work) ∨
      Feasible pre rest [.run (.group 0 r)]) :
    ((scan r (.between pre rest) pending best).found.or best).isSome = true ∨
      ∃ t ∈ (scan r (.between pre rest) pending best).threads,
        Readable pre rest t.set t.work := by
  cases hbest : best with
  | some c => exact .inl (by simp)
  | none =>
    have hcovered : (scan r (.between pre rest) pending none).Covered (Readable pre rest) := by
      rw [hbest] at h
      rcases h with h | ⟨t, ht, hfeasible⟩ | hfeasible
      · cases h
      · obtain ⟨n, hn⟩ := hfeasible.passes
        exact covered_scan (.inl ⟨t, ht, hn⟩)
      · obtain ⟨n, hn⟩ := hfeasible.passes
        exact covered_scan (.inr ⟨rfl, hn⟩)
    exact hcovered.imp_left fun hfound => by simp [hfound]

/-- A search has found something, or has a thread that can finish, or a match starts where it is or
further on. -/
def Promising (r : Regex) (pre rest : List Char) (pending : List Thread)
    (best : Option Captures) : Prop :=
  best.isSome = true ∨ (∃ t ∈ pending, Feasible pre rest t.work) ∨
    ∃ u v, rest = u ++ v ∧ Feasible (pre ++ u) v [.run (.group 0 r)]

/-- What is promising is so by something at this position or by a match further on. -/
theorem Promising.now_or_later {r : Regex} {pre rest : List Char} {a : Char}
    {pending : List Thread} {best : Option Captures}
    (h : Promising r pre (a :: rest) pending best) :
    (best.isSome = true ∨ (∃ t ∈ pending, Feasible pre (a :: rest) t.work) ∨
      Feasible pre (a :: rest) [.run (.group 0 r)]) ∨
      ∃ u v, rest = u ++ v ∧ Feasible (pre ++ [a] ++ u) v [.run (.group 0 r)] := by
  rcases h with h | h | ⟨u, v, huv, hfeasible⟩
  · exact .inl (.inl h)
  · exact .inl (.inr (.inl h))
  · cases u with
    | nil =>
      obtain rfl : a :: rest = v := huv
      exact .inl (.inr (.inr (by simpa using hfeasible)))
    | cons b u =>
      obtain ⟨rfl, rfl⟩ := List.cons.inj huv
      exact .inr ⟨u, v, rfl, by simpa using hfeasible⟩

/-- A promising search is still promising behind the next character, with the threads that can read
that character. -/
theorem Promising.next {r : Regex} {pre rest : List Char} {a : Char} {pending : List Thread}
    {best : Option Captures} (h : Promising r pre (a :: rest) pending best) :
    Promising r (pre ++ [a]) rest
      ((scan r (.between pre (a :: rest)) pending best).threads.reverse.filter (a ∈ ·.set))
      ((scan r (.between pre (a :: rest)) pending best).found.or best) := by
  rcases h.now_or_later with hnow | hlater
  · rcases scan_of_feasible hnow with hfound | ⟨t, ht, b, rest', hrest, hb, hfeasible⟩
    · exact .inl hfound
    · obtain ⟨rfl, rfl⟩ := List.cons.inj hrest
      refine .inr (.inl ⟨t, List.mem_filter.mpr ⟨List.mem_reverse.mpr ht, ?_⟩, hfeasible⟩)
      simpa using hb
  · exact .inr (.inr hlater)

theorem isSome_searchFrom {r : Regex} {pre rest : List Char} {pending : List Thread}
    {best : Option Captures} (h : Promising r pre rest pending best) :
    (searchFrom r pre.length pre.getLast? pending best rest).isSome = true := by
  induction rest generalizing pre pending best with
  | nil =>
    have hscan : best.isSome = true ∨ (∃ t ∈ pending, Feasible pre [] t.work) ∨
        Feasible pre [] [.run (.group 0 r)] := by
      refine Or.imp_right (Or.imp_right ?_) h
      rintro ⟨u, v, huv, hfeasible⟩
      obtain ⟨rfl, rfl⟩ := List.append_eq_nil_iff.mp huv.symm
      simpa using hfeasible
    rw [searchFrom, Option.orElse_eq_orElse, Option.orElse_eq_or]
    -- At the end of the text no thread can read on.
    exact (scan_of_feasible hscan).resolve_right fun ⟨_, _, _, _, hnil, _⟩ => nomatch hnil
  | cons a rest ih =>
    rw [searchFrom, Option.orElse_eq_orElse, Option.orElse_eq_or]
    split
    · next hstop => exact (Bool.and_eq_true_iff.mp hstop).2
    · have hlength : (pre ++ [a]).length = pre.length + 1 := by simp
      have hfound := ih h.next
      rw [hlength, List.getLast?_concat] at hfound
      exact hfound

/-- If there is a match, a search finds one. -/
theorem isSome_search? {r : Regex} {text : List Char} {c : Captures} (h : Found r text c) :
    (r.search? text).isSome = true := by
  obtain ⟨u, v, w, rfl, hspans⟩ := h
  refine @isSome_searchFrom r [] _ [] none (.inr (.inr ⟨u, v ++ w, ?_, v, w, {}, c, rfl, hspans⟩))
  rw [List.append_assoc]

end Complete

end HttpRouting.Regex
