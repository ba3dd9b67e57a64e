/-!
# Runs of text

A text that has been read as characters and other things is put together again: neighbouring
characters become one run, and what stands between runs is kept.

## Main definitions

* `runs`: the runs of a list of characters and other things.
-/

namespace HttpRouting

variable {α : Type}

/-- Adds a character before some runs. -/
def pushChar (c : Char) : List (List Char ⊕ α) → List (List Char ⊕ α)
  | .inl cs :: rs => .inl (c :: cs) :: rs
  | rs => .inl [c] :: rs

/-- The runs of a list of characters and other things. No run is empty, and no two runs are
neighbours. -/
def runs : List (Char ⊕ α) → List (List Char ⊕ α)
  | [] => []
  | .inl c :: xs => pushChar c (runs xs)
  | .inr a :: xs => .inr a :: runs xs

/-- The characters and other things that some runs are made of. -/
def unrun (rs : List (List Char ⊕ α)) : List (Char ⊕ α) :=
  rs.flatMap fun
    | .inl cs => cs.map .inl
    | .inr a => [.inr a]

theorem unrun_pushChar (c : Char) (rs : List (List Char ⊕ α)) :
    unrun (pushChar c rs) = .inl c :: unrun rs := by
  unfold pushChar
  split <;> simp [unrun]

/-- Nothing is lost or moved. -/
theorem unrun_runs (xs : List (Char ⊕ α)) : unrun (runs xs) = xs := by
  induction xs with
  | nil => rfl
  | cons x xs ih =>
    cases x with
    | inl c => rw [runs, unrun_pushChar, ih]
    | inr a =>
      have h : unrun (.inr a :: runs xs) = .inr a :: unrun (runs xs) := by simp [unrun]
      rw [runs, h, ih]

end HttpRouting
