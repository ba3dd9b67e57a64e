/-!
# Identifiers

An identifier is an ASCII letter or an underscore followed by ASCII letters, digits and underscores.
-/

namespace HttpRouting.Identifier

/-- Whether a character may start an identifier. -/
def isStart (c : Char) : Bool := c.isAlpha || c == '_'

/-- Whether a character may continue an identifier. -/
def isRest (c : Char) : Bool := c.isAlphanum || c == '_'

/-- Whether a text is an identifier. -/
def isIdentifier : List Char → Bool
  | [] => false
  | c :: cs => isStart c && cs.all isRest

/-- The longest identifier at the start of a text, with what follows it. -/
def read? : List Char → Option (List Char × List Char)
  | [] => none
  | c :: cs => if isStart c then some (c :: cs.takeWhile isRest, cs.dropWhile isRest) else none

theorem append_of_read? {cs name rest : List Char} (h : read? cs = some (name, rest)) :
    name ++ rest = cs := by
  cases cs with
  | nil => simp [read?] at h
  | cons c cs =>
    simp only [read?] at h
    split at h
    · simp only [Option.some.injEq, Prod.mk.injEq] at h
      rw [← h.1, ← h.2, List.cons_append, List.takeWhile_append_dropWhile]
    · simp at h

theorem length_dropWhile_le (p : Char → Bool) (cs : List Char) :
    (cs.dropWhile p).length ≤ cs.length :=
  (List.dropWhile_sublist p).length_le

theorem length_lt_of_read? {cs name rest : List Char} (h : read? cs = some (name, rest)) :
    rest.length < cs.length := by
  cases cs with
  | nil => simp [read?] at h
  | cons c cs =>
    simp only [read?] at h
    split at h
    · simp only [Option.some.injEq, Prod.mk.injEq] at h
      rw [← h.2]
      exact Nat.lt_succ_of_le (length_dropWhile_le _ _)
    · simp at h

end HttpRouting.Identifier
