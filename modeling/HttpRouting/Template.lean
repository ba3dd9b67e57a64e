import HttpRouting.Condition.Key
import HttpRouting.Text.Identifier
import HttpRouting.Text.Runs
/-!
# Parameter templates

The value of a parameter is text with references to what a match has captured: a colon with a name
reads the placeholder of that name, a colon with a name and a number in brackets reads a group of
the condition of that name, and a number in brackets alone reads a group of the path.

## Main definitions

* `Template.Reference`, `Template.references`: the references in a text.
* `Template`: text and captures, with `Template.parse` to resolve the references.
* `Template.render`: the value for a match.
-/

namespace HttpRouting

/-- Why the parameters or conditions of a route are refused. -/
inductive PatternError where
  /-- The source of a condition is no pattern. -/
  | invalidRegex (condition source : String)
  /-- A parameter refers to a placeholder that the route does not have. -/
  | unknownPlaceholder (param name : String)
  /-- A parameter refers to a condition that the route does not have. -/
  | unknownCondition (param condition : String)
  /-- A parameter refers to a group that a condition does not have. -/
  | captureOutOfRange (param condition : String) (group available : Nat)
deriving DecidableEq, Repr

/-- The text of the error. -/
def PatternError.message : PatternError → String
  | invalidRegex condition source =>
    "condition '" ++ condition ++ "' has an invalid regex '" ++ source ++ "': "
  | unknownPlaceholder param name =>
    "param '" ++ param ++ "' references unknown placeholder ':" ++ name ++ "'"
  | unknownCondition param condition =>
    "param '" ++ param ++ "' references condition '" ++ condition ++
      "', which the route does not have"
  | captureOutOfRange param condition group available =>
    "param '" ++ param ++ "' references capture " ++ toString group ++ " of condition '" ++
      condition ++ "', which only has " ++ toString available

/-- A piece of a template. -/
inductive Part where
  /-- Text. -/
  | literal (text : String)
  /-- The text that a group of a condition captured. -/
  | capture (condition : Key) (group : Nat)
deriving DecidableEq, Repr

/-- A parameter value whose references have been resolved. -/
structure Template where
  /-- The pieces in order. -/
  parts : List Part
deriving DecidableEq, Repr

namespace Template

/-! ### References -/

/-- A reference in the text of a parameter. -/
inductive Reference where
  /-- A placeholder. -/
  | placeholder (name : String)
  /-- A group of a condition. -/
  | capture (condition : Key) (group : Nat)
deriving DecidableEq, Repr

/-- The number that decimal digits denote. -/
def decimal (ds : List Char) : Nat := ds.foldl (fun n d => n * 10 + (d.toNat - '0'.toNat)) 0

/-- Reads a number in brackets; it has to fit 64 bits. -/
def bracket? : List Char → Option (Nat × List Char)
  | '[' :: cs =>
    let ds := cs.takeWhile Char.isDigit
    match cs.dropWhile Char.isDigit with
    | ']' :: rest => if ds ≠ [] ∧ decimal ds < UInt64.size then some (decimal ds, rest) else none
    | _ => none
  | _ => none

/-- Reads the reference at the start of a text. A name whose number is malformed refers to a
placeholder. -/
def reference? : List Char → Option (Reference × List Char)
  | ':' :: cs => do
    let (name, rest) ← Identifier.read? cs
    match bracket? rest with
    | some (n, rest) => return (.capture (Key.ofName (String.ofList name)) n, rest)
    | none => return (.placeholder (String.ofList name), rest)
  | cs => (bracket? cs).map fun (n, rest) => (.capture .path n, rest)

theorem length_lt_of_bracket? {cs rest : List Char} {n : Nat} (h : bracket? cs = some (n, rest)) :
    rest.length < cs.length := by
  unfold bracket? at h
  split at h
  · next cs =>
    have hle := Identifier.length_dropWhile_le Char.isDigit cs
    split at h
    · next hd =>
      dsimp only at h
      split at h
      · simp only [Option.some.injEq, Prod.mk.injEq] at h
        rw [hd] at hle
        rw [← h.2]
        simp only [List.length_cons] at hle ⊢
        omega
      · simp at h
    · simp at h
  · simp at h

theorem length_lt_of_reference? {cs rest : List Char} {r : Reference}
    (h : reference? cs = some (r, rest)) : rest.length < cs.length := by
  unfold reference? at h
  split at h
  · next cs =>
    cases hi : Identifier.read? cs with
    | none => simp [hi] at h
    | some p =>
      obtain ⟨name, after⟩ := p
      have hlt := Identifier.length_lt_of_read? hi
      simp only [hi, Option.bind_eq_bind, Option.bind_some] at h
      split at h
      · next hb =>
        simp only [Option.pure_def, Option.some.injEq, Prod.mk.injEq] at h
        have := length_lt_of_bracket? hb
        rw [← h.2]
        simp only [List.length_cons]
        omega
      · simp only [Option.pure_def, Option.some.injEq, Prod.mk.injEq] at h
        rw [← h.2]
        simp only [List.length_cons]
        omega
  · simp only [Option.map_eq_some_iff, Prod.mk.injEq] at h
    obtain ⟨⟨n, after⟩, hp, _, rfl⟩ := h
    exact length_lt_of_bracket? hp

/-- The characters and references of a text, from left to right. -/
def references (cs : List Char) : List (Char ⊕ Reference) :=
  match cs with
  | [] => []
  | c :: cs =>
    match _h : reference? (c :: cs) with
    | some (r, rest) => .inr r :: references rest
    | none => .inl c :: references cs
termination_by cs.length
decreasing_by
  · exact length_lt_of_reference? ‹_›
  · exact Nat.lt_succ_self _

/-! ### Resolving -/

/-- Resolves a reference of a parameter, given the placeholders of the route and the number of
groups of each of its conditions. -/
def resolve (param : String) (placeholders : String → Option (Key × Nat))
    (groups : Key → Option Nat) : Reference → Except PatternError Part
  | .placeholder name =>
    match placeholders name with
    | some (k, n) => .ok (.capture k n)
    | none => .error (.unknownPlaceholder param name)
  | .capture k n =>
    match groups k with
    | none => .error (.unknownCondition param k.name)
    | some available =>
      if available < n then .error (.captureOutOfRange param k.name n available)
      else .ok (.capture k n)

/-- The piece for a run of text, or for a reference that is resolved. -/
def ofRun (param : String) (placeholders : String → Option (Key × Nat))
    (groups : Key → Option Nat) : List Char ⊕ Reference → Except PatternError Part
  | .inl cs => .ok (.literal (String.ofList cs))
  | .inr r => resolve param placeholders groups r

/-- The template that is a given text. -/
def ofText (t : String) : Template := ⟨[.literal t]⟩

/-- The template for the value of a parameter. The first reference that cannot be resolved is the
error, and the empty value is one empty text. -/
def parse (param value : String) (placeholders : String → Option (Key × Nat))
    (groups : Key → Option Nat) : Except PatternError Template := do
  match ← (runs (references value.toList)).mapM (ofRun param placeholders groups) with
  | [] => return ofText ""
  | ps => return ⟨ps⟩

/-! ### Values -/

/-- The capture that the template consists of, if it consists of one. -/
def capture? (t : Template) : Option (Key × Nat) :=
  match t.parts with
  | [.capture k n] => some (k, n)
  | _ => none

/-- The text that the template consists of, if it consists of one. -/
def literal? (t : Template) : Option String :=
  match t.parts with
  | [.literal s] => some s
  | _ => none

/-- The value of the template, given what each group captured. A single capture has no value if its
group took no part in the match; among other pieces it is left empty. -/
def render (t : Template) (captured : Key → Nat → Option String) : Option String :=
  match t.capture? with
  | some (k, n) => captured k n
  | none =>
    some (String.join (t.parts.map fun
      | .literal s => s
      | .capture k n => (captured k n).getD ""))

end Template

end HttpRouting
