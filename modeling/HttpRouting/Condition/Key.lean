import Std.Data.ExtTreeMap
/-!
# Condition keys

A condition tests one part of a request: its path, method, protocol or a named attribute. Conditions
are tested in this order, attributes by name.
-/

namespace HttpRouting

/-- The part of a request that a condition tests. -/
inductive Key where
  /-- The path. -/
  | path
  /-- The method. -/
  | method
  /-- The protocol. -/
  | protocol
  /-- The attribute with a name. -/
  | attr (name : String)
deriving DecidableEq, Repr

namespace Key

/-- The name by which the key is written. -/
def name : Key → String
  | path => "path"
  | method => "method"
  | protocol => "protocol"
  | attr n => n

/-- The key that a name stands for: an attribute unless the name is reserved. -/
def ofName (n : String) : Key :=
  if n = "path" then path
  else if n = "method" then method
  else if n = "protocol" then protocol
  else attr n

/-- The place of the key among the kinds of keys. -/
def rank : Key → Nat
  | path => 0
  | method => 1
  | protocol => 2
  | attr _ => 3

instance : Ord Key where
  compare := compareLex (compareOn rank) (compareOn name)

instance : Std.TransOrd Key :=
  inferInstanceAs (Std.TransCmp (compareLex (compareOn rank) (compareOn name)))

instance : Std.LawfulEqOrd Key where
  toReflCmp := inferInstance
  eq_of_compare {a b} h := by
    change compareLex (compareOn rank) (compareOn name) a b = .eq at h
    simp only [compareLex_eq_eq, compareOn, Std.compare_eq_iff_eq] at h
    cases a <;> cases b <;> simp_all [rank, name]

end Key

end HttpRouting
