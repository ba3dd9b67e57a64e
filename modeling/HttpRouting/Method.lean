/-!
# Request methods

## Main definitions

* `Method`: the methods that resource actions may name.
* `MethodSet`: a set of methods as a mask with one bit per method.
* `MethodSet.source`: the pattern that accepts exactly the methods of a set.
-/

namespace HttpRouting

/-- A request method. -/
inductive Method where
  /-- Reads a resource. -/
  | get
  /-- Adds to a resource. -/
  | post
  /-- Replaces a resource. -/
  | put
  /-- Removes a resource. -/
  | delete
  /-- Changes a resource. -/
  | patch
  /-- Reads the headers of a resource. -/
  | head
  /-- Asks what a resource allows. -/
  | options
deriving DecidableEq, Repr

namespace Method

/-- All methods in their order. -/
def all : List Method := [get, post, put, delete, patch, head, options]

/-- The name of the method in a condition. -/
def token : Method → String
  | get => "get"
  | post => "post"
  | put => "put"
  | delete => "delete"
  | patch => "patch"
  | head => "head"
  | options => "options"

/-- The name of the method where methods are listed by name. -/
def name : Method → String
  | get => "Get"
  | post => "Post"
  | put => "Put"
  | delete => "Delete"
  | patch => "Patch"
  | head => "Head"
  | options => "Options"

/-- The method with a name in a condition. -/
def ofToken? (s : String) : Option Method := all.find? (·.token == s)

/-- The position of the method's bit in a mask. -/
def bit : Method → Nat
  | get => 0
  | post => 1
  | put => 2
  | delete => 3
  | patch => 4
  | head => 5
  | options => 6

end Method

/-- A set of methods. The mask has the flags of the seven methods and no other bit: a bit that
belongs to no method, which only an unchecked conversion can set, is not modelled. -/
structure MethodSet where
  /-- The mask, with one bit per method. -/
  bits : BitVec 7
deriving DecidableEq, Repr

namespace MethodSet

instance : Membership Method MethodSet where
  mem s m := s.bits.getLsbD m.bit = true

instance (m : Method) (s : MethodSet) : Decidable (m ∈ s) :=
  inferInstanceAs (Decidable (s.bits.getLsbD m.bit = true))

/-- The set without members. -/
def empty : MethodSet := ⟨0⟩

/-- The set with one member. -/
def single (m : Method) : MethodSet := ⟨1#7 <<< m.bit⟩

/-- The methods in at least one of two sets. -/
def union (s t : MethodSet) : MethodSet := ⟨s.bits ||| t.bits⟩

/-- The set of the methods in a list. -/
def ofList (ms : List Method) : MethodSet := ms.foldl (fun s m => s.union (single m)) empty

/-- The members in their order. -/
def toList (s : MethodSet) : List Method := Method.all.filter (· ∈ s)

@[simp] theorem mem_toList {s : MethodSet} {m : Method} : m ∈ s.toList ↔ m ∈ s := by
  have hall : m ∈ Method.all := by cases m <;> decide
  simp [toList, hall]

@[simp] theorem mem_single {m n : Method} : m ∈ single n ↔ m = n := by
  cases m <;> cases n <;> decide

/-- Whether the set has no members. -/
def isEmpty (s : MethodSet) : Bool := s == empty

/-- The pattern that accepts exactly the members' names. -/
def source (s : MethodSet) : String :=
  "^(" ++ "|".intercalate (s.toList.map Method.token) ++ ")$"

end MethodSet

end HttpRouting
