/-!
# Models

A model supplies values for the placeholders of a URL in place of parameters.
-/

namespace HttpRouting

/-- An object that a URL is generated from. -/
structure Model where
  /-- The value that stands for the object as a whole. -/
  toParam : Option String := none
  /-- The value of the field with a name. -/
  field : String → Option String

namespace Model

/-- The model that has only a value as a whole. -/
def ofParam (v : String) : Model := ⟨some v, fun _ => none⟩

/-- The value for a placeholder: `id` stands for the object as a whole, if that has a value. -/
def value? (m : Model) (name : String) : Option String :=
  if name = "id" then m.toParam <|> m.field name else m.field name

end Model

end HttpRouting
