import HttpRouting.Condition.Key
import HttpRouting.Query
/-!
# Requests

## Main definitions

* `Request`: what conditions are tested against.
* `Request.subject`: the text that a condition tests; an absent attribute is tested as empty text.
-/

namespace HttpRouting

/-- A request. -/
structure Request where
  /-- The method as it was sent. -/
  method : String
  /-- The path. -/
  path : String
  /-- The protocol. -/
  protocol : String := "http"
  /-- Further attributes by name. -/
  attributes : Params := ∅

namespace Request

/-- The part of the request that a key names, if it is present. -/
def value? (r : Request) : Key → Option String
  | .path => some r.path
  | .method => some r.method
  | .protocol => some r.protocol
  | .attr n => r.attributes[n]?

/-- The text that a condition tests; the method may be put into small letters first. -/
def subject (r : Request) (lowercaseMethod : Bool) (k : Key) : String :=
  if k = .method && lowercaseMethod then String.ofList (r.method.toList.map Char.toLower)
  else (r.value? k).getD ""

end Request

end HttpRouting
