import HttpRouting.Placeholder.Scan
import HttpRouting.Regex.Parser
/-!
# Router options

## Main definitions

* `Options`: what can be set for a router.
* `Options.validate`: refuses options with which no route could be built.
-/

namespace HttpRouting

/-- The options of a router. -/
structure Options where
  /-- The action of routes that name none. -/
  defaultAction : String := "index"
  /-- The pattern that every placeholder has to match. -/
  placeholderPattern : String := "[^/.,;?]+"
  /-- Whether methods are compared without regard to case. -/
  caseInsensitiveMethod : Bool := true
  /-- Whether routes are logged when a table is made. -/
  debug : Bool := false
deriving DecidableEq, Repr

namespace Options

/-- Why options are refused. -/
inductive Error where
  /-- The default action is empty or blank. -/
  | emptyDefaultAction
  /-- The placeholder pattern is malformed. -/
  | invalidPlaceholderPattern (pattern : String)
  /-- The placeholder pattern has capturing groups of its own. -/
  | capturingPlaceholderPattern (pattern : String) (groups : Nat)
deriving DecidableEq, Repr

/-- The text of the error. -/
def Error.message : Error → String
  | emptyDefaultAction => "default_action must not be empty"
  | invalidPlaceholderPattern pattern =>
    "placeholder pattern '" ++ pattern ++ "' is not a valid regex: "
  | capturingPlaceholderPattern pattern groups =>
    "placeholder pattern '" ++ pattern ++ "' must not contain capturing groups (found " ++
      toString groups ++ ")"

/-- Accepts options whose default action is not blank and whose placeholder pattern is well formed
and does not capture. -/
def validate (o : Options) : Except Error Unit :=
  if o.defaultAction.toList.all Unicode.isBlank then .error .emptyDefaultAction
  else if (Regex.parse? o.placeholderPattern).isNone then
    .error (.invalidPlaceholderPattern o.placeholderPattern)
  else
    let groups := Placeholder.countCaptures o.placeholderPattern
    if 0 < groups then .error (.capturingPlaceholderPattern o.placeholderPattern groups)
    else .ok ()

end Options

end HttpRouting
