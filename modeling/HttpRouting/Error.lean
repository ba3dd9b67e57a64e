import HttpRouting.Options
import HttpRouting.Route.Generation
import HttpRouting.Template
/-!
# Errors

Every operation on a router fails for one of the causes gathered here, and `Error.message` gives the
text.
-/

namespace HttpRouting

/-- The kinds of lists of a resource in which an action or a key can be wrong. -/
inductive ActionKind where
  /-- An action on a member. -/
  | member
  /-- An action on the collection. -/
  | collection
  /-- A key of a member. -/
  | key
deriving DecidableEq, Repr

/-- The word for the kind. -/
def ActionKind.word : ActionKind → String
  | member => "member"
  | collection => "collection"
  | key => "key"

/-- Why a declaration is refused. -/
inductive DeclarationError where
  /-- The name is taken by another route. -/
  | duplicateRouteName (name : String)
  /-- The name is empty. -/
  | emptyRouteName
  /-- The namespace is empty. -/
  | emptyNamespace
  /-- The resource name is no word. -/
  | invalidResourceName (name : String)
  /-- The resource has an empty list of keys. -/
  | emptyResourceKeys (resource : String)
  /-- The resource has an action or a key that is no word. -/
  | invalidResourceAction (resource : String) (kind : ActionKind) (action : String)
  /-- The resource has an action without methods. -/
  | emptyActionMethods (resource : String) (kind : ActionKind) (action : String)
  /-- The resource has the same action twice. -/
  | duplicateResourceAction (resource : String) (kind : ActionKind) (action : String)
  /-- The singular resource has an option of plural ones. -/
  | unsupportedResourceOption (resource option : String)
deriving DecidableEq, Repr

/-- The text of the error. -/
def DeclarationError.message : DeclarationError → String
  | duplicateRouteName name => "route name '" ++ name ++ "' is already taken"
  | emptyRouteName => "route name must not be empty"
  | emptyNamespace => "namespace name must not be empty"
  | invalidResourceName name => "resource name '" ++ name ++ "' must be a non-empty word"
  | emptyResourceKeys resource => "resource '" ++ resource ++ "' was given an empty key list"
  | invalidResourceAction resource kind action =>
    "resource '" ++ resource ++ "' declares invalid " ++ kind.word ++ " action '" ++ action ++ "'"
  | emptyActionMethods resource kind action =>
    "resource '" ++ resource ++ "' declares " ++ kind.word ++ " action '" ++ action ++
      "' without methods"
  | duplicateResourceAction resource kind action =>
    "resource '" ++ resource ++ "' declares " ++ kind.word ++ " action '" ++ action ++
      "' more than once"
  | unsupportedResourceOption resource option =>
    "singular resource '" ++ resource ++ "' does not support the '" ++ option ++ "' option"

/-- Why an operation on a router fails. -/
inductive Error where
  /-- Nothing has been declared yet. -/
  | notCompiled
  /-- No route has the name. -/
  | namedRouteNotFound (name : String)
  /-- A condition or parameter is refused. -/
  | pattern (e : PatternError)
  /-- A declaration is refused. -/
  | declaration (e : DeclarationError)
  /-- No URL can be generated. -/
  | generate (e : GenerateError)
  /-- The options are refused. -/
  | options (e : Options.Error)
deriving DecidableEq, Repr

/-- The text of the error. -/
def Error.message : Error → String
  | notCompiled => "router has no compiled route table; call prepare first"
  | namedRouteNotFound name => "named route '" ++ name ++ "' not found"
  | pattern e => e.message
  | declaration e => e.message
  | generate e => e.message
  | options e => e.message

end HttpRouting
