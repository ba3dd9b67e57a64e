import HttpRouting.Inflection
import HttpRouting.Registry
/-!
# Resources

A resource declares the usual routes of a collection, or of a single thing, at once. Each route is a
condition on the path below the resource and on the method. Beside them stand named routes that only
generate, because patterns cannot.

## Main definitions

* `ResourceOptions`: what can be set for a resource.
* `ResourceScope`: where a resource stands, with the name of its controller and of its routes.
* `Behavior.resources`, `Behavior.resource`: a plural and a singular resource.
-/

namespace HttpRouting

/-- The options of a resource. -/
structure ResourceOptions where
  /-- What the names of routes start with, in place of the namespace. -/
  nameStart : Option String := none
  /-- The namespace, in place of the one in force. -/
  scopeName : Option String := none
  /-- The controller, in place of the name of the resource. -/
  controller : Option String := none
  /-- The names of the placeholders that identify a member. -/
  keys : Option (List String) := none
  /-- Further actions on a member, each with its methods. -/
  member : List (String × MethodSet) := []
  /-- Further actions on the collection, each with its methods. -/
  collection : List (String × MethodSet) := []
deriving DecidableEq, Repr

/-- Whether a name is a non-empty word of ASCII letters, digits, underscores and dashes. -/
def isWord (s : String) : Bool :=
  !s.isEmpty && s.toList.all fun c => c.isAlphanum || c == '_' || c == '-'

namespace ResourceOptions

/-- Accepts a list of actions if each is a word, has a method and has not been `seen` before. -/
def checkActions (resource : String) (kind : ActionKind) (seen : List String) :
    List (String × MethodSet) → Except DeclarationError Unit
  | [] => .ok ()
  | (action, methods) :: rest =>
    if !isWord action then .error (.invalidResourceAction resource kind action)
    else if methods.isEmpty then .error (.emptyActionMethods resource kind action)
    else if action ∈ seen then .error (.duplicateResourceAction resource kind action)
    else checkActions resource kind (action :: seen) rest

/-- Accepts a list of keys if it is not empty and holds identifiers only. -/
def checkKeys (resource : String) : Option (List String) → Except DeclarationError Unit
  | none => .ok ()
  | some keys =>
    if keys.isEmpty then .error (.emptyResourceKeys resource)
    else match keys.find? fun k => !Identifier.isIdentifier k.toList with
      | some k => .error (.invalidResourceAction resource .key k)
      | none => .ok ()

/-- The path of keys below the collection that identifies a member, if keys are given. -/
def keyPath? (o : ResourceOptions) : Option String :=
  o.keys.map fun keys => "/".intercalate (keys.map (":" ++ ·))

end ResourceOptions

/-- Where a resource stands. -/
structure ResourceScope where
  /-- The behavior at the path of the resource. -/
  base : Behavior
  /-- The name of its controller. -/
  controller : String
  /-- What the names of its routes start with. -/
  nameStart : String
  /-- The singular names of the resources around it, the outermost first. -/
  parents : List String

namespace ResourceScope

/-- The name of a route of the resource. -/
def routeName (s : ResourceScope) (name : String) : String :=
  s.nameStart ++ String.join (s.parents.map (· ++ "_")) ++ name

/-- The parameters of an action. -/
def params (s : ResourceScope) (action : String) : Params :=
  ((∅ : Params).insert "controller" s.controller).insert "action" action

/-- Registers the route of an action. -/
def action (s : ResourceScope) (path : String) (method : Condition) (action : String) :
    Pass Nat := do
  let b ← s.base.matchConditions (.ofPairs [(.path, .pattern path), (.method, method)])
  b.addRoute (s.params action)

/-- Names a route that only generates the path of an action. -/
def generation (s : ResourceScope) (path action name : String) : Pass Unit := do
  let b ← s.base.matchPath (.literal path)
  let r ← b.route (s.params action) none false
  Pass.update (·.nameDetached? r name)

/-- The path condition of a further action at a path. -/
def actionPath (path action : String) : String := "^" ++ path ++ "/" ++ action ++ "(\\.:format)?$"

/-- Registers further actions at a path, each with its named route. -/
def actions (s : ResourceScope) (path name : String) (as : List (String × MethodSet)) :
    Pass (List Nat) :=
  as.mapM fun (action, methods) => do
    let i ← s.action (actionPath path action) (.ofMethods methods) action
    s.generation (path ++ "/" ++ action) action (action ++ "_" ++ name)
    return i

end ResourceScope

namespace Behavior

/-- The namespace that a resource stands in, and whether its path has to name it. -/
def resourceNamespace (b : Behavior) (o : ResourceOptions) :
    Except DeclarationError (Option String × Bool) :=
  match o.scopeName with
  | some given =>
    let given := trimSlashes given
    if given.isEmpty then .error .emptyNamespace else .ok (some given, true)
  | none =>
    match b.chain.scope? with
    | some scope => .ok (some scope.name, !scope.pathApplied)
    | none => .ok (none, false)

/-- The controller of a resource: the one given, else a literal one in force, else the name of the
resource, with the namespace in front. -/
def resourceController (b : Behavior) (name : String) (o : ResourceOptions)
    (scopeName : Option String) : String :=
  let inherited := b.chain.params["controller"]?.filter fun v =>
    !v.toList.contains ':' && !v.toList.contains '['
  let base := ((o.controller <|> inherited).getD name)
  match scopeName with
  | some n => if (n ++ "/").toList.isPrefixOf base.toList then base else n ++ "/" ++ base
  | none => base

/-- Finds where a resource stands, and makes the behavior at its path. -/
def resourceScope (b : Behavior) (name : String) (o : ResourceOptions) : Pass ResourceScope := do
  if !isWord name then Pass.refuse (.invalidResourceName name)
  match b.resourceNamespace o with
  | .error e => Pass.refuse e
  | .ok (scopeName, inPath) =>
    let start := match scopeName with
      | some n => if inPath then "/" ++ n else ""
      | none => ""
    let base ← b.matchPath (.literal (start ++ "/" ++ name))
    let base := match scopeName with
      | some n => base.mapNode fun node => { node with scope := some ⟨n, true⟩ }
      | none => base
    let nameStart := match o.nameStart, scopeName with
      | some s, _ => s ++ "_"
      | none, some n =>
        String.ofList (n.toList.map fun c => if c = '/' then '_' else c) ++ "_"
      | none, none => ""
    return ⟨base, b.resourceController name o scopeName, nameStart, b.chain.parents⟩

/-- Accepts a declaration or refuses it. -/
def require (e : Except DeclarationError Unit) : Pass Unit :=
  match e with
  | .ok () => return
  | .error e => Pass.refuse e

/-- The behavior inside a resource with the given singular names around. -/
def nestedIn (b : Behavior) (parents : List String) : Behavior :=
  b.mapNode fun n => { n with parents := some parents }

/-- The standard actions of a plural resource, given the path of a member's keys. -/
def pluralActions (keys : String) : List (String × Method × String) :=
  [("^/?(\\.:format)?$", .get, "index"),
    ("^/new$", .get, "new"),
    ("^/?(\\.:format)?$", .post, "create"),
    ("^/" ++ keys ++ "(\\.:format)?$", .get, "show"),
    ("^/" ++ keys ++ "[;/]edit$", .get, "edit"),
    ("^/" ++ keys ++ "[;/]delete$", .get, "delete"),
    ("^/" ++ keys ++ "(\\.:format)?$", .put, "update"),
    ("^/" ++ keys ++ "(\\.:format)?$", .delete, "destroy")]

/-- The named routes of a plural resource, given the path of a member's keys and the names of the
collection and of a member. -/
def pluralNames (keys plural singular : String) : List (String × String × String) :=
  [("", "index", plural),
    ("/" ++ keys, "show", singular),
    ("/new", "new", "new_" ++ singular),
    ("/" ++ keys ++ "/edit", "edit", "edit_" ++ singular),
    ("/" ++ keys ++ "/delete", "delete", "delete_" ++ singular)]

/-- Declares a plural resource. The answer is the indexes of its routes, and the behavior inside a
member. -/
def resources (b : Behavior) (name : String) (o : ResourceOptions) :
    Pass (List Nat × Behavior) := do
  require (ResourceOptions.checkActions name .member [] o.member)
  require (ResourceOptions.checkActions name .collection [] o.collection)
  require (ResourceOptions.checkKeys name o.keys)
  let keys := o.keyPath?.getD ":id"
  let s ← b.resourceScope name o
  let singular := singularize name
  let pluralName := s.routeName name
  let singularName := s.routeName singular
  let members ← s.actions ("/" ++ keys) singularName o.member
  let collections ← s.actions "" pluralName o.collection
  let standard ← (pluralActions keys).mapM fun (path, method, action) =>
    s.action path (.ofMethod method) action
  (pluralNames keys pluralName singularName).forM fun (path, action, name) =>
    s.generation path action name
  let inner ← s.base.matchPath (.literal ("/" ++ o.keyPath?.getD (":" ++ singular ++ "_id")))
  return (members ++ collections ++ standard, inner.nestedIn (s.parents ++ [singular]))

/-- The standard actions of a singular resource. -/
def singularActions : List (String × Method × String) :=
  [("^[;/]new$", .get, "new"),
    ("^/?(\\.:format)?$", .post, "create"),
    ("^/?(\\.:format)?$", .get, "show"),
    ("^[;/]edit$", .get, "edit"),
    ("^/?(\\.:format)?$", .put, "update"),
    ("^/?(\\.:format)?$", .delete, "destroy")]

/-- The named routes of a singular resource, given its name. -/
def singularNames (name : String) : List (String × String × String) :=
  [("", "show", name), ("/new", "new", "new_" ++ name), ("/edit", "edit", "edit_" ++ name)]

/-- Declares a singular resource. The answer is the indexes of its routes, and the behavior inside
it. -/
def resource (b : Behavior) (name : String) (o : ResourceOptions) : Pass (List Nat × Behavior) := do
  if o.keys.isSome then Pass.refuse (.unsupportedResourceOption name "keys")
  if !o.collection.isEmpty then Pass.refuse (.unsupportedResourceOption name "collection")
  require (ResourceOptions.checkActions name .member [] o.member)
  let s ← b.resourceScope name o
  let routeName := s.routeName name
  let members ← s.actions "" routeName o.member
  let standard ← singularActions.mapM fun (path, method, action) =>
    s.action path (.ofMethod method) action
  (singularNames routeName).forM fun (path, action, name) => s.generation path action name
  return (members ++ standard, s.base.nestedIn (s.parents ++ [name]))

end Behavior

end HttpRouting
