import HttpRouting.Proofs.LiteralMatch
import HttpRouting.Proofs.PassEffects
import HttpRouting.Proofs.PathStems

/-!
# The routes of a plural resource

A plural resource registers one route for each further action on a member, one for each further
action on the collection, and eight standard ones. Every one of them tests the path below the name
of the resource, and the method. Beside them stand the named routes, which only generate. Each route
can be built, so the resource is declared exactly if its names are free.

## Main definitions

* `ResourceRoute`, `ResourceLink` — a route of a resource, and a named route
* `ResourceRoute.Accepted` — a route that resources register
* `resourceRoutes`, `resourceLinks` — what is declared by a resource

## Main results

* `Behavior.declares_resources` — what a pass adds that declares a resource
* `ResourceRoute.isSome_match?_iff`, `ResourceRoute.exists_reaches_of_match?` — what a route answers
-/

namespace HttpRouting

open Placeholder Shape

/-! ### Steps -/

/-- The steps at the path of a resource on the root. -/
def resourceFrames (w : String) : List Frame := [.literal ("/" ++ w), Chain.rootFrame]

theorem isLiteral_resourceFrames (w : String) : ∀ f ∈ resourceFrames w, f.IsLiteral :=
  List.forall_mem_cons.mpr ⟨Frame.isLiteral_literal _,
    List.forall_mem_singleton.mpr (Frame.isLiteral_of_params _)⟩

theorem plainParams_resourceFrames (w : String) : PlainParams (resourceFrames w) :=
  plainParams_conditions plainParams_rootFrame

/-! ### Routes -/

/-- The steps of an action with a pattern below some steps. -/
def actionFrames (fs : List Frame) (controller path : String) (method : Condition)
    (action : String) : List Frame :=
  { params := actionParams controller action } ::
    { conditions := .ofPairs [(.path, .pattern path), (.method, method)] } :: fs

/-- The route of an action. -/
def actionRoute (fs : List Frame) (controller path : String) (method : Condition)
    (action : String) : Route :=
  (Route.build (Chain.ofFrames (actionFrames fs controller path method action)) none
    false).toOption.getD {}

section Actions

variable {fs : List Frame} {controller path action : String} {method : Condition}

theorem ofPairs_eq (path method : Condition) :
    Conditions.ofPairs [(.path, path), (.method, method)] =
      (Conditions.ofPath path).insert .method method := by
  rw [Conditions.ofPairs, Std.ExtTreeMap.insertMany_cons, Std.ExtTreeMap.insertMany_cons,
    Std.ExtTreeMap.insertMany_nil]
  rfl

theorem regular_actionFrames (hfs : ∀ f ∈ fs, f.IsLiteral)
    (hpath : (Condition.pattern path).Declared) (hmethod : method.IsPlain) :
    ∀ f ∈ actionFrames fs controller path method action, f.Regular := by
  rw [actionFrames, ofPairs_eq]
  refine List.forall_mem_cons.mpr ⟨Frame.regular_of_params _, List.forall_mem_cons.mpr ⟨?_,
    fun f hf => (hfs f hf).regular⟩⟩
  exact (Frame.regular_ofPath hpath).insert (by decide) hmethod

/-- The only condition beside the path is that on the method. -/
theorem getElem?_conditions_actionFrames (hfs : ∀ f ∈ fs, f.IsLiteral) {k : Key}
    (hk : k ≠ .path) :
    (Chain.ofFrames (actionFrames fs controller path method action)).conditions[k]? =
      if k = .method then some (expand (method.tested .method).source defaultPlaceholder).source
      else none := by
  rw [actionFrames, Chain.getElem?_conditions_cons hk, Chain.getElem?_conditions_cons hk,
    Chain.getElem?_conditions_of_ne hfs hk, ofPairs_eq, Conditions.ofPath,
    Std.ExtTreeMap.getElem?_insert, Std.ExtTreeMap.getElem?_insert]
  by_cases hmethod : k = .method
  · subst hmethod
    simp
  · simp [hmethod, Ne.symm hmethod, Ne.symm hk]

/-- The route of an action is described by its steps. -/
theorem build_actionRoute (hfs : ∀ f ∈ fs, f.IsLiteral) (hparams : PlainParams fs)
    (hcontroller : Template.IsPlain controller) (hpath : (Condition.pattern path).Declared)
    (hmethod : method.IsPlain) (haccepts : ∃ text, (method.tested .method).accepts text = true)
    (haction : isWord action = true) :
    Route.build (Chain.ofFrames (actionFrames fs controller path method action)) none false =
      .ok (actionRoute fs controller path method action) := by
  obtain ⟨r, hr⟩ : ∃ r, Route.build
      (Chain.ofFrames (actionFrames fs controller path method action)) none false = .ok r := by
    refine Route.exists_build_of_regular (regular_actionFrames hfs hpath hmethod)
      (fun k source hk hsource => ?_) (fun f hf name value hvalue => ?_) none false
    · rw [getElem?_conditions_actionFrames hfs hk] at hsource
      split at hsource
      · obtain rfl := Option.some.inj hsource
        obtain ⟨text, htext⟩ := haccepts
        exact Option.isSome_of_isSome_bind htext
      · cases hsource
    · refine Template.inr_not_mem_references ?_
      exact plainParams_actionParams (plainParams_conditions hparams) hcontroller
        (isPlain_of_isWord haction) f hf name value hvalue
  rw [actionRoute, hr]
  rfl

end Actions

/-- A route of a resource: its path, the condition on its method, and its action. -/
structure ResourceRoute where
  /-- The path below the resource. -/
  path : ResourcePath
  /-- The condition on the method. -/
  method : Condition
  /-- The action. -/
  action : String

namespace ResourceRoute

/-- The steps of the route. -/
def frames (fs : List Frame) (controller : String) (e : ResourceRoute) : List Frame :=
  { params := actionParams controller e.action } ::
    { conditions := .ofPairs [(.path, .pattern e.path.pattern), (.method, e.method)] } :: fs

/-- The route itself. -/
def route (fs : List Frame) (controller : String) (e : ResourceRoute) : Route :=
  (Route.build (Chain.ofFrames (e.frames fs controller)) none false).toOption.getD {}

/-- A route that resources register. -/
structure Accepted (e : ResourceRoute) : Prop where
  /-- Its path is one that resources declare. -/
  path : e.path.Accepted
  /-- The condition on its method has no placeholders. -/
  plain : e.method.IsPlain
  /-- There is a method that it accepts. -/
  method : ∃ text, (e.method.tested .method).accepts text = true
  /-- Its action is a word. -/
  action : isWord e.action = true

variable {fs : List Frame} {controller : String} {e : ResourceRoute}

theorem frames_eq (fs : List Frame) (controller : String) (e : ResourceRoute) :
    e.frames fs controller = actionFrames fs controller e.path.pattern e.method e.action := rfl

theorem route_eq (fs : List Frame) (controller : String) (e : ResourceRoute) :
    e.route fs controller = actionRoute fs controller e.path.pattern e.method e.action := rfl

theorem regular_frames (hfs : ∀ f ∈ fs, f.IsLiteral) (he : e.Accepted) :
    ∀ f ∈ e.frames fs controller, f.Regular :=
  regular_actionFrames hfs he.path.declared he.plain

/-- The only condition beside the path is that on the method. -/
theorem getElem?_conditions (hfs : ∀ f ∈ fs, f.IsLiteral) {k : Key} (hk : k ≠ .path) :
    (Chain.ofFrames (e.frames fs controller)).conditions[k]? =
      if k = .method then
        some (expand (e.method.tested .method).source defaultPlaceholder).source
      else none := getElem?_conditions_actionFrames hfs hk

/-- The route is described by its steps. -/
theorem build_route (hfs : ∀ f ∈ fs, f.IsLiteral) (hparams : PlainParams fs)
    (hcontroller : Template.IsPlain controller) (he : e.Accepted) :
    Route.build (Chain.ofFrames (e.frames fs controller)) none false =
      .ok (e.route fs controller) :=
  build_actionRoute hfs hparams hcontroller he.path.declared he.plain he.method he.action

end ResourceRoute

/-! ### Named routes -/

/-- A named route of a resource, which only generates: its literal path, its action, and its
name. -/
structure ResourceLink where
  /-- The literal path below the resource. -/
  path : String
  /-- The action. -/
  action : String
  /-- The name. -/
  name : String

namespace ResourceLink

/-- The steps of the route. -/
def frames (fs : List Frame) (controller : String) (l : ResourceLink) : List Frame :=
  { params := actionParams controller l.action } :: .literal l.path :: fs

/-- The route itself. -/
def route (fs : List Frame) (controller : String) (l : ResourceLink) : Route :=
  (Route.build (Chain.ofFrames (l.frames fs controller)) none false).toOption.getD {}

variable {fs : List Frame} {controller : String} {l : ResourceLink}

theorem isLiteral_frames (hfs : ∀ f ∈ fs, f.IsLiteral) :
    ∀ f ∈ l.frames fs controller, f.IsLiteral :=
  List.forall_mem_cons.mpr ⟨Frame.isLiteral_of_params _,
    List.forall_mem_cons.mpr ⟨Frame.isLiteral_literal _, hfs⟩⟩

/-- The route is described by its steps. -/
theorem build_route (hfs : ∀ f ∈ fs, f.IsLiteral) (hparams : PlainParams fs)
    (hcontroller : Template.IsPlain controller) (haction : isWord l.action = true) :
    Route.build (Chain.ofFrames (l.frames fs controller)) none false =
      .ok (l.route fs controller) := by
  obtain ⟨r, hr⟩ := Route.exists_build_of_literal (isLiteral_frames hfs)
    (fun f hf name value hvalue => Template.inr_not_mem_references
      (plainParams_actionParams (plainParams_conditions hparams) hcontroller
        (isPlain_of_isWord haction) f hf name value hvalue)) none false
  rw [route, hr]
  rfl

end ResourceLink

/-! ### What is declared -/

/-- The route of a further action. -/
def furtherRoute (kind : String → ResourcePath) (a : String × MethodSet) : ResourceRoute :=
  ⟨kind a.1, .ofMethods a.2, a.1⟩

/-- The routes of further actions. -/
def furtherRoutes (kind : String → ResourcePath) (as : List (String × MethodSet)) :
    List ResourceRoute := as.map (furtherRoute kind)

/-- The named route of a further action. -/
def furtherLink (path name : String) (a : String × MethodSet) : ResourceLink :=
  ⟨path ++ "/" ++ a.1, a.1, a.1 ++ "_" ++ name⟩

/-- The named routes of further actions. -/
def furtherLinks (path name : String) (as : List (String × MethodSet)) : List ResourceLink :=
  as.map (furtherLink path name)

/-- The standard actions of a plural resource, each with its path and its method. -/
def standardActions : List (ResourcePath × Method × String) :=
  [(.collection, .get, "index"), (.only "new", .get, "new"), (.collection, .post, "create"),
    (.member, .get, "show"), (.either "edit", .get, "edit"), (.either "delete", .get, "delete"),
    (.member, .put, "update"), (.member, .delete, "destroy")]

/-- The route of a standard action. -/
def standardRoute (a : ResourcePath × Method × String) : ResourceRoute :=
  ⟨a.1, .ofMethod a.2.1, a.2.2⟩

/-- The named route of a standard action. -/
def standardLink (a : String × String × String) : ResourceLink := ⟨a.1, a.2.1, a.2.2⟩

/-- The standard named routes of a plural resource. -/
def standardLinks (plural singular : String) : List ResourceLink :=
  (Behavior.pluralNames ":id" plural singular).map standardLink

theorem pluralActions_eq :
    Behavior.pluralActions ":id" = standardActions.map fun a => (a.1.pattern, a.2) := by
  decide

/-- The routes of a plural resource. -/
def resourceRoutes (member collection : List (String × MethodSet)) : List ResourceRoute :=
  furtherRoutes .below member ++ furtherRoutes .word collection ++
    standardActions.map standardRoute

/-- The named routes of a plural resource. -/
def resourceLinks (plural singular : String) (member collection : List (String × MethodSet)) :
    List ResourceLink :=
  furtherLinks "/:id" singular member ++ furtherLinks "" plural collection ++
    standardLinks plural singular

/-! ### Accepted routes -/

/-- The routes of accepted further actions. -/
theorem accepted_furtherRoutes {kind : String → ResourcePath}
    (hkind : ∀ w, isWord w = true → (kind w).Accepted) {resource : String} {k : ActionKind}
    {as : List (String × MethodSet)}
    (h : ResourceOptions.checkActions resource k [] as = .ok ()) :
    ∀ e ∈ furtherRoutes kind as, e.Accepted := by
  intro e he
  obtain ⟨a, ha, rfl⟩ := List.mem_map.mp he
  obtain ⟨hword, hmethods⟩ := ResourceOptions.forall_of_checkActions h a ha
  obtain ⟨m, hm⟩ := MethodSet.exists_mem hmethods
  exact ⟨hkind a.1 hword, Condition.isPlain_pattern a.2.plain_source,
    ⟨m.token, MethodSet.accepts_of_mem hm⟩, hword⟩

theorem accepted_standardRoutes : ∀ e ∈ standardActions.map standardRoute, e.Accepted := by
  intro e he
  obtain ⟨a, ha, rfl⟩ := List.mem_map.mp he
  have hall : ∀ a ∈ standardActions, isWord a.2.2 = true := by decide
  have hpath : ∀ a ∈ standardActions, a.1.Accepted := by
    simp only [standardActions, List.forall_mem_cons]
    exact ⟨trivial, rfl, trivial, trivial, .inl rfl, .inr rfl, trivial, trivial, nofun⟩
  exact ⟨hpath a ha, Condition.isPlain_ofMethod a.2.1,
    ⟨a.2.1.token, (Condition.accepts_ofMethod a.2.1 _).mpr rfl⟩, hall a ha⟩

/-- The name and the further actions of a resource are accepted. -/
structure ResourceChecks (w : String) (member collection : List (String × MethodSet)) : Prop where
  /-- The name is a word. -/
  name : isWord w = true
  /-- The further actions on a member are accepted. -/
  member : ResourceOptions.checkActions w .member [] member = .ok ()
  /-- The further actions on the collection are accepted. -/
  collection : ResourceOptions.checkActions w .collection [] collection = .ok ()

variable {w : String} {member collection : List (String × MethodSet)}

theorem ResourceChecks.accepted_routes (h : ResourceChecks w member collection) :
    ∀ e ∈ resourceRoutes member collection, e.Accepted :=
  List.forall_mem_append.mpr ⟨List.forall_mem_append.mpr
    ⟨accepted_furtherRoutes (fun _ => id) h.member,
      accepted_furtherRoutes (fun _ => id) h.collection⟩,
    accepted_standardRoutes⟩

theorem ResourceChecks.isWord_links (h : ResourceChecks w member collection)
    (plural singular : String) :
    ∀ l ∈ resourceLinks plural singular member collection, isWord l.action = true := by
  refine List.forall_mem_append.mpr ⟨List.forall_mem_append.mpr ⟨?_, ?_⟩, ?_⟩
  · exact List.forall_mem_map.mpr (ResourceOptions.isWord_of_checkActions h.member)
  · exact List.forall_mem_map.mpr (ResourceOptions.isWord_of_checkActions h.collection)
  · simp only [standardLinks, Behavior.pluralNames, List.forall_mem_map, List.forall_mem_cons]
    obtain ⟨hindex, hshow, hnew, hedit, hdelete⟩ : isWord "index" = true ∧ isWord "show" = true ∧
        isWord "new" = true ∧ isWord "edit" = true ∧ isWord "delete" = true := by decide
    exact ⟨hindex, hshow, hnew, hedit, hdelete, nofun⟩

/-! ### Declarations -/

namespace ResourceScope

open Pass

variable {s : ResourceScope} {fs : List Frame}

/-- The path of a resource consists of some steps, and its routes have a controller and a start of
their names. -/
structure Stands (s : ResourceScope) (fs : List Frame) (controller start : String)
    (parents : List String) : Prop where
  /-- The path of the resource. -/
  chain : s.base.chain = Chain.ofFrames fs
  /-- The controller of its routes. -/
  controller : s.controller = controller
  /-- What the names of its routes start with. -/
  routeName : ∀ name, s.routeName name = start ++ name
  /-- The resources around. -/
  parents : s.parents = parents

theorem params_eq (action : String) : s.params action = actionParams s.controller action := rfl

theorem isEmpty_actionParams (controller action : String) :
    (actionParams controller action).isEmpty = false :=
  Std.ExtTreeMap.isEmpty_eq_false_iff.mpr Std.ExtTreeMap.insert_ne_empty

/-- The route of an action is registered. -/
theorem declares_action (hs : s.base.chain = Chain.ofFrames fs) {path action : String}
    {method : Condition}
    (hr : Route.build (Chain.ofFrames (actionFrames fs s.controller path method action)) none
      false = .ok (actionRoute fs s.controller path method action)) :
    (s.action path method action).Declares [actionRoute fs s.controller path method action] []
      fun _ => True := by
  refine declares_child.after fun b hb => declares_register (declares_route ?_)
  rw [params_eq, isEmpty_actionParams, hb, hs, ← Frame.node_of_conditions,
    ← Frame.node_of_conditions]
  exact hr

theorem declares_resourceRoute (hs : s.base.chain = Chain.ofFrames fs) {e : ResourceRoute}
    (hr : Route.build (Chain.ofFrames (e.frames fs s.controller)) none false =
      .ok (e.route fs s.controller)) :
    (s.action e.path.pattern e.method e.action).Declares [e.route fs s.controller] []
      fun _ => True := by
  rw [ResourceRoute.frames_eq, ResourceRoute.route_eq] at hr
  rw [ResourceRoute.route_eq]
  exact declares_action hs hr

/-- A route that only generates is named. -/
theorem declares_generation (hs : s.base.chain = Chain.ofFrames fs) {l : ResourceLink}
    (hr : Route.build (Chain.ofFrames (l.frames fs s.controller)) none false =
      .ok (l.route fs s.controller)) :
    (s.generation l.path l.action l.name).Declares [] [(l.name, l.route fs s.controller)]
      fun _ => True := by
  refine declares_child.after fun b hb =>
    (declares_route (r := l.route fs s.controller) ?_).after fun r hr => ?_
  · rw [params_eq, isEmpty_actionParams, hb, hs, ← Frame.node_of_conditions,
      ← Frame.node_of_conditions]
    exact hr
  · subst hr
    exact declares_nameDetached _ l.name

/-- Further actions are registered, and each of them is named. -/
theorem declares_actions (hs : s.base.chain = Chain.ofFrames fs) {path name : String}
    {kind : String → ResourcePath} (hkind : ∀ w, (kind w).pattern = actionPath path w)
    {as : List (String × MethodSet)}
    (hroutes : ∀ e ∈ furtherRoutes kind as,
      Route.build (Chain.ofFrames (e.frames fs s.controller)) none false =
        .ok (e.route fs s.controller))
    (hlinks : ∀ l ∈ furtherLinks path name as,
      Route.build (Chain.ofFrames (l.frames fs s.controller)) none false =
        .ok (l.route fs s.controller)) :
    (s.actions path name as).Declares ((furtherRoutes kind as).map (·.route fs s.controller))
      ((furtherLinks path name as).map fun l => (l.name, l.route fs s.controller))
      fun _ => True := by
  have hall := @declares_mapM _ _ as (fun a => [(furtherRoute kind a).route fs s.controller])
    (fun a => [((furtherLink path name a).name, (furtherLink path name a).route fs s.controller)])
    (fun a => do
      let i ← s.action (actionPath path a.1) (.ofMethods a.2) a.1
      s.generation (path ++ "/" ++ a.1) a.1 (a.1 ++ "_" ++ name)
      return i) fun a ha => by
    have hroute := declares_resourceRoute hs (hroutes _ (List.mem_map_of_mem ha))
    have hlink := declares_generation hs (hlinks _ (List.mem_map_of_mem ha))
    rw [furtherRoute, hkind] at hroute
    exact hroute.andThen fun i _ => hlink.andPure fun _ _ => trivial
  rw [← List.map_eq_flatMap, ← List.map_eq_flatMap] at hall
  rw [furtherRoutes, furtherLinks, List.map_map, List.map_map]
  exact hall

/-- Actions with one method each are registered. -/
theorem declares_methodActions (hs : s.base.chain = Chain.ofFrames fs)
    {as : List (String × Method × String)}
    (hroutes : ∀ a ∈ as,
      Route.build (Chain.ofFrames (actionFrames fs s.controller a.1 (.ofMethod a.2.1) a.2.2)) none
        false = .ok (actionRoute fs s.controller a.1 (.ofMethod a.2.1) a.2.2)) :
    Declares (as.mapM fun (path, method, action) => s.action path (.ofMethod method) action)
      (as.map fun a => actionRoute fs s.controller a.1 (.ofMethod a.2.1) a.2.2) []
      fun _ => True := by
  have hall := @declares_mapM _ _ as
    (fun a => [actionRoute fs s.controller a.1 (.ofMethod a.2.1) a.2.2]) (fun _ => [])
    (fun a => s.action a.1 (.ofMethod a.2.1) a.2.2) fun a ha => declares_action hs (hroutes a ha)
  rwa [← List.map_eq_flatMap, List.flatMap_eq_nil_iff.mpr fun _ _ => rfl] at hall

/-- The standard actions are registered. -/
theorem declares_standard (hs : s.base.chain = Chain.ofFrames fs)
    (hroutes : ∀ e ∈ standardActions.map standardRoute,
      Route.build (Chain.ofFrames (e.frames fs s.controller)) none false =
        .ok (e.route fs s.controller)) :
    Declares ((Behavior.pluralActions ":id").mapM fun (path, method, action) =>
        s.action path (.ofMethod method) action)
      ((standardActions.map standardRoute).map (·.route fs s.controller)) [] fun _ => True := by
  rw [pluralActions_eq, List.map_map]
  have hall := @declares_methodActions _ _ hs (standardActions.map fun a => (a.1.pattern, a.2))
    fun _ hpair => by
      obtain ⟨a, ha, rfl⟩ := List.mem_map.mp hpair
      have hroute := hroutes (standardRoute a) (List.mem_map_of_mem ha)
      rwa [ResourceRoute.frames_eq, ResourceRoute.route_eq] at hroute
  rwa [List.map_map] at hall

/-- Routes that only generate are given their names. -/
theorem declares_links (hs : s.base.chain = Chain.ofFrames fs)
    {as : List (String × String × String)}
    (hlinks : ∀ l ∈ as.map standardLink,
      Route.build (Chain.ofFrames (l.frames fs s.controller)) none false =
        .ok (l.route fs s.controller)) :
    Declares (as.forM fun (path, action, name) => s.generation path action name)
      [] ((as.map standardLink).map fun l => (l.name, l.route fs s.controller))
      fun _ => True := by
  have hall := @declares_forM _ as (fun _ => [])
    (fun a => [((standardLink a).name, (standardLink a).route fs s.controller)])
    (fun a => s.generation a.1 a.2.1 a.2.2)
    fun a ha => declares_generation (l := standardLink a) hs
      (hlinks (standardLink a) (List.mem_map_of_mem ha))
  rw [← List.map_eq_flatMap, List.flatMap_eq_nil_iff.mpr fun _ _ => rfl] at hall
  rw [List.map_map]
  exact hall

end ResourceScope

namespace Behavior

open Pass

variable {w : String} {member collection : List (String × MethodSet)}

/-- A resource on the root stands below its name, and its routes have no prefix. -/
theorem declares_resourceScope (hw : isWord w = true) :
    ((Behavior.root {}).resourceScope w { member, collection }).Declares [] [] fun s =>
      s.Stands (resourceFrames w) w "" [] := by
  have hnamespace : (Behavior.root {}).resourceNamespace { member, collection } =
      .ok (none, false) := rfl
  have hcontroller : (Behavior.root {}).resourceController w { member, collection } none = w := by
    have hnone : (Behavior.root {}).chain.params["controller"]? = none := by decide +kernel
    rw [resourceController, hnone]
    rfl
  rw [resourceScope, hw, hnamespace]
  refine declares_child.andPure fun base hbase => ⟨?_, hcontroller, fun name => ?_, rfl⟩
  · rw [hbase, resourceFrames, Chain.ofFrames, List.map_cons, List.map_singleton, Frame.literal,
      Chain.rootFrame, Frame.node_of_conditions, Frame.node_of_conditions, String.empty_append]
    rfl
  · change "" ++ String.join [] ++ name = "" ++ name
    simp

/-- The step into a member of a resource. -/
def memberFrame (w : String) (parents : List String) : Frame :=
  { Frame.literal ("/" ++ (":" ++ singularize w ++ "_id")) with
    parents := some (parents ++ [singularize w]) }

/-- An accepted resource adds its routes and its named routes where it stands, and goes on inside a
member. -/
theorem declares_resources_of_stands {b : Behavior} {fs : List Frame} {controller start : String}
    {parents : List String} (h : ResourceChecks w member collection) (hfs : ∀ f ∈ fs, f.IsLiteral)
    (hparams : PlainParams fs) (hcontroller : Template.IsPlain controller)
    (hscope : (b.resourceScope w { member, collection }).Declares [] [] fun s =>
      s.Stands fs controller start parents) :
    (b.resources w { member, collection }).Declares
      ((resourceRoutes member collection).map (·.route fs controller))
      ((resourceLinks (start ++ w) (start ++ singularize w) member collection).map fun l =>
        (l.name, l.route fs controller)) fun a =>
      a.2.chain = Chain.ofFrames (memberFrame w parents :: fs) := by
  have hroutes : ∀ e ∈ resourceRoutes member collection,
      Route.build (Chain.ofFrames (e.frames fs controller)) none false =
        .ok (e.route fs controller) :=
    fun e he => ResourceRoute.build_route hfs hparams hcontroller (h.accepted_routes e he)
  have hlinks : ∀ l ∈ resourceLinks (start ++ w) (start ++ singularize w) member collection,
      Route.build (Chain.ofFrames (l.frames fs controller)) none false =
        .ok (l.route fs controller) :=
    fun l hl => ResourceLink.build_route hfs hparams hcontroller (h.isWord_links _ _ l hl)
  rw [resourceRoutes, List.forall_mem_append, List.forall_mem_append] at hroutes
  rw [resourceLinks, List.forall_mem_append, List.forall_mem_append] at hlinks
  rw [resources, h.member, h.collection, resourceRoutes, resourceLinks, List.map_append,
    List.map_append, List.map_append, List.map_append, List.append_assoc, List.append_assoc]
  refine declares_require.after fun _ _ => declares_require.after fun _ _ =>
    declares_require.after fun _ _ => hscope.after fun s hs => ?_
  obtain ⟨hbase, rfl, hnames, rfl⟩ := hs
  simp only [hnames]
  rw [← List.append_nil ((standardLinks _ _).map _)]
  obtain ⟨⟨hmembers, hcollections⟩, hstandard⟩ := hroutes
  obtain ⟨⟨hmemberLinks, hcollectionLinks⟩, hstandardLinks⟩ := hlinks
  refine (ResourceScope.declares_actions hbase (fun _ => rfl) hmembers hmemberLinks).andThen
    fun _ _ => ?_
  refine (ResourceScope.declares_actions hbase (fun _ => rfl) hcollections
    hcollectionLinks).andThen fun _ _ => ?_
  refine (ResourceScope.declares_standard hbase hstandard).before fun _ _ => ?_
  refine (ResourceScope.declares_links hbase hstandardLinks).before fun _ _ => ?_
  refine declares_child.andPure fun inner hinner => ?_
  rw [nestedIn, mapNode, hinner, hbase]
  rfl

/-- An accepted resource on the root adds its routes and its named routes. -/
theorem declares_resources (h : ResourceChecks w member collection) :
    ((Behavior.root {}).resources w { member, collection }).Declares
      ((resourceRoutes member collection).map (·.route (resourceFrames w) w))
      ((resourceLinks w (singularize w) member collection).map fun l =>
        (l.name, l.route (resourceFrames w) w)) fun a =>
      a.2.chain = Chain.ofFrames (memberFrame w [] :: resourceFrames w) := by
  have hall := declares_resources_of_stands h (isLiteral_resourceFrames w)
    (plainParams_resourceFrames w) (isPlain_of_isWord h.name) (declares_resourceScope h.name)
  rwa [String.empty_append, String.empty_append] at hall

end Behavior

namespace Declaration

variable {w : String} {member collection : List (String × MethodSet)}

/-- A pass that declares a resource and nothing else does what the resource does. -/
theorem runPass_resources_iff {o : ResourceOptions} (g : Registry) :
    (∃ s, (resources w o skip).runPass {} = (.ok (), s) ∧ s.registry = g) ↔
      ∃ a, (Behavior.root {}).resources w o { options := {} } = (.ok a, g) := by
  have hrun : (resources w o skip).runPass {} =
      (Step.ofPass ((Behavior.root {}).resources w o) >>= fun a => do
        skip.run a.2
        Step.report (.resource a.1)) { registry := { options := {} } } := rfl
  rw [hrun]
  exact Step.exists_ofPass_bind_iff (fun a s => ⟨_, rfl⟩) _ g

theorem eq_ok_of_require {e : Except DeclarationError Unit} {g g' : Registry} {a : Unit}
    (h : Behavior.require e g = (.ok a, g')) : e = .ok () := by
  rcases e with e | ⟨⟩
  · cases h
  · rfl

/-- The checks of a resource have been passed when it has been declared. -/
theorem resourceChecks_of_resources {b : Behavior} {g g' : Registry} {a : List Nat × Behavior}
    (h : b.resources w { member, collection } g = (.ok a, g')) :
    ResourceChecks w member collection := by
  obtain ⟨_, _, hmember, h⟩ := bind_eq_ok h
  obtain ⟨_, _, hcollection, h⟩ := bind_eq_ok h
  obtain ⟨_, _, -, h⟩ := bind_eq_ok h
  obtain ⟨_, _, hscope, -⟩ := bind_eq_ok h
  refine ⟨?_, eq_ok_of_require hmember, eq_ok_of_require hcollection⟩
  cases hw : isWord w with
  | true => rfl
  | false =>
    rw [Behavior.resourceScope, hw] at hscope
    cases hscope

end Declaration

/-! ### Answers -/

namespace Frame

theorem pieces_literal {w : String} (h : isWord w = true) :
    (literal ("/" ++ w)).pieces = (ofTokens true (('/' :: w.toList).map .inl)).pieces := by
  have htext : ("/" ++ w).toList = '/' :: w.toList := by simp
  rw [(isLiteral_literal _).pieces_eq, text_literal, literalText_of_slash (by simp [htext]), htext,
    ofText, ResourcePath.tokens_word h]

end Frame

namespace ResourceRoute

variable {w : String} {e : ResourceRoute} {q : Request} {ps : Params}

/-- The pieces of the step that has the conditions are those of the path. -/
theorem pieces_conditions (he : e.Accepted) :
    Frame.pieces
        { conditions := .ofPairs [(.path, .pattern e.path.pattern), (.method, e.method)] } =
      e.path.shape.pieces := by
  refine Frame.pieces_of_describes ?_ he.path.describes e.path.isEmptyPath_pattern
  rw [ofPairs_eq, Conditions.ofPath, Std.ExtTreeMap.getElem?_insert, if_neg (by decide),
    Std.ExtTreeMap.getElem?_insert_self]

/-- The path of a route is the name of the resource, and then the path of its own. -/
theorem hasShape (hw : isWord w = true) (he : e.Accepted) :
    Chain.HasShape (e.frames (resourceFrames w) w)
      (seq (ofTokens true (('/' :: w.toList).map .inl)) e.path.shape) where
  regular := regular_frames (isLiteral_resourceFrames w) he
  tidy := ⟨tidy_ofTokens (.inl rfl), he.path.describes.tidy⟩
  pieces := by
    rw [frames, resourceFrames, Chain.rootFrame, Chain.pathPieces, Chain.pathPieces,
      Chain.pathPieces, Chain.pathPieces, Chain.pathPieces, Frame.pieces_of_params,
      Frame.pieces_of_params, Frame.pieces_literal hw, pieces_conditions he, List.append_nil]
    rfl
  ne_nil := by
    rw [Shape.pieces]
    exact List.append_ne_nil_of_left_ne_nil (mt pieces_ofTokens_eq_nil.mp (by simp)) _

/-- The parameters of a route are those of its action, and those that read its placeholders. -/
theorem getElem?_allParams (hw : isWord w = true) (he : e.Accepted) (name : String) :
    (Chain.ofFrames (e.frames (resourceFrames w) w)).allParams[name]? =
      (actionParams w e.action)[name]?.or
        (if .token (some name.toList) ∈ e.path.shape.pieces then some (Node.reading name)
          else none) := by
  obtain ⟨hparams, hregular⟩ :=
    List.forall_mem_cons.mp (@regular_frames _ w e (isLiteral_resourceFrames w) he)
  obtain ⟨hconditions, hregular⟩ := List.forall_mem_cons.mp hregular
  obtain ⟨hliteral, hregular⟩ := List.forall_mem_cons.mp hregular
  have hroot := hregular _ List.mem_cons_self
  have hnone : .token (some name.toList) ∉ (Frame.literal ("/" ++ w)).pieces := by
    rw [Frame.pieces_literal hw]
    exact fun hmem => by simpa using token_mem_pieces_ofTokens.mp hmem
  rw [frames, Chain.getElem?_allParams_cons hparams, Chain.getElem?_allParams_cons hconditions,
    resourceFrames, Chain.getElem?_allParams_cons hliteral, Chain.getElem?_allParams_cons hroot,
    Frame.pieces_of_params, pieces_conditions he, if_neg hnone, Chain.rootFrame,
    Frame.pieces_of_params, if_neg List.not_mem_nil, Option.or_none, Option.or_none]
  -- The action of the root is replaced, and the other steps have no parameters.
  have hempty : (∅ : Params)[name]? = none := Std.ExtTreeMap.getElem?_empty
  have hoff : (Chain.ofFrames []).allParams[name]? = none := Std.ExtTreeMap.getElem?_empty
  rw [Frame.literal, hempty, hoff, Option.none_or, Option.none_or, Option.or_none]
  by_cases haction : name = "action"
  · subst haction
    rw [getElem?_actionParams, if_pos rfl, Option.some_or, Option.some_or]
  · have hroot : ((∅ : Params).insert "action" ({} : Options).defaultAction)[name]? = none := by
      rw [Std.ExtTreeMap.getElem?_insert, if_neg (by simpa using Ne.symm haction), hempty]
    rw [hroot, Option.or_none, Option.or_none]

/-- A resource reads its name, and what stands behind the name. -/
theorem reads_iff {p : ResourcePath} {t : List Char} {gs : Groups} :
    (seq (ofTokens true (('/' :: w.toList).map .inl)) p.shape).Reads t gs ↔
      ∃ t', t = '/' :: (w.toList ++ t') ∧ p.shape.Reads t' gs := by
  constructor
  · rintro ⟨_, t', _, gs', rfl, rfl, hword, hpath⟩
    obtain ⟨rfl, rfl⟩ := reads_ofTokens_map_inl.mp hword
    exact ⟨t', rfl, hpath⟩
  · rintro ⟨t', rfl, hpath⟩
    exact ⟨_, t', [], gs, rfl, rfl, reads_ofTokens_map_inl.mpr ⟨rfl, rfl⟩, hpath⟩

section Built

variable (hw : isWord w = true) (he : e.Accepted)
include hw he

theorem build_resourceRoute :
    Route.build (Chain.ofFrames (e.frames (resourceFrames w) w)) none false =
      .ok (e.route (resourceFrames w) w) :=
  build_route (isLiteral_resourceFrames w) (plainParams_resourceFrames w) (isPlain_of_isWord hw) he

/-- A route matches the requests that it leads to and whose method is accepted. -/
theorem isSome_match?_iff : ((e.route (resourceFrames w) w).match? {} q).isSome = true ↔
    (∃ id fmt, e.path.Reaches w q.path id fmt) ∧
    (e.method.tested .method).accepts (q.subject true .method) = true := by
  have hmethod : (∀ (k : Key) source regex, k ≠ .path →
      (Chain.ofFrames (e.frames (resourceFrames w) w)).conditions[k]? = some source →
      Regex.parse? source = some regex → (regex.captures? (q.subject true k)).isSome = true) ↔
        (e.method.tested .method).accepts (q.subject true .method) = true := by
    obtain ⟨text, htext⟩ := he.method
    obtain ⟨regex, hregex⟩ := Option.isSome_iff_exists.mp (Option.isSome_of_isSome_bind htext)
    rw [Condition.accepts, hregex, Option.bind_some]
    constructor
    · intro h
      refine h .method _ regex (by decide) ?_ hregex
      rw [getElem?_conditions (isLiteral_resourceFrames w) (by decide), if_pos rfl]
    · intro h k source regex' hk hsource hregex'
      rw [getElem?_conditions (isLiteral_resourceFrames w) hk] at hsource
      split at hsource
      · next hkey =>
        subst hkey
        obtain rfl := Option.some.inj hsource
        obtain rfl := Option.some.inj (hregex.symm.trans hregex')
        exact h
      · cases hsource
  rw [Route.isSome_match?_iff_reads (hasShape hw he) (build_resourceRoute hw he), hmethod]
  refine and_congr_left fun _ => ?_
  constructor
  · rintro ⟨gs, hreads⟩
    obtain ⟨t, hpath, hreads⟩ := reads_iff.mp hreads
    obtain ⟨s, hs, rfl⟩ := ResourcePath.exists_covers_of_reads he.path hreads
    exact ⟨_, _, ResourcePath.reaches_of_covers hs (by simp [hpath, Stem.text_cons])⟩
  · rintro ⟨id, fmt, s, hs, hpath⟩
    obtain ⟨gs, hreads⟩ := ResourcePath.exists_reads_of_covers he.path hs
    exact ⟨gs, reads_iff.mpr ⟨_, by simp [hpath, Stem.text_cons], hreads⟩⟩

/-- The parameters of a match are the controller, the action, the identifier and the format. -/
theorem exists_reaches_of_match? (h : (e.route (resourceFrames w) w).match? {} q = some ps) :
    ∃ id fmt, e.path.Reaches w q.path id fmt ∧ ps = answer w e.action id fmt := by
  obtain ⟨gs, hreads, hanswers⟩ :=
    Route.exists_reads_of_match? (hasShape hw he) (build_resourceRoute hw he) h
  obtain ⟨t, hpath, hreads⟩ := reads_iff.mp hreads
  obtain ⟨s, hs, rfl⟩ := ResourcePath.exists_covers_of_reads he.path hreads
  refine ⟨_, _, ResourcePath.reaches_of_covers hs (by simp [hpath, Stem.text_cons]), ?_⟩
  refine Std.ExtTreeMap.ext_getElem? fun name => ?_
  have hgiven := getElem?_allParams hw he name
  rw [getElem?_actionParams] at hgiven
  rw [getElem?_answer]
  by_cases haction : name = "action"
  · subst haction
    exact hanswers.plain _ _ hgiven (isPlain_of_isWord he.action)
  by_cases hcontroller : name = "controller"
  · subst hcontroller
    exact hanswers.plain _ _ hgiven (isPlain_of_isWord hw)
  rw [if_neg haction, if_neg hcontroller, Option.none_or] at hgiven
  rw [if_neg haction, if_neg hcontroller]
  -- What is left is read, by one of the two placeholders.
  have hvalue : ps[name]? = (e.path.shape.value? gs name.toList).map String.ofList := by
    by_cases htoken : .token (some name.toList) ∈ e.path.shape.pieces
    · rw [if_pos htoken] at hgiven
      rw [hanswers.reading name name hgiven (List.mem_append_right _ htoken), if_neg haction,
        Option.or_none, value?_ofTokens_map_inl]
    · rw [if_neg htoken] at hgiven
      rw [hanswers.absent name hgiven, value?_eq_none htoken]
      rfl
  rw [hvalue]
  by_cases hid : name = "id"
  · rw [if_pos hid, hid]
  by_cases hformat : name = "format"
  · rw [if_neg hid, if_pos hformat, hformat]
  rw [if_neg hid, if_neg hformat]
  refine congrArg (Option.map String.ofList) (value?_eq_none fun htoken => ?_)
  rcases ResourcePath.eq_of_token_mem_shape he.path htoken with hname | hname
  · exact hid (String.toList_inj.mp hname)
  · exact hformat (String.toList_inj.mp hname)

end Built

end ResourceRoute

end HttpRouting
