import HttpRouting.Proofs.PluralResource
import HttpRouting.Proofs.ResourceNests
import HttpRouting.Proofs.ResourceUrls

/-!
# Resources inside each other

The routes of a resource that stands inside others say where it stands: their names have the
namespace and the singular names of the resources around in front, their controller has the
namespace in front, and the URLs of the named routes lead through the namespace and the resources
around, with a member of each plural one. Each of these is found once, however deep the nest is and
whatever stands beside the resource.

## Main definitions

* `PluralLink` — the named routes of a plural resource
* `Level.path` — the path into a resource
* `Table.Locates` — the routes of a resource inside others

## Main results

* `Route.generate_of_supply` — a URL from all values, with the other parameters as a query
* `ResourceLink.generate_nested` — the URL of a named route
* `Router.nested_resources` — where the routes of a nest are
-/

namespace HttpRouting

open Placeholder Shape

open Identifier (Name)

/-! ### Parameters -/

/-- A parameter with a plain value is a text. -/
theorem Route.literal?_of_plain {c : Chain} {decision : Option Decision} {isDefault : Bool}
    {r : Route} (hr : build c decision isDefault = .ok r) {name value : String}
    (hname : c.params[name]? = some value) (hvalue : Template.IsPlain value) :
    (r.param? name).bind Template.literal? = some value := by
  obtain ⟨tests, params, -, hparams, rfl⟩ := build_eq_ok_iff.mp hr
  have hmem := (mem_params hparams).mpr ⟨value, hname, Template.parse_plain hvalue⟩
  rw [param?, lookup_of_mem (pairwise_params hparams) hmem]
  rfl

/-- The parameters of an action are the ones that its route has. -/
theorem literal?_actionRoute {fs : List Frame} {controller path action : String}
    {method : Condition} (hfs : ∀ f ∈ actionFrames fs controller path method action, f.Regular)
    (hr : Route.build (Chain.ofFrames (actionFrames fs controller path method action)) none false =
      .ok (actionRoute fs controller path method action)) {name value : String}
    (hname : (actionParams controller action)[name]? = some value)
    (hvalue : Template.IsPlain value) :
    ((actionRoute fs controller path method action).param? name).bind Template.literal? =
      some value := by
  refine Route.literal?_of_plain hr ?_ hvalue
  rw [Chain.params_ofFrames hfs, actionFrames,
    Chain.getElem?_allParams_cons (Frame.regular_of_params _), hname]
  rfl

/-! ### URLs -/

/-- What is left of the values for a query, once some placeholders have been filled. -/
def Supply.append (s : Supply) (keys : List String) (path : String) : String :=
  match s with
  | .params ps => Params.appendTo (ps.filter fun n _ => n ∉ keys) path
  | .model _ => path

namespace Route

variable {r : Route} {s : Supply} {fallback : Params} {xs : Tokens}

/-- A URL is the path filled with all values, and the parameters that fill nothing as a query. -/
theorem generate_of_supply (hpattern : r.hasPattern = false)
    (hsegments : r.segments = some ((runs xs).map Segment.ofRun)) (hnamed : .inr none ∉ xs)
    (hvalues : ∀ name : String, .inr (some name.toList) ∈ xs →
      ((s.value? name).or fallback[name]?).isSome = true) {keys : List String}
    (hkeys : ∀ name : String, .inr (some name.toList) ∈ xs ↔ name ∈ keys) :
    r.generate s fallback = .ok (s.append keys
      (String.ofList (filled (encoded fun name => (s.value? name).or fallback[name]?) xs))) := by
  have hvalue? : (fun n => s.value? n <|> fallback[n]?) =
      fun n => (s.value? n).or fallback[n]? := by
    funext n
    exact Option.orElse_eq_or
  have hnames : ∀ name, name ∈ Segment.names ((runs xs).map Segment.ofRun) ↔ name ∈ keys := by
    intro name
    rw [mem_names, inr_mem_runs, hkeys]
  obtain ⟨path, hpath⟩ := @exists_fill r.label _ (runs xs) (mt inr_mem_runs.mp hnamed)
    fun name hname => hvalues name (inr_mem_runs.mp hname)
  obtain ⟨-, htext⟩ := fill_eq_ok hpath
  rw [unrun_runs] at htext
  rw [← hvalue?] at hpath
  unfold generate
  rw [hpattern, hsegments]
  refine except_bind_eq_ok.mpr ⟨path, hpath, ?_⟩
  rw [← htext, String.ofList_toList]
  cases s with
  | model m => rfl
  | params ps =>
    dsimp only [Supply.append]
    simp only [hnames]
    rfl

end Route

namespace Level

/-- The path into a resource, which leads to a member of it if it is plural. -/
def path (value : String → String) (l : Level) : String :=
  "/" ++ l.name ++ l.key?.elim "" fun k => "/" ++ percentEncode reservedInSegment (value k)

variable {value : String → String} {value? : String → Option String} {tail : List Char}

/-- The tokens of a path through some resources are those of one after the other. -/
theorem tokens_flatMap (ls : List Level) (htail : Closed tail) :
    Segment.tokens (ls.flatMap text ++ tail) = ls.flatMap tokens ++ Segment.tokens tail := by
  induction ls with
  | nil => rfl
  | cons l ls ih =>
    have hclosed : Closed (ls.flatMap text ++ tail) := by
      cases ls with
      | nil => exact htail
      | cons l ls => exact closed_slash _
    rw [List.flatMap_cons, List.append_assoc,
      Segment.tokens_append (Segment.not_continues_of_closed hclosed _), ih, tokens_text,
      List.flatMap_cons, List.append_assoc]

theorem inr_mem_tokens {l : Level} {name : Option (List Char)} :
    .inr name ∈ l.tokens ↔ ∃ k, l.key? = some k ∧ name = some k.toList := by
  rw [tokens]
  cases l.key? <;> simp

/-- Filled with the values of their keys, they are the paths into the resources. -/
theorem filled_tokens {ls : List Level} (h : ∀ k ∈ ls.filterMap key?, value? k = some (value k))
    (xs : Tokens) : filled (encoded value?) (ls.flatMap tokens ++ xs) =
      (String.join (ls.map (path value))).toList ++ filled (encoded value?) xs := by
  induction ls with
  | nil => simp
  | cons l ls ih =>
    rw [List.flatMap_cons, List.append_assoc, tokens, List.append_assoc, filled_map_inl]
    cases hkey : l.key? with
    | none =>
      rw [List.filterMap_cons, hkey] at h
      rw [Option.elim_none, List.nil_append, ih h]
      simp [path, hkey]
    | some k =>
      rw [List.filterMap_cons, hkey] at h
      obtain ⟨hk, hls⟩ := List.forall_mem_cons.mp h
      simp only [Option.elim_some, List.cons_append, List.nil_append, filled]
      rw [ih hls, encoded_of_eq_some hk]
      simp [path, hkey]

end Level

/-! ### Named routes -/

/-- The named routes of a plural resource, by their actions. -/
inductive PluralLink where
  /-- The collection. -/
  | index
  /-- A member. -/
  | show
  /-- The form to create a member. -/
  | new
  /-- The form to edit a member. -/
  | edit
  /-- The form to delete a member. -/
  | delete

namespace PluralLink

/-- The name of the route, given what the names of the resource start with. -/
def name (start w : String) : PluralLink → String
  | index => start ++ w
  | «show» => start ++ singularize w
  | new => "new_" ++ (start ++ singularize w)
  | edit => "edit_" ++ (start ++ singularize w)
  | delete => "delete_" ++ (start ++ singularize w)

/-- The action of the route. -/
def action : PluralLink → String
  | index => "index"
  | «show» => "show"
  | new => "new"
  | edit => "edit"
  | delete => "delete"

/-- The placeholder of a member, if the path leads to one. -/
def key? : PluralLink → Option String
  | index | new => none
  | «show» | edit | delete => some "id"

/-- The words at the end of the path. -/
def words : PluralLink → List String
  | index | «show» => []
  | new => ["new"]
  | edit => ["edit"]
  | delete => ["delete"]

/-- The named route itself. -/
def link (start w : String) (k : PluralLink) : ResourceLink :=
  ⟨(idPath k.key?) ++ String.join (k.words.map ("/" ++ ·)), k.action, k.name start w⟩

theorem link_mem (start : String) (w : Name) (k : PluralLink) :
    k.link start w.text ∈ (Level.plural w).namedLinks start := by
  have hlinks : (Level.plural w).namedLinks start =
      [index, «show», new, edit, delete].map (link start w.text) := rfl
  rw [hlinks]
  exact List.mem_map_of_mem (by cases k <;> simp)

/-- The keys that the path of a resource inside others needs values for. -/
def keys (ls : List Level) (k : PluralLink) : List String :=
  ls.reverse.filterMap Level.key? ++ k.key?.toList

/-- The path of a resource inside others: the namespace, the resources around with a member of each
plural one, the resource itself, and perhaps a member of it and a word. -/
def path (ns : Option Name) (ls : List Level) (w : Name) (value : String → String)
    (k : PluralLink) : String :=
  ns.elim "" ("/" ++ ·.text) ++ String.join (ls.reverse.map (Level.path value)) ++ "/" ++ w.text ++
    (k.key?.elim "" fun n => "/" ++ percentEncode reservedInSegment (value n)) ++
    String.join (k.words.map ("/" ++ ·))

/-- The tokens of that path. -/
def tokens (ns : Option Name) (ls : List Level) (w : Name) (k : PluralLink) : Tokens :=
  (namespaceText ns).map .inl ++ (ls.reverse.flatMap Level.tokens ++
    (('/' :: w.text.toList).map .inl ++ (idTokens k.key? ++ (wordStem k.words).text.map .inl)))

/-- Its placeholders are its keys. -/
theorem inr_mem_tokens {ns : Option Name} {ls : List Level} {w : Name} {k : PluralLink}
    {name : Option (List Char)} :
    .inr name ∈ k.tokens ns ls w ↔ ∃ key ∈ k.keys ls, name = some key.toList := by
  have hchars : ∀ cs : List Char, .inr name ∉ (cs.map .inl : Tokens) := by simp
  have hid : .inr name ∈ idTokens k.key? ↔ ∃ key ∈ k.key?.toList, name = some key.toList := by
    cases k <;> simp [idTokens, key?]
  unfold tokens keys
  constructor
  · intro h
    rcases List.mem_append.mp h with h | h
    · exact absurd h (hchars _)
    rcases List.mem_append.mp h with h | h
    · obtain ⟨l, hl, h⟩ := List.mem_flatMap.mp h
      obtain ⟨key, hkey, rfl⟩ := Level.inr_mem_tokens.mp h
      exact ⟨key, List.mem_append_left _ (List.mem_filterMap.mpr ⟨l, hl, hkey⟩), rfl⟩
    rcases List.mem_append.mp h with h | h
    · exact absurd h (hchars _)
    rcases List.mem_append.mp h with h | h
    · obtain ⟨key, hkey, rfl⟩ := hid.mp h
      exact ⟨key, List.mem_append_right _ hkey, rfl⟩
    · exact absurd h (hchars _)
  · rintro ⟨key, hkey, rfl⟩
    refine List.mem_append_right _ ?_
    rcases List.mem_append.mp hkey with hkey | hkey
    · obtain ⟨l, hl, hkey⟩ := List.mem_filterMap.mp hkey
      exact List.mem_append_left _
        (List.mem_flatMap.mpr ⟨l, hl, Level.inr_mem_tokens.mpr ⟨key, hkey, rfl⟩⟩)
    · exact List.mem_append_right _ (List.mem_append_right _
        (List.mem_append_left _ (hid.mpr ⟨key, hkey, rfl⟩)))

theorem isWord_words (k : PluralLink) : ∀ a ∈ k.words, isWord a = true := by
  cases k <;> decide

theorem isWord_action (k : PluralLink) : isWord k.action = true := by
  cases k <;> decide

end PluralLink

namespace ResourceLink

variable {ns : Option Name} {ls : List Level} {w : Name} {controller start : String}
  {k : PluralLink}

theorem text_wordStem (words : List String) :
    (String.join (words.map ("/" ++ ·))).toList = (wordStem words).text := by
  induction words with
  | nil => rfl
  | cons a words ih =>
    rw [List.map_cons, String.join_cons, String.toList_append, ih]
    simp [wordStem, Stem.slashed, Stem.text]

theorem toList_linkPath (start w : String) (k : PluralLink) :
    (k.link start w).path.toList = (idPath k.key?).toList ++ (wordStem k.words).text := by
  rw [PluralLink.link, String.toList_append, text_wordStem]

/-- The text of the path of a named route. -/
theorem pathText_nested :
    Chain.pathText ((k.link start w.text).frames ((Level.plural w).frame ns ls :: nestFrames ns ls)
      controller) =
      namespaceText ns ++ (ls.reverse.flatMap Level.text ++
        ('/' :: w.text.toList ++ ((idPath k.key?).toList ++ (wordStem k.words).text))) := by
  have hlink : literalText (k.link start w.text).path =
      (idPath k.key?).toList ++ (wordStem k.words).text := by
    rw [literalText_of_slash, toList_linkPath]
    exact toList_linkPath start w.text k ▸ head_linkPath k.key? k.words
  rw [frames, Chain.pathText, Chain.pathText, Chain.pathText, Frame.text_of_params,
    Frame.text_literal, hlink, text_frame, ← List.append_assoc (Chain.pathText _),
    pathText_nestFrames, Level.name]
  simp

/-- Its tokens. -/
theorem tokens_nested (ns : Option Name) (ls : List Level) (w : Name) (k : PluralLink) :
    Segment.tokens (namespaceText ns ++ (ls.reverse.flatMap Level.text ++
        ('/' :: w.text.toList ++ ((idPath k.key?).toList ++ (wordStem k.words).text)))) =
      k.tokens ns ls w := by
  have hclosed : Closed (ls.reverse.flatMap Level.text ++
      ('/' :: w.text.toList ++ ((idPath k.key?).toList ++ (wordStem k.words).text))) := by
    cases ls.reverse with
    | nil => exact closed_slash _
    | cons l ls => exact closed_slash _
  have hnamespace : Segment.tokens (namespaceText ns) = (namespaceText ns).map .inl := by
    cases ns with
    | none => exact Segment.tokens_eq_nil.mpr rfl
    | some n =>
      have htext : namespaceText (some n) = '/' :: n.text.toList := by simp [namespaceText]
      rw [htext, ResourcePath.tokens_word n.isWord]
  have hresource : Closed ('/' :: w.text.toList ++
      ((idPath k.key?).toList ++ (wordStem k.words).text)) := closed_slash _
  rw [Segment.tokens_append (Segment.not_continues_of_closed hclosed _), hnamespace,
    Level.tokens_flatMap _ hresource, tokens_linkPath w.isWord k.isWord_words]
  rfl

/-- Filled with the values of its keys, the path says where the resource stands. -/
theorem filled_nested {value? : String → Option String} {value : String → String}
    (h : ∀ n ∈ k.keys ls, value? n = some (value n)) :
    String.ofList (filled (encoded value?) (k.tokens ns ls w)) = k.path ns ls w value := by
  obtain ⟨hls, hid⟩ := List.forall_mem_append.mp h
  have hmember : idTokens k.key? = idTokens (k.key?.map value) := by cases k <;> rfl
  have hvalue : ∀ v ∈ k.key?.map value, value? "id" = some v := by
    cases k <;> simp_all [PluralLink.key?]
  have hpath : (idStem (k.key?.map value)).text =
      (k.key?.elim "" fun n => "/" ++ percentEncode reservedInSegment (value n)).toList := by
    cases k <;> simp [PluralLink.key?, idStem, Stem.text]
  rw [← String.toList_inj, String.toList_ofList, PluralLink.tokens, filled_map_inl,
    Level.filled_tokens hls, hmember, filled_linkPath hvalue, hpath, PluralLink.path,
    ← text_wordStem]
  simp [namespaceText]

variable {r : Route} {s : Supply} {fallback : Params} {value : String → String}

/-- A named route generates the path that says where its resource stands. -/
theorem generate_nested
    (hr : Route.build (Chain.ofFrames ((k.link start w.text).frames
      ((Level.plural w).frame ns ls :: nestFrames ns ls) controller)) none false = .ok r)
    (h : ∀ n ∈ k.keys ls, (s.value? n).or fallback[n]? = some (value n)) (name : Option String) :
    { r with name := name }.generate s fallback =
      .ok (s.append (k.keys ls) (k.path ns ls w value)) := by
  have hfs : ∀ f ∈ (k.link start w.text).frames
      ((Level.plural w).frame ns ls :: nestFrames ns ls) controller, f.IsLiteral :=
    isLiteral_frames (List.forall_mem_cons.mpr ⟨isLiteral_frame, isLiteral_nestFrames⟩)
  have hpattern := Route.hasPattern_of_build hfs hr
  have hsegments := Route.segments_of_build hfs hr
  rw [pathText_nested, if_neg (by simp), Segment.split, tokens_nested] at hsegments
  have hkeys : ∀ n : String, .inr (some n.toList) ∈ k.tokens ns ls w ↔ n ∈ k.keys ls := by
    intro n
    rw [PluralLink.inr_mem_tokens]
    constructor
    · rintro ⟨key, hkey, heq⟩
      rwa [String.toList_inj.mp (Option.some.inj heq)]
    · exact fun hn => ⟨n, hn, rfl⟩
  have hnamed : .inr none ∉ k.tokens ns ls w := by
    rw [PluralLink.inr_mem_tokens]
    rintro ⟨key, -, heq⟩
    cases heq
  have hvalues : ∀ n : String, .inr (some n.toList) ∈ k.tokens ns ls w →
      ((s.value? n).or fallback[n]?).isSome = true := by
    intro n hn
    rw [h n ((hkeys n).mp hn)]
    rfl
  rw [← filled_nested h]
  exact Route.generate_of_supply (r := { r with name := name }) hpattern hsegments hnamed hvalues
    hkeys

end ResourceLink

/-! ### Tables -/

/-- The routes of a plural resource of a nest: the registered ones, which come one after the other
from some place on, and the named ones, which only generate. -/
structure Table.Locates (t : Table) (ns : Option Name) (ls : List Level) (w : Name) (first : Nat) :
    Prop where
  /-- The registered routes have the actions and the controller of the resource. -/
  registered : ∀ (i : Nat) a, standardActions[i]? = some a → ∃ x, t.routes[first + i]? = some x ∧
    (x.param? "action").bind Template.literal? = some a.2.2 ∧
    (x.param? "controller").bind Template.literal? = some (ns.elim "" (·.text ++ "/") ++ w.text)
  /-- The named routes only generate. -/
  named : ∀ k : PluralLink, ∃ x, t.named[k.name (nestStart ns ls) w.text]? = some x ∧
    x.index = none
  /-- Their URLs say where the resource stands, if there is a value for each placeholder. -/
  generate : ∀ (k : PluralLink) (s : Supply) (fallback : Params) (value : String → String),
    (∀ n ∈ k.keys ls, (s.value? n).or fallback[n]? = some (value n)) →
    t.generate (k.name (nestStart ns ls) w.text) s fallback =
      .ok (s.append (k.keys ls) (k.path ns ls w value))

namespace Router

variable {r : Router} {g : Registry}

/-- The number of routes before those of a pass. -/
def before (r : Router) : Placement → Nat
  | .append => r.routes.length
  | .replace | .prepend => 0

/-- The routes of a pass stand one after the other. -/
theorem exists_getElem?_place (p : Placement) {i : Nat} {x : Route} (h : g.routes[i]? = some x) :
    (r.place p g).routes[r.before p + i]? = some { x with index := some (r.before p + i) } := by
  have hreindex : ∀ n, (reindex n g.routes)[i]? = some { x with index := some (n + i) } := by
    intro n
    rw [getElem?_reindex, h]
    rfl
  have hlt : i < (reindex 0 g.routes).length := by
    rw [length_reindex]
    exact (List.getElem?_eq_some_iff.mp h).1
  cases p with
  | replace =>
    have hzero : r.before .replace + i = 0 + i := rfl
    have hplace : (r.place .replace g).routes = reindex 0 g.routes := rfl
    rw [hzero, hplace, ← hreindex 0, Nat.zero_add]
  | append =>
    have hright : (r.place .append g).routes[r.before .append + i]? =
        (reindex r.routes.length g.routes)[i]? := by
      refine (List.getElem?_append_right (Nat.le_add_right _ i)).trans ?_
      rw [Nat.add_sub_cancel_left]
    rw [hright]
    exact hreindex _
  | prepend =>
    have hleft : (r.place .prepend g).routes[r.before .prepend + i]? =
        (reindex 0 g.routes)[i]? := by
      simp only [Router.place, before, Nat.zero_add]
      exact List.getElem?_append_left hlt
    rw [hleft]
    exact hreindex _

/-- The names of a pass that belong to no registered route replace those of the router. -/
theorem getElem?_named_place (p : Placement) {name : String} {x : Route}
    (h : g.named[name]? = some (.detached x)) :
    (r.place p g).named[name]? = some (.detached x) := by
  cases p with
  | replace => exact h
  | append =>
    have hunion : (r.place .append g).named = r.named ∪ shiftNames r.routes.length g.named := rfl
    rw [hunion, Std.ExtTreeMap.getElem?_union, getElem?_shiftNames, h]
    rfl
  | prepend =>
    have hunion : (r.place .prepend g).named = shiftNames g.routes.length r.named ∪ g.named := rfl
    rw [hunion, Std.ExtTreeMap.getElem?_union, h]
    rfl

end Router

namespace Nest

variable {ns : Option Name} {ls : List Level} {l : Level} {d : Nest}
  {before after : List (List Level × Level)}

/-- The routes of a resource come behind those of the resources before it. -/
theorem getElem?_routes (h : d.resources [] = before ++ (ls, l) :: after) {i : Nat} {x : Route}
    (hx : (l.routes ns ls)[i]? = some x) :
    (d.routes ns [])[(before.map (·.2.size)).sum + i]? = some x := by
  have hlength : (before.flatMap fun p => p.2.routes ns p.1).length =
      (before.map (·.2.size)).sum := by
    rw [List.length_flatMap]
    simp only [Level.length_routes]
  have hlt := (List.getElem?_eq_some_iff.mp hx).1
  rw [routes, h, List.flatMap_append, List.flatMap_cons, ← hlength,
    List.getElem?_append_right (Nat.le_add_right _ i), Nat.add_sub_cancel_left,
    List.getElem?_append_left hlt]
  exact hx

theorem mem_links (ns : Option Name) (h : d.resources [] = before ++ (ls, l) :: after)
    {p : String × Route} (hp : p ∈ l.links ns ls) : p ∈ d.links ns [] := by
  rw [links, h]
  exact List.mem_flatMap.mpr ⟨(ls, l), List.mem_append_right _ List.mem_cons_self, hp⟩

end Nest

namespace Level

variable {ns : Option Name} {ls : List Level} {w : Name}

theorem isLiteral_frames (ns : Option Name) (ls : List Level) (l : Level) :
    ∀ f ∈ l.frame ns ls :: nestFrames ns ls, f.IsLiteral :=
  List.forall_mem_cons.mpr ⟨isLiteral_frame, isLiteral_nestFrames⟩

/-- A registered route of a plural resource has its action and its controller. -/
theorem literal?_routes (ns : Option Name) (ls : List Level) (w : Name) {i : Nat}
    {a : ResourcePath × Method × String} (ha : standardActions[i]? = some a) :
    ∃ x, ((plural w).routes ns ls)[i]? = some x ∧
      (x.param? "action").bind Template.literal? = some a.2.2 ∧
      (x.param? "controller").bind Template.literal? = some (nestController ns w.text) := by
  have he := accepted_of_getElem? ha
  have hcontroller := Behavior.isPlain_nestController ns w
  have hbuild := ResourceRoute.build_route ((plural w).isLiteral_frames ns ls)
    (plainParams_frame plainParams_nestFrames) hcontroller he
  have hregular := @ResourceRoute.regular_frames _ (nestController ns w.text) _
    ((plural w).isLiteral_frames ns ls) he
  refine ⟨(standardRoute a).route ((plural w).frame ns ls :: nestFrames ns ls)
    (nestController ns w.text), ?_, ?_, ?_⟩
  · have hroutes : (plural w).routes ns ls = (standardActions.map standardRoute).map
      (·.route ((plural w).frame ns ls :: nestFrames ns ls) (nestController ns w.text)) := rfl
    rw [hroutes, List.getElem?_map, List.getElem?_map, ha]
    rfl
  · exact literal?_actionRoute hregular hbuild (by rw [getElem?_actionParams]; rfl)
      (isPlain_of_isWord he.action)
  · exact literal?_actionRoute hregular hbuild (by rw [getElem?_actionParams]; rfl) hcontroller

end Level

namespace Router

/-- What the table after a pass has got from a route that only generates. -/
theorem named_install (r : Router) (p : Placement) {g : Registry} {name : String} {x : Route}
    (h : g.named[name]? = some (.detached x)) :
    (Table.compile r.options (r.place p g).routes (r.place p g).named
      (r.place p g).metrics).named[name]? = some x := by
  rw [Table.getElem?_named_compile, getElem?_named_place p h]
  rfl

/-- Resources inside each other say where they stand. Let a pass over a default router declare any
resources inside and beside each other, perhaps in a namespace, and let it succeed. Then the routes
of each plural resource among them are where `Table.Locates` says. -/
theorem nested_resources (ns : Option Name) (d : Nest) {r : Router} (ho : r.options = {})
    (p : Placement) (h : (d.inRoot ns).succeeds {} = true) :
    ∃ t, (r.declare p (d.inRoot ns)).2.2.table = .ok t ∧
      ∀ before ls w after, d.resources [] = before ++ (ls, .plural w) :: after →
        t.Locates ns ls w (r.before p + (before.map (·.2.size)).sum) := by
  have hrun := runPass_of_succeeds h
  have hfree := (d.declares_inRoot ns).free _ _ rfl hrun
  have hadds := (d.declares_inRoot ns).of_eq_ok rfl hrun
  rw [declare_of_succeeds (by rwa [ho]), ho]
  refine ⟨_, table_install r p _, fun before ls w after hsplit => ?_⟩
  -- The names are all different, so each of them still leads to the route that was given it.
  have hbuild : ∀ k : PluralLink, ∃ x, Route.build (Chain.ofFrames
      ((k.link (nestStart ns ls) w.text).frames ((Level.plural w).frame ns ls :: nestFrames ns ls)
        (nestController ns w.text))) none false = .ok x ∧
      ((d.inRoot ns).runPass {}).2.registry.named[k.name (nestStart ns ls) w.text]? =
        some (.detached { x with name := some (k.name (nestStart ns ls) w.text) }) := by
    intro k
    refine ⟨_, ResourceLink.build_route (Level.isLiteral_frames ns ls _)
      (plainParams_frame plainParams_nestFrames) (Behavior.isPlain_nestController ns w)
      k.isWord_action, ?_⟩
    have hmem := Nest.mem_links ns hsplit
      (List.mem_map_of_mem (k.link_mem (nestStart ns ls) w))
    rw [hadds.named]
    exact getElem?_addNames_of_mem hfree.nodup hmem
  refine ⟨fun i a ha => ?_, fun k => ?_, fun k s fallback value hvalue => ?_⟩
  · obtain ⟨x, hx, haction, hcontroller⟩ := Level.literal?_routes ns ls w ha
    have hroutes : ((d.inRoot ns).runPass {}).2.registry.routes = reindex 0 (d.routes ns []) :=
      hadds.routes
    have hregistered := (getElem?_reindex 0 _ _).trans
      (congrArg _ (Nest.getElem?_routes hsplit hx))
    rw [← hroutes] at hregistered
    rw [Nat.add_assoc]
    exact ⟨_, exists_getElem?_place p hregistered, haction, hcontroller⟩
  · obtain ⟨x, hx, hnamed⟩ := hbuild k
    obtain ⟨tests, params, -, -, rfl⟩ := Route.build_eq_ok_iff.mp hx
    exact ⟨_, named_install r p hnamed, rfl⟩
  · obtain ⟨x, hx, hnamed⟩ := hbuild k
    rw [Table.generate, named_install r p hnamed]
    dsimp only
    rw [ResourceLink.generate_nested hx hvalue]
    rfl

/-- The namespace of an administration. -/
def adminName : Name := ⟨"admin", by decide⟩

/-- Comments of a plural kind. -/
def commentsName : Name := ⟨"comments", by decide⟩

/-- Posts with tags, and with an account that has comments. -/
def postsNest : Nest :=
  .level (.plural ⟨"posts", by decide⟩) (.beside (.level (.plural ⟨"tags", by decide⟩) .nothing)
    (.level (.singular ⟨"account", by decide⟩) (.level (.plural commentsName) .nothing)))

/-- A post whose identifier has to be encoded, and a comment. -/
def commentParams : Params := ((∅ : Params).insert "post_id" "a b").insert "id" "7"

/-- The comments come behind the posts, the tags and the account. -/
theorem nested_resources_comments :
    (postsNest.inRoot (some adminName)).succeeds {} = true ∧
      ∃ t, (declare { options := {} } .replace (postsNest.inRoot (some adminName))).2.2.table =
          .ok t ∧
        t.generate "admin_post_account_comment" (.params commentParams) ∅ =
          .ok "/admin/posts/a%20b/account/comments/7" ∧
        ∃ x, t.routes[22]? = some x ∧
          (x.param? "controller").bind Template.literal? = some "admin/comments" := by
  have hsucceeds : (postsNest.inRoot (some adminName)).succeeds {} = true := by
    rw [Nest.succeeds_iff]
    decide +kernel
  obtain ⟨t, ht, hlocates⟩ :=
    nested_resources (some adminName) postsNest (r := { options := {} }) rfl .replace hsucceeds
  have hcomments := hlocates (postsNest.resources [] |>.take 3) _ commentsName [] rfl
  refine ⟨hsucceeds, t, ht, ?_, ?_⟩
  · have hvalues : ∀ n ∈ PluralLink.show.keys [.singular ⟨"account", by decide⟩,
        .plural ⟨"posts", by decide⟩],
        ((Supply.params commentParams).value? n).or (∅ : Params)[n]? =
          some (commentParams[n]?.getD "") := by
      decide +kernel
    refine (hcomments.generate .show (.params commentParams) ∅ _ hvalues).trans ?_
    decide +kernel
  · obtain ⟨x, hx, -, hcontroller⟩ := hcomments.registered 0 _ rfl
    exact ⟨x, hx, hcontroller⟩

end Router

end HttpRouting
