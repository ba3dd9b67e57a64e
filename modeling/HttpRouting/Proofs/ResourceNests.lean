import HttpRouting.Proofs.ResourceRoutes
import HttpRouting.Proofs.Singulars

/-!
# Nests of resources

Resources may be declared inside each other and beside each other, to any depth. The chain of a
behavior inside a nest consists of the steps of the resources around it and, at the root, of a
namespace. Whatever a resource looks up on its way out, the nearest namespace, the names of the
resources around and a controller, follows from these. So what a whole nest adds is what each of its
resources adds by itself, in the order in which they are declared.

## Main definitions

* `Level`, `Nest` — resources inside each other and beside each other
* `Nest.resources` — the resources of a nest, each with those around it
* `nestFrames` — the steps inside some resources
* `Step.Declares` — a step of a declaration adds routes and names, if the names are free

## Main results

* `Behavior.declares_resourceScope_nest` — where a resource of a nest stands
* `Behavior.declares_resource_of_stands` — what a singular resource adds
* `Nest.declares_inRoot`, `Nest.succeeds_iff` — what a nest adds, and when it succeeds
-/

namespace HttpRouting

open Placeholder Shape

/-! ### Names -/

namespace Identifier

/-- A text that is an identifier. -/
structure Name where
  /-- The text. -/
  text : String
  /-- It is an identifier. -/
  isIdentifier : isIdentifier text.toList = true

variable {cs ds : List Char}

theorem forall_isRest (h : isIdentifier cs = true) : ∀ c ∈ cs, isRest c = true := by
  cases cs with
  | nil => cases h
  | cons c cs =>
    obtain ⟨hstart, hrest⟩ := Bool.and_eq_true_iff.mp h
    exact List.forall_mem_cons.mpr ⟨Shape.isRest_of_isStart hstart, List.all_eq_true.mp hrest⟩

/-- An identifier can be continued. -/
theorem isIdentifier_append (h : isIdentifier cs = true) (hds : ∀ c ∈ ds, isRest c = true) :
    isIdentifier (cs ++ ds) = true := by
  cases cs with
  | nil => cases h
  | cons c cs =>
    obtain ⟨hstart, hrest⟩ := Bool.and_eq_true_iff.mp h
    refine Bool.and_eq_true_iff.mpr ⟨hstart, List.all_eq_true.mpr ?_⟩
    exact List.forall_mem_append.mpr ⟨List.all_eq_true.mp hrest, hds⟩

/-- What an identifier starts with is an identifier. -/
theorem isIdentifier_take (h : isIdentifier cs = true) {n : Nat} (hn : n ≠ 0) :
    isIdentifier (cs.take n) = true := by
  obtain ⟨n, rfl⟩ := Nat.exists_eq_succ_of_ne_zero hn
  cases cs with
  | nil => cases h
  | cons c cs =>
    obtain ⟨hstart, hrest⟩ := Bool.and_eq_true_iff.mp h
    refine Bool.and_eq_true_iff.mpr ⟨hstart, List.all_eq_true.mpr fun d hd => ?_⟩
    exact List.all_eq_true.mp hrest d (List.mem_of_mem_take hd)

/-- An identifier with another end is an identifier, if something is left of it or the end is an
identifier itself. -/
theorem isIdentifier_replaceEnd (h : isIdentifier cs = true) {n : Nat} {ending : String}
    (hending : ∀ c ∈ ending.toList, isRest c = true)
    (hleft : n < cs.length ∨ isIdentifier ending.toList = true) :
    isIdentifier (replaceEnd cs n ending) = true := by
  unfold replaceEnd
  by_cases hn : n < cs.length
  · exact isIdentifier_append (isIdentifier_take h (by omega)) hending
  · rw [Nat.sub_eq_zero_of_le (Nat.le_of_not_lt hn), List.take_zero, List.nil_append]
    exact hleft.resolve_left hn

/-- The singular of an identifier is an identifier. -/
theorem isIdentifier_singularChars (h : isIdentifier cs = true) :
    isIdentifier (singularChars cs) = true := by
  have hendings : ∀ q ∈ replacements, q.2.2.toList.all isRest = true ∧
      (q.2.2 ≠ "" → isIdentifier q.2.2.toList = true) := by decide
  rcases singularChars_cases cs with heq | ⟨ending, n, e, heq, hmem, -, hkept⟩
  · rw [heq]
    exact h
  · obtain ⟨hrest, hidentifier⟩ := hendings _ hmem
    rw [heq]
    exact isIdentifier_replaceEnd h (List.all_eq_true.mp hrest) (hkept.symm.imp_right hidentifier)

namespace Name

theorem isEmpty_text (n : Name) : n.text.isEmpty = false := by
  rw [← Bool.not_eq_true, String.isEmpty_iff]
  intro heq
  have h := n.isIdentifier
  rw [heq] at h
  cases h

theorem isWord (n : Name) : isWord n.text = true := by
  refine Bool.and_eq_true_iff.mpr ⟨?_, List.all_eq_true.mpr fun c hc => ?_⟩
  · rw [n.isEmpty_text]
    rfl
  · have hrest := forall_isRest n.isIdentifier c hc
    unfold isRest at hrest
    rw [hrest, Bool.true_or]

theorem slash_not_mem (n : Name) : '/' ∉ n.text.toList :=
  fun hmem => absurd (forall_isRest n.isIdentifier '/' hmem) (by decide)

end Name

end Identifier

open Identifier (Name)

/-! ### Nests -/

/-- A level of a nest: a resource by its name. -/
inductive Level where
  /-- A plural resource. -/
  | plural (name : Name)
  /-- A singular resource. -/
  | singular (name : Name)

namespace Level

/-- The name of the resource. -/
def name : Level → String
  | plural w => w.text
  | singular w => w.text

/-- What stands for the resource in the names of the routes inside it. -/
def single : Level → String
  | plural w => singularize w.text
  | singular w => w.text

/-- The placeholder of a member, if the resource has members. -/
def key? : Level → Option String
  | plural w => some (singularize w.text ++ "_id")
  | singular _ => none

end Level

/-- Resources inside each other and beside each other. -/
inductive Nest where
  /-- Nothing at all. -/
  | nothing
  /-- Some resources and, after them, others. -/
  | beside (first second : Nest)
  /-- A resource with others inside. -/
  | level (l : Level) (inside : Nest)

namespace Nest

/-- The declaration of a nest. -/
def declaration : Nest → Declaration
  | nothing => .skip
  | beside d e => .seq d.declaration e.declaration
  | level (.plural w) d => .resources w.text {} d.declaration
  | level (.singular w) d => .resource w.text {} d.declaration

/-- The declaration of a nest, in a namespace if one is given. -/
def inRoot (ns : Option Name) (d : Nest) : Declaration :=
  match ns with
  | some n => .inNamespace n.text d.declaration
  | none => d.declaration

/-- The resources of a nest in the order in which they are declared, each with those around it, the
innermost first. -/
def resources : Nest → List Level → List (List Level × Level)
  | nothing, _ => []
  | beside d e, ls => d.resources ls ++ e.resources ls
  | level l d, ls => (ls, l) :: d.resources (l :: ls)

end Nest

/-- The singular names of some resources, the outermost first. -/
def around (ls : List Level) : List String := ls.reverse.map Level.single

theorem around_cons (l : Level) (ls : List Level) : around (l :: ls) = around ls ++ [l.single] := by
  simp [around]

/-- The controller of a resource in a namespace. -/
def nestController (ns : Option Name) (w : String) : String := ns.elim "" (·.text ++ "/") ++ w

/-- What the names of the routes of a resource start with. -/
def nestStart (ns : Option Name) (ls : List Level) : String :=
  ns.elim "" (·.text ++ "_") ++ String.join ((around ls).map (· ++ "_"))

/-- The path of the namespace, which stands in front of the outermost resource only. -/
def nestPrefix (ns : Option Name) : List Level → String
  | [] => ns.elim "" ("/" ++ ·.text)
  | _ :: _ => ""

/-! ### Steps -/

/-- The step at the path of a resource. -/
def Level.frame (ns : Option Name) (ls : List Level) (l : Level) : Frame :=
  { Frame.literal (nestPrefix ns ls ++ "/" ++ l.name) with
    scope := ns.map fun n => ⟨n.text, true⟩ }

/-- The steps inside some resources, the innermost first. -/
def nestFrames (ns : Option Name) : List Level → List Frame
  | [] => ns.elim [] (fun n => [{ scope := some ⟨n.text, false⟩ }]) ++ [Chain.rootFrame]
  | .plural w :: ls =>
    Behavior.memberFrame w.text (around ls) :: (Level.plural w).frame ns ls :: nestFrames ns ls
  | .singular w :: ls =>
    { (Level.singular w).frame ns ls with parents := some (around ls ++ [w.text]) } ::
      nestFrames ns ls

namespace Frame

variable {f : Frame} {scope : Option NamespaceScope} {parents : Option (List String)}

theorem isLiteral_mark (h : f.IsLiteral) : IsLiteral { f with scope, parents } := h

end Frame

section Steps

variable {ns : Option Name} {ls : List Level} {l : Level}

theorem isLiteral_frame : (l.frame ns ls).IsLiteral :=
  Frame.isLiteral_mark (Frame.isLiteral_literal _)

theorem plainParams_frame {fs : List Frame} (hfs : PlainParams fs) :
    PlainParams (l.frame ns ls :: fs) := by
  refine List.forall_mem_cons.mpr ⟨fun name value h => ?_, hfs⟩
  have hempty : (∅ : Params)[name]? = some value := h
  rw [Std.ExtTreeMap.getElem?_empty] at hempty
  cases hempty

theorem isLiteral_nestFrames : ∀ f ∈ nestFrames ns ls, f.IsLiteral := by
  induction ls with
  | nil =>
    refine List.forall_mem_append.mpr ⟨?_, List.forall_mem_singleton.mpr ?_⟩
    · cases ns with
      | none => nofun
      | some n => exact List.forall_mem_singleton.mpr (Frame.isLiteral_of_params ∅)
    · exact Frame.isLiteral_of_params _
  | cons l ls ih =>
    cases l with
    | plural w =>
      exact List.forall_mem_cons.mpr ⟨Frame.isLiteral_literal _,
        List.forall_mem_cons.mpr ⟨isLiteral_frame, ih⟩⟩
    | singular w => exact List.forall_mem_cons.mpr ⟨Frame.isLiteral_literal _, ih⟩

/-- The only step with parameters is the one at the root. -/
theorem getElem?_params_nestFrames {f : Frame} (hf : f ∈ nestFrames ns ls) {name value : String}
    (h : f.params[name]? = some value) :
    name = "action" ∧ value = ({} : Options).defaultAction := by
  have hempty : (∅ : Params)[name]? ≠ some value := by
    rw [Std.ExtTreeMap.getElem?_empty]
    nofun
  induction ls with
  | nil =>
    rcases List.mem_append.mp hf with hf | hf
    · cases ns with
      | none => cases hf
      | some n =>
        obtain rfl := List.mem_singleton.mp hf
        exact absurd h hempty
    · obtain rfl := List.mem_singleton.mp hf
      rw [Chain.rootFrame, Std.ExtTreeMap.getElem?_insert, Std.ExtTreeMap.getElem?_empty] at h
      split at h
      · next hname => exact ⟨(Std.compare_eq_iff_eq.mp hname).symm, (Option.some.inj h).symm⟩
      · cases h
  | cons l ls ih =>
    cases l with
    | plural w =>
      rcases List.mem_cons.mp hf with rfl | hf
      · exact absurd h hempty
      · rcases List.mem_cons.mp hf with rfl | hf
        · exact absurd h hempty
        · exact ih hf
    | singular w =>
      rcases List.mem_cons.mp hf with rfl | hf
      · exact absurd h hempty
      · exact ih hf

theorem plainParams_nestFrames : PlainParams (nestFrames ns ls) := by
  intro f hf name value h
  obtain ⟨-, rfl⟩ := getElem?_params_nestFrames hf h
  decide

/-- The namespace in force is the one at the root, and its path has been applied as soon as there is
a resource around. -/
theorem scope?_nestFrames : (Chain.ofFrames (nestFrames ns ls)).scope? =
    ns.map fun n => ⟨n.text, !ls.isEmpty⟩ := by
  cases ls with
  | nil => cases ns <;> rfl
  | cons l ls =>
    cases ns with
    | some n => cases l <;> rfl
    | none =>
      -- Without a namespace no step has one.
      have hnone : ∀ f ∈ nestFrames none (l :: ls), f.scope = none := by
        generalize l :: ls = ls
        induction ls with
        | nil => exact List.forall_mem_singleton.mpr rfl
        | cons l ls ih =>
          cases l with
          | plural w =>
            exact List.forall_mem_cons.mpr ⟨rfl, List.forall_mem_cons.mpr ⟨rfl, ih⟩⟩
          | singular w => exact List.forall_mem_cons.mpr ⟨rfl, ih⟩
      rw [Chain.scope?, Chain.ofFrames, List.findSome?_map]
      exact List.findSome?_eq_none_iff.mpr hnone

theorem parents_nestFrames : (Chain.ofFrames (nestFrames ns ls)).parents = around ls := by
  cases ls with
  | nil => cases ns <;> rfl
  | cons l ls =>
    rw [around_cons]
    cases l <;> rfl

/-! ### Paths -/

/-- The text that a resource adds to the paths inside it. -/
def Level.text (l : Level) : List Char :=
  '/' :: l.name.toList ++ l.key?.elim [] fun k => '/' :: ':' :: k.toList

/-- The tokens of that text. -/
def Level.tokens (l : Level) : Tokens :=
  ('/' :: l.name.toList).map .inl ++ l.key?.elim [] fun k => [.inl '/', .inr (some k.toList)]

/-- The path of a namespace. -/
def namespaceText (ns : Option Name) : List Char := (ns.elim "" ("/" ++ ·.text)).toList

theorem Level.isWord_name (l : Level) : isWord l.name = true := by
  cases l <;> exact Name.isWord _

/-- The keys of members are identifiers. -/
theorem Level.isIdentifier_key {k : String} (h : l.key? = some k) :
    Identifier.isIdentifier k.toList = true := by
  cases l with
  | singular w => cases h
  | plural w =>
    obtain rfl := Option.some.inj h
    rw [String.toList_append, singularize, String.toList_ofList]
    exact Identifier.isIdentifier_append (Identifier.isIdentifier_singularChars w.isIdentifier)
      (List.all_eq_true.mp (by decide))

theorem closed_slash (cs : List Char) : Closed ('/' :: cs) := by
  intro c hc
  obtain rfl := Option.some.inj hc
  decide

theorem tokens_key {k : String} (h : Identifier.isIdentifier k.toList = true) :
    Segment.tokens ('/' :: ':' :: k.toList) = [.inl '/', .inr (some k.toList)] := by
  have htoken : token? k.toList = some (some k.toList, []) :=
    Segment.token?_eq_some_iff.mpr (.inl ⟨_, rfl, Identifier.read?_of_isIdentifier h⟩)
  rw [Segment.tokens_cons (by simp), Segment.tokens_token htoken, Segment.tokens_eq_nil.mpr rfl]

theorem Level.tokens_text (l : Level) : Segment.tokens l.text = l.tokens := by
  rw [text, tokens]
  cases hkey : l.key? with
  | none => rw [Option.elim_none, Option.elim_none, List.append_nil, List.append_nil,
      ResourcePath.tokens_word l.isWord_name]
  | some k =>
    rw [Option.elim_some, Option.elim_some,
      Segment.tokens_append (Segment.not_continues_of_closed (closed_slash _) _),
      ResourcePath.tokens_word l.isWord_name, tokens_key (l.isIdentifier_key hkey)]

theorem head_nestPrefix (ns : Option Name) (ls : List Level) :
    ∀ c ∈ (nestPrefix ns ls).toList.head?, c = '/' := by
  cases ls with
  | cons l ls => nofun
  | nil =>
    cases ns with
    | none => nofun
    | some n => simp [nestPrefix]

theorem text_frame : (l.frame ns ls).text = (nestPrefix ns ls).toList ++ '/' :: l.name.toList := by
  have htext : (nestPrefix ns ls ++ "/" ++ l.name).toList =
      (nestPrefix ns ls).toList ++ '/' :: l.name.toList := by
    simp
  refine (Frame.text_literal _).trans ((literalText_of_slash ?_).trans htext)
  rw [htext]
  cases hpre : (nestPrefix ns ls).toList with
  | nil => simp
  | cons c cs => simpa [hpre] using head_nestPrefix ns ls

theorem text_memberFrame (w : String) (parents : List String) :
    (Behavior.memberFrame w parents).text = '/' :: ':' :: (singularize w ++ "_id").toList := by
  have htext : ("/" ++ (":" ++ singularize w ++ "_id")).toList =
      '/' :: ':' :: (singularize w ++ "_id").toList := by
    simp
  refine (Frame.text_literal _).trans ((literalText_of_slash ?_).trans htext)
  rw [htext]
  exact fun c hc => (Option.some.inj hc).symm

/-- The path inside some resources starts with the path of the namespace, once, which the outermost
resource adds. -/
theorem pathText_nestFrames (ns : Option Name) (ls : List Level) :
    Chain.pathText (nestFrames ns ls) ++ (nestPrefix ns ls).toList =
      namespaceText ns ++ ls.reverse.flatMap Level.text := by
  induction ls with
  | nil =>
    have hroot : Chain.pathText (nestFrames ns []) = [] := by
      cases ns with
      | none => exact Frame.text_of_params Chain.rootFrame.params
      | some n =>
        rw [nestFrames, Option.elim_some, List.singleton_append, Chain.rootFrame, Chain.pathText,
          Chain.pathText, Frame.text_of_params]
        exact Frame.text_of_params ∅
    rw [hroot]
    simp [nestPrefix, namespaceText]
  | cons l ls ih =>
    have hinner : Chain.pathText (nestFrames ns (l :: ls)) =
        Chain.pathText (nestFrames ns ls) ++ (nestPrefix ns ls).toList ++ l.text := by
      cases l with
      | plural w =>
        rw [nestFrames, Chain.pathText, Chain.pathText, text_frame, text_memberFrame, Level.text]
        simp [Level.key?]
      | singular w =>
        have hframe : Frame.text { (Level.singular w).frame ns ls with
            parents := some (around ls ++ [w.text]) } = ((Level.singular w).frame ns ls).text := rfl
        rw [nestFrames, Chain.pathText, hframe, text_frame, Level.text]
        simp [Level.key?]
    rw [hinner, ih]
    simp [nestPrefix]

theorem Level.colon_not_mem_name (l : Level) : ':' ∉ '/' :: l.name.toList := fun hmem =>
  (List.mem_cons.mp hmem).elim (by decide) (colon_not_mem_of_isWord l.isWord_name)

theorem Level.colon_not_mem_text_frame (ns : Option Name) (ls : List Level) (l : Level) :
    ':' ∉ (l.frame ns ls).text := by
  intro hmem
  rw [text_frame] at hmem
  rcases List.mem_append.mp hmem with hmem | hmem
  · cases ls with
    | cons l' ls => cases hmem
    | nil =>
      cases ns with
      | none => cases hmem
      | some n =>
        rw [nestPrefix, Option.elim_some, String.toList_append] at hmem
        exact (Level.plural n).colon_not_mem_name hmem
  · exact l.colon_not_mem_name hmem

/-- Every placeholder on such a path is the key of a member. -/
theorem exists_key_of_token_mem {name : List Char}
    (h : .token (some name) ∈ Chain.pathPieces (nestFrames ns ls)) :
    ∃ w, name = (singularize w ++ "_id").toList := by
  have hplain : ∀ (ls : List Level) (l : Level), .token (some name) ∉ (l.frame ns ls).pieces := by
    intro ls l hmem
    rw [isLiteral_frame.pieces_eq, ofText,
      Segment.tokens_of_plain (l.colon_not_mem_text_frame ns ls)] at hmem
    simpa using token_mem_pieces_ofTokens.mp hmem
  induction ls with
  | nil =>
    -- There is no path at the root and in a namespace.
    cases ns with
    | none =>
      rcases List.mem_append.mp h with h | h
      · cases h
      · rw [Chain.rootFrame, Frame.pieces_of_params] at h
        cases h
    | some n =>
      rcases List.mem_append.mp h with h | h
      · rcases List.mem_append.mp h with h | h
        · cases h
        · rw [Chain.rootFrame, Frame.pieces_of_params] at h
          cases h
      · rw [show Frame.pieces { scope := some ⟨n.text, false⟩ } = [] from Frame.pieces_of_params ∅]
          at h
        cases h
  | cons l ls ih =>
    cases l with
    | plural w =>
      rcases List.mem_append.mp h with h | h
      · rcases List.mem_append.mp h with h | h
        · exact ih h
        · exact absurd h (hplain ls _)
      · have hkey := (Level.plural w).isIdentifier_key rfl
        have hliteral : (Behavior.memberFrame w.text (around ls)).IsLiteral :=
          Frame.isLiteral_literal _
        rw [hliteral.pieces_eq, text_memberFrame, ofText, tokens_key hkey] at h
        have hmem := token_mem_pieces_ofTokens.mp h
        exact ⟨w.text, by simpa using hmem⟩
    | singular w =>
      rcases List.mem_append.mp h with h | h
      · exact ih h
      · exact absurd h (hplain ls (.singular w))

/-- There is no controller inside a nest that a resource could take for its own. -/
theorem getElem?_controller_nestFrames :
    (Chain.ofFrames (nestFrames ns ls)).params["controller"]? = none := by
  have hregular : ∀ f ∈ nestFrames ns ls, f.Regular :=
    fun f hf => (isLiteral_nestFrames f hf).regular
  rw [Chain.params_ofFrames hregular, Option.eq_none_iff_forall_ne_some]
  intro value h
  rcases Chain.getElem?_allParams_eq_some hregular h with ⟨f, hf, hvalue⟩ | ⟨-, htoken⟩
  · exact absurd (getElem?_params_nestFrames hf hvalue).1 (by decide)
  · obtain ⟨w, hw⟩ := exists_key_of_token_mem htoken
    have hlast := congrArg List.getLast? hw
    simp at hlast

end Steps

/-! ### Declarations -/

namespace Behavior

open Pass

variable {b : Behavior} {ns : Option Name} {ls : List Level}

theorem isPlain_nestController (ns : Option Name) (w : Name) :
    Template.IsPlain (nestController ns w.text) := by
  intro c hc
  rw [nestController, String.toList_append] at hc
  rcases List.mem_append.mp hc with hc | hc
  · cases ns with
    | none => cases hc
    | some n =>
      rw [Option.elim_some, String.toList_append] at hc
      rcases List.mem_append.mp hc with hc | hc
      · exact isPlain_of_isWord n.isWord c hc
      · obtain rfl := List.mem_singleton.mp hc
        decide
  · exact isPlain_of_isWord w.isWord c hc

/-- The name of a resource has no slash, so it has no namespace in front of it. -/
theorem resourceController_nest (hb : b.chain = Chain.ofFrames (nestFrames ns ls)) (l : Level) :
    b.resourceController l.name {} (ns.map (·.text)) = nestController ns l.name := by
  have hslash : '/' ∉ l.name.toList := by cases l <;> exact Name.slash_not_mem _
  unfold resourceController
  rw [hb, getElem?_controller_nestFrames, nestController]
  cases ns with
  | none => simp
  | some n =>
    have hpre : ((n.text ++ "/").toList.isPrefixOf l.name.toList) = false := by
      rw [← Bool.not_eq_true, List.isPrefixOf_iff_prefix]
      exact fun h => hslash (h.subset (by simp))
    have hname : ((none : Option String) <|> none).getD l.name = l.name := rfl
    dsimp only [Option.map_some]
    rw [Option.filter_none, hname, hpre, if_neg Bool.false_ne_true]
    rfl

/-- A resource of a nest stands below the resources around it. Its controller and the names of its
routes have the namespace in front. -/
theorem declares_resourceScope_nest (hb : b.chain = Chain.ofFrames (nestFrames ns ls)) (l : Level) :
    (b.resourceScope l.name {}).Declares [] [] fun s =>
      s.Stands (l.frame ns ls :: nestFrames ns ls) (nestController ns l.name) (nestStart ns ls)
        (around ls) := by
  have hnamespace : b.resourceNamespace {} =
      .ok (ns.map (·.text), ns.isSome && ls.isEmpty) := by
    unfold resourceNamespace
    rw [hb, scope?_nestFrames]
    cases ns with
    | none => rfl
    | some n => simp
  have hparents : b.chain.parents = around ls := by rw [hb, parents_nestFrames]
  have hcontroller := resourceController_nest hb l
  rw [resourceScope, l.isWord_name, hnamespace]
  refine declares_child.andPure fun base hbase => ?_
  cases ns with
  | none =>
    have hpre : nestPrefix none ls = "" := by cases ls <;> rfl
    refine ⟨?_, hcontroller, fun name => ?_, hparents⟩
    · change base.chain = _
      rw [hbase, hb, Level.frame, hpre, ← Frame.node_of_conditions]
      rfl
    · rw [ResourceScope.routeName, hparents]
      rfl
  | some n =>
    -- Only the outermost resource puts the namespace into its path.
    have hpre : (if (true && ls.isEmpty) = true then "/" ++ n.text else "") =
        nestPrefix (some n) ls := by
      cases ls <;> rfl
    have hstart : String.ofList (n.text.toList.map fun c => if c = '/' then '_' else c) =
        n.text := by
      have hid : ∀ c ∈ n.text.toList, (if c = '/' then '_' else c) = c := by
        intro c hc
        refine if_neg ?_
        rintro rfl
        exact n.slash_not_mem hc
      rw [List.map_congr_left hid, List.map_id', String.ofList_toList]
    refine ⟨?_, hcontroller, fun name => ?_, hparents⟩
    · dsimp only [Option.map_some, Option.isSome_some] at hbase ⊢
      rw [hpre] at hbase
      rw [mapNode, hbase, hb, ← Frame.node_of_conditions]
      rfl
    · rw [ResourceScope.routeName, hparents]
      dsimp only [Option.map_some]
      rw [hstart]
      rfl

theorem declares_inNamespace (b : Behavior) (n : Name) :
    (b.inNamespace n.text).Declares [] [] fun c =>
      c.chain = Frame.node { scope := some ⟨n.text, false⟩ } :: b.chain := by
  have hdrop : ∀ cs : List Char, '/' ∉ cs → dropSlashes cs = cs := by
    intro cs hcs
    cases cs with
    | nil => rfl
    | cons c cs =>
      have hc : c ≠ '/' := fun heq => hcs (heq ▸ List.mem_cons_self)
      exact List.dropWhile_cons_of_neg (by simpa using hc)
  have htrim : trimSlashes n.text = n.text := by
    rw [trimSlashes, hdrop _ n.slash_not_mem, hdrop _ (by simpa using n.slash_not_mem),
      List.reverse_reverse, String.ofList_toList]
  unfold inNamespace
  dsimp only
  rw [htrim, n.isEmpty_text, if_neg Bool.false_ne_true]
  refine declares_child.andPure fun c hc => ?_
  rw [mapNode, hc, ← Frame.node_of_conditions]
  rfl

/-- The routes of a singular resource. -/
def singularRoutes (fs : List Frame) (controller : String) : List Route :=
  singularActions.map fun a => actionRoute fs controller a.1 (.ofMethod a.2.1) a.2.2

/-- The named routes of a singular resource. -/
def singularLinks (name : String) : List ResourceLink := (singularNames name).map standardLink

/-- A singular resource adds its routes and its named routes where it stands, and goes on inside. -/
theorem declares_resource_of_stands {w : String} {f : Frame} {fs : List Frame}
    {controller start : String} {parents : List String} (hfs : ∀ f' ∈ f :: fs, f'.IsLiteral)
    (hparams : PlainParams (f :: fs)) (hcontroller : Template.IsPlain controller)
    (hscope : (b.resourceScope w {}).Declares [] [] fun s =>
      s.Stands (f :: fs) controller start parents) :
    (b.resource w {}).Declares (singularRoutes (f :: fs) controller)
      ((singularLinks (start ++ w)).map fun l => (l.name, l.route (f :: fs) controller)) fun a =>
      a.2.chain = Chain.ofFrames ({ f with parents := some (parents ++ [w]) } :: fs) := by
  have hactions : ∀ a ∈ singularActions, isWord a.2.2 = true := by decide
  have hnames : ∀ l ∈ singularLinks (start ++ w), isWord l.action = true := by
    have hwords : ∀ a ∈ singularNames "", isWord a.2.1 = true := by decide
    simpa [singularLinks, singularNames, standardLink] using hwords
  have hroutes : ∀ a ∈ singularActions,
      Route.build (Chain.ofFrames (actionFrames (f :: fs) controller a.1 (.ofMethod a.2.1) a.2.2))
        none false = .ok (actionRoute (f :: fs) controller a.1 (.ofMethod a.2.1) a.2.2) :=
    fun a ha => build_actionRoute hfs hparams hcontroller (.singular ha)
      (Condition.isPlain_ofMethod a.2.1)
      ⟨a.2.1.token, (Condition.accepts_ofMethod a.2.1 _).mpr rfl⟩ (hactions a ha)
  have hlinks : ∀ l ∈ singularLinks (start ++ w),
      Route.build (Chain.ofFrames (l.frames (f :: fs) controller)) none false =
        .ok (l.route (f :: fs) controller) :=
    fun l hl => ResourceLink.build_route hfs hparams hcontroller (hnames l hl)
  have hnone : ResourceOptions.checkActions w .member [] [] = .ok () := rfl
  rw [resource, singularRoutes, singularLinks, hnone,
    ← List.append_nil (((singularNames _).map _).map _)]
  refine declares_require.after fun _ _ => hscope.after fun s hs => ?_
  obtain ⟨hbase, rfl, hstart, rfl⟩ := hs
  simp only [hstart]
  refine (declares_pure (Q := fun _ => True) trivial).after fun _ _ => ?_
  refine (ResourceScope.declares_methodActions hbase hroutes).before fun _ _ => ?_
  refine (ResourceScope.declares_links hbase hlinks).before fun _ _ => ?_
  refine declares_pure ?_
  rw [nestedIn, mapNode, hbase]
  rfl

end Behavior

/-! ### What a nest adds -/

/-- On default options, a step of a declaration adds some routes and names, if the names are free,
and fails otherwise. -/
structure Step.Declares (p : Step Unit) (rs : List Route) (ns : NamedRoutes) : Prop where
  /-- The step succeeds if its names are free. -/
  adds : ∀ s : Progress, s.registry.options = {} → s.registry.Free (ns.map (·.1)) →
    ∃ s', p s = (.ok (), s') ∧ s.registry.Adds rs ns s'.registry
  /-- It fails otherwise. -/
  free : ∀ s s' : Progress, s.registry.options = {} → p s = (.ok (), s') →
    s.registry.Free (ns.map (·.1))

namespace Step

variable {α : Type} {rs rs' : List Route} {ns ns' : NamedRoutes} {s s' : Progress}

theorem Declares.of_eq_ok {p : Step Unit} (h : p.Declares rs ns) (ho : s.registry.options = {})
    (hp : p s = (.ok (), s')) : s.registry.Adds rs ns s'.registry := by
  obtain ⟨s₁, hp', hadds⟩ := h.adds s ho (h.free s s' ho hp)
  obtain ⟨-, rfl⟩ := Prod.mk.inj (hp.symm.trans hp')
  exact hadds

theorem declares_pure : Step.Declares (pure ()) [] [] where
  adds s _ _ := ⟨s, rfl, s.registry.adds_nothing s.registry.metrics⟩
  free _ _ _ _ := ⟨List.nodup_nil, nofun, nofun⟩

theorem declares_report (e : Entry) : Step.Declares (report e) [] [] where
  adds s _ _ := ⟨_, rfl, s.registry.adds_nothing s.registry.metrics⟩
  free _ _ _ _ := ⟨List.nodup_nil, nofun, nofun⟩

/-- A step of a pass touches nothing but the registry. -/
theorem eq_ok_of_ofPass {p : Pass α} {a : α} (h : ofPass p s = (.ok a, s')) :
    p s.registry = (.ok a, s'.registry) := by
  obtain ⟨hvalue, rfl⟩ := Prod.mk.inj h
  exact Prod.ext hvalue rfl

/-- A step of a pass, and what is done with its value. -/
theorem declares_ofPass_bind {p : Pass α} {Q : α → Prop} (hp : p.Declares rs ns Q)
    {f : α → Step Unit} (hf : ∀ a, Q a → (f a).Declares rs' ns') :
    Step.Declares (ofPass p >>= f) (rs ++ rs') (ns ++ ns') where
  adds s ho hfree := by
    rw [List.map_append] at hfree
    obtain ⟨a, g, hrun, ha, hadds⟩ := hp.adds s.registry ho hfree.left
    obtain ⟨s', hrun', hadds'⟩ := (hf a ha).adds { s with registry := g } (hadds.options.trans ho)
      (hadds.free_append_iff.mp hfree).2
    refine ⟨s', ?_, hadds.trans hadds'⟩
    rw [bind_apply, ofPass, hrun]
    exact hrun'
  free s s' ho h := by
    obtain ⟨a, s₁, hrun, hrun'⟩ := bind_eq_ok h
    have hpass := eq_ok_of_ofPass hrun
    obtain ⟨ha, hadds⟩ := hp.of_eq_ok ho hpass
    rw [List.map_append, hadds.free_append_iff]
    exact ⟨hp.free _ a _ ho hpass, (hf a ha).free s₁ s' (hadds.options.trans ho) hrun'⟩

/-- One step after another. -/
theorem Declares.andThen {p q : Step Unit} (hp : p.Declares rs ns) (hq : q.Declares rs' ns') :
    Step.Declares (p >>= fun _ => q) (rs ++ rs') (ns ++ ns') where
  adds s ho hfree := by
    rw [List.map_append] at hfree
    obtain ⟨s₁, hrun, hadds⟩ := hp.adds s ho hfree.left
    obtain ⟨s', hrun', hadds'⟩ :=
      hq.adds s₁ (hadds.options.trans ho) (hadds.free_append_iff.mp hfree).2
    refine ⟨s', ?_, hadds.trans hadds'⟩
    rw [bind_apply, hrun]
    exact hrun'
  free s s' ho h := by
    obtain ⟨_, s₁, hrun, hrun'⟩ := bind_eq_ok h
    have hadds := hp.of_eq_ok ho hrun
    rw [List.map_append, hadds.free_append_iff]
    exact ⟨hp.free s s₁ ho hrun, hq.free s₁ s' (hadds.options.trans ho) hrun'⟩

/-- A report adds nothing. -/
theorem Declares.report {p : Step Unit} (hp : p.Declares rs ns) (e : Entry) :
    Step.Declares (p >>= fun _ => report e) rs ns := by
  have hall := hp.andThen (declares_report e)
  rwa [List.append_nil, List.append_nil] at hall

/-- A route that is declared without names adds what its registration adds. -/
theorem declares_run_route {b : Behavior} {ps : Params} {k : RouteKind} {Q : Nat → Prop}
    (h : (b.registerKind ps k).Declares rs ns Q) :
    ((Declaration.route { params := ps, kind := k }).run b).Declares rs ns where
  adds s ho hfree := by
    obtain ⟨i, g, hrun, -, hadds⟩ := h.adds s.registry ho hfree
    obtain ⟨s', hs', rfl⟩ := (Declaration.run_route_iff b s g).mpr ⟨i, hrun⟩
    exact ⟨s', hs', hadds⟩
  free s s' ho hs' := by
    obtain ⟨i, hrun⟩ := (Declaration.run_route_iff b s s'.registry).mp ⟨s', hs', rfl⟩
    exact h.free s.registry i s'.registry ho hrun

end Step

/-- The number of routes that a resource registers. -/
def Level.size : Level → Nat
  | plural _ => 8
  | singular _ => 6

/-- The routes of a resource inside others. -/
def Level.routes (ns : Option Name) (ls : List Level) (l : Level) : List Route :=
  match l with
  | plural w => (resourceRoutes [] []).map
      (·.route (l.frame ns ls :: nestFrames ns ls) (nestController ns w.text))
  | singular w => Behavior.singularRoutes (l.frame ns ls :: nestFrames ns ls)
      (nestController ns w.text)

/-- The named routes of a resource, given what their names start with. -/
def Level.namedLinks (start : String) : Level → List ResourceLink
  | plural w => resourceLinks (start ++ w.text) (start ++ singularize w.text) [] []
  | singular w => Behavior.singularLinks (start ++ w.text)

/-- The named routes of a resource inside others. -/
def Level.links (ns : Option Name) (ls : List Level) (l : Level) : NamedRoutes :=
  (l.namedLinks (nestStart ns ls)).map fun k =>
    (k.name, k.route (l.frame ns ls :: nestFrames ns ls) (nestController ns l.name))

theorem Level.length_routes (ns : Option Name) (ls : List Level) (l : Level) :
    (l.routes ns ls).length = l.size := by
  cases l with
  | plural w => simp [routes, size, resourceRoutes, furtherRoutes, standardActions]
  | singular w => simp [routes, size, Behavior.singularRoutes, Behavior.singularActions]

namespace Nest

/-- The routes of a nest. -/
def routes (ns : Option Name) (d : Nest) (ls : List Level) : List Route :=
  (d.resources ls).flatMap fun p => p.2.routes ns p.1

/-- The named routes of a nest. -/
def links (ns : Option Name) (d : Nest) (ls : List Level) : NamedRoutes :=
  (d.resources ls).flatMap fun p => p.2.links ns p.1

variable {ns : Option Name} {ls : List Level}

/-- A nest inside some resources adds what its resources add. -/
theorem declares_run (d : Nest) {b : Behavior}
    (hb : b.chain = Chain.ofFrames (nestFrames ns ls)) :
    (d.declaration.run b).Declares (d.routes ns ls) (d.links ns ls) := by
  induction d generalizing ls b with
  | nothing => exact Step.declares_pure
  | beside d e ihd ihe =>
    rw [routes, links, resources, List.flatMap_append, List.flatMap_append]
    exact (ihd hb).andThen (ihe hb)
  | level l d ih =>
    have hframes : ∀ f ∈ l.frame ns ls :: nestFrames ns ls, f.IsLiteral :=
      List.forall_mem_cons.mpr ⟨isLiteral_frame, isLiteral_nestFrames⟩
    have hparams : PlainParams (l.frame ns ls :: nestFrames ns ls) :=
      plainParams_frame plainParams_nestFrames
    have hscope := Behavior.declares_resourceScope_nest hb l
    rw [routes, links, resources, List.flatMap_cons, List.flatMap_cons]
    -- The behavior inside the resource is one inside one more level.
    cases l with
    | plural w =>
      have hdeclares := Behavior.declares_resources_of_stands (w := w.text) ⟨w.isWord, rfl, rfl⟩
        hframes hparams (Behavior.isPlain_nestController ns w) hscope
      exact Step.declares_ofPass_bind hdeclares fun a ha => (ih ha).report _
    | singular w =>
      have hdeclares := Behavior.declares_resource_of_stands (w := w.text) hframes hparams
        (Behavior.isPlain_nestController ns w) hscope
      exact Step.declares_ofPass_bind hdeclares fun a ha => (ih ha).report _

/-- A nest in a namespace or on the root adds what its resources add. -/
theorem declares_inRoot (ns : Option Name) (d : Nest) :
    ((d.inRoot ns).run (Behavior.root {})).Declares (d.routes ns []) (d.links ns []) := by
  have hroot : (Behavior.root {}).chain = Chain.ofFrames [Chain.rootFrame] := by
    rw [Chain.ofFrames, List.map_singleton, Chain.rootFrame, Frame.node_of_conditions]
    rfl
  cases ns with
  | none => exact d.declares_run hroot
  | some n =>
    refine Step.declares_ofPass_bind (Behavior.declares_inNamespace _ n) fun b hb =>
      d.declares_run ?_
    rw [hb, hroot]
    rfl

/-- The pass of a nest succeeds exactly if no two of its names are the same. -/
theorem succeeds_iff (ns : Option Name) (d : Nest) :
    (d.inRoot ns).succeeds {} = true ↔
      ((d.links ns []).map (·.1)).Nodup ∧ ∀ name ∈ (d.links ns []).map (·.1), name ≠ "" := by
  rw [← Router.free_fresh_iff]
  constructor
  · exact fun h => (d.declares_inRoot ns).free _ _ rfl (Router.runPass_of_succeeds h)
  · intro h
    obtain ⟨s, hs, -⟩ := (d.declares_inRoot ns).adds { registry := { options := {} } } rfl h
    exact Router.succeeds_of_runPass hs

end Nest

end HttpRouting
