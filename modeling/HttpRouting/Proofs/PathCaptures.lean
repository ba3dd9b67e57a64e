import HttpRouting.Proofs.Changes
import HttpRouting.Proofs.ChainPath
import HttpRouting.Proofs.Seams

/-!
# What parameters read

A parameter that refers to a placeholder reads a group of the compiled path. The number of that
group has been worked out step by step, by a scan that does not parse the conditions; here it is
shown to be the number that the parser gives to the parenthesis into which the last placeholder of
that name has been expanded.

## Main definitions

* `Chain.Refers` — a reference finds a placeholder on the path, or a group

## Main results

* `Route.build_reads_path` — when a route is built, and what its parameters read
-/

namespace HttpRouting

open Placeholder Regex

namespace Chain

variable {fs : List Frame}

theorem pathGroups_eq_sum (c : Chain) : c.pathGroups = (c.map Node.pathGroups).sum := by
  induction c with
  | nil => rfl
  | cons n outer ih => rw [pathGroups, ih, List.map_cons, List.sum_cons, Nat.add_comm]

/-- A reference finds something: a placeholder on the path, or a group that a condition has. -/
def Refers (fs : List Frame) : Template.Reference → Prop
  | .placeholder name => .token (some name.toList) ∈ pathPieces fs
  | .capture k n => ∃ source regex, (ofFrames fs).conditions[k]? = some source ∧
      Regex.parse? source = some regex ∧ n ≤ regex.groupCount

theorem resolves_iff_refers (hfs : ∀ f ∈ fs, f.Regular) (reference : Template.Reference) :
    Route.Resolves (ofFrames fs) reference ↔ Refers fs reference := by
  cases reference with
  | placeholder name =>
    rw [Route.Resolves, getElem?_placeholders hfs, Option.isSome_map, isSome_lastGroup]
    rfl
  | capture k n => exact Iff.rfl

/-- The path of a chain compiles, and its groups are those of the path conditions. -/
theorem parse?_path (hfs : ∀ f ∈ fs, f.Regular) {source : String}
    (h : (ofFrames fs).conditions[Key.path]? = some source) :
    ∃ regex, parse? source = some regex ∧ regex.groupCount = (ofFrames fs).pathGroups := by
  obtain ⟨s, hs⟩ := exists_shape hfs
  rcases hs.condition with hsome | ⟨hnone, -⟩
  · obtain rfl := Option.some.inj (h.symm.trans hsome)
    refine ⟨s.regex, Shape.parse?_pattern hs.tidy, ?_⟩
    rw [Shape.groupCount_regex, pathGroups_ofFrames hfs, ← hs.pieces,
      Shape.countP_opensGroup_pieces]
  · rw [hnone] at h
    cases h

/-- The parenthesis into which the last placeholder of a name has been expanded. -/
theorem exists_lexemes_path (hfs : ∀ f ∈ fs, f.Regular) {name : List Char}
    {before after : List Piece} (h : pathPieces fs = before ++ .token (some name) :: after) :
    ∃ source ls ls' b, (ofFrames fs).conditions[Key.path]? = some source ∧
      lexemes? source.toList = some (ls ++ Shape.openLexeme :: ls') ∧
      ls.flatMap (·.text) = '^' :: before.flatMap (·.expanded Shape.placeholderText) ∧
      (ls.map (·.token)).foldlM Builder.step? {} = some b ∧
      b.groups = before.countP (·.opensGroup) := by
  obtain ⟨s, hs⟩ := exists_shape hfs
  rcases hs.condition with hsome | ⟨-, rfl⟩
  · obtain ⟨ls, ls', b, h⟩ := Shape.exists_lexemes_pattern hs.tidy (hs.pieces.trans h)
    exact ⟨_, ls, ls', b, hsome, h⟩
  · have hnil := hs.pieces.trans h
    simp [Shape.pieces] at hnil

end Chain

namespace Template

theorem references_nil : references [] = [] := by rw [references]

/-- The parameter that reads a placeholder is one reference. -/
theorem references_reading {name : String} (h : Identifier.isIdentifier name.toList = true) :
    references (Node.reading name).toList = [.inr (.placeholder name)] := by
  -- The whole name is read as an identifier, and nothing follows it that could be an index.
  have hread := Identifier.read?_of_isIdentifier h
  have href : reference? (':' :: name.toList) = some (.placeholder name, []) := by
    simp [reference?, hread, bracket?]
  rw [Node.reading, String.toList_append]
  change references (':' :: name.toList) = _
  rw [references]
  split
  · next htoken =>
    obtain ⟨rfl, rfl⟩ := Prod.mk.inj (Option.some.inj (href.symm.trans htoken))
    rw [references_nil]
  · next hnone =>
    rw [href] at hnone
    cases hnone

/-- The parameter that reads a placeholder has one piece. -/
theorem parse_reading {param name : String} {placeholders : String → Option (Key × Nat)}
    {groups : Key → Option Nat} {k : Key} {n : Nat}
    (h : Identifier.isIdentifier name.toList = true) (hname : placeholders name = some (k, n)) :
    parse param (Node.reading name) placeholders groups = .ok ⟨[.capture k n]⟩ := by
  have hpart : ofRun param placeholders groups (.inr (.placeholder name)) = .ok (.capture k n) := by
    simp [ofRun, resolve, hname]
  rw [parse, references_reading h, except_bind_eq_ok]
  exact ⟨_, mapM_cons_eq_ok.mpr ⟨_, [], hpart, rfl, rfl⟩, rfl⟩

end Template

namespace Route

variable {fs : List Frame} {decision : Option Decision} {isDefault : Bool} {r : Route}

/-- A parameter whose value is a placeholder reads the group of that placeholder. -/
theorem getElem?_resolved_group (hfs : ∀ f ∈ fs, f.Regular)
    (hr : build (Chain.ofFrames fs) decision isDefault = .ok r) {key name : String} {i : Nat}
    (hvalue : (Chain.ofFrames fs).params[key]? = some (Node.reading name))
    (hgroup : lastGroup name.toList (Chain.pathPieces fs) = some i) (captured : Captured) :
    (r.resolved {} captured)[key]? =
      (groupText captured .path i).or (if key = "action" then some "index" else none) := by
  obtain ⟨tests, params, htests, hparams, rfl⟩ := build_eq_ok_iff.mp hr
  obtain ⟨s, hs⟩ := Chain.exists_shape hfs
  have hidentifier : Identifier.isIdentifier name.toList = true :=
    hs.identifiers _ (isSome_lastGroup.mp (by rw [hgroup]; rfl))
  have hplaceholder : (Chain.ofFrames fs).placeholders[name]? = some (Key.path, i) := by
    rw [Chain.getElem?_placeholders hfs, hgroup, Option.map_some]
  have hmem := (mem_params hparams).mpr
    ⟨_, hvalue, Template.parse_reading hidentifier hplaceholder⟩
  refine (getElem?_resolved (pairwise_params hparams) hmem).trans ?_
  by_cases hkey : key = "action" <;> simp [paramValue, Template.render, Template.capture?, hkey]

/-- A parameter whose value is a placeholder reads the group of the last one of that name. -/
theorem getElem?_resolved_reading (hfs : ∀ f ∈ fs, f.Regular)
    (hr : build (Chain.ofFrames fs) decision isDefault = .ok r) {key name : String}
    (hvalue : (Chain.ofFrames fs).params[key]? = some (Node.reading name))
    {before after : List Piece}
    (hsplit : Chain.pathPieces fs = before ++ .token (some name.toList) :: after)
    (hafter : .token (some name.toList) ∉ after) (captured : Captured) :
    (r.resolved {} captured)[key]? =
      (groupText captured .path (before.countP (·.opensGroup) + 1)).or
        (if key = "action" then some "index" else none) :=
  getElem?_resolved_group hfs hr hvalue (lastGroup_split hsplit hafter) captured

/-- The capture indexes of a chain. The route is built exactly if every other condition compiles and
every reference of a parameter finds something. The path then has as many groups as all path
conditions together. In a match, a parameter whose value is a placeholder has the text of the group
whose parenthesis the parser reads where the last placeholder of that name stood, and is absent if
that group took no part in the match; only the action then falls back to the default action. -/
theorem build_reads_path (hfs : ∀ f ∈ fs, f.Regular) (decision : Option Decision)
    (isDefault : Bool) :
    ((∃ r, build (Chain.ofFrames fs) decision isDefault = .ok r) ↔
      (∀ (k : Key) source, k ≠ .path → (Chain.ofFrames fs).conditions[k]? = some source →
        (parse? source).isSome = true) ∧
      ∀ (name value : String), (Chain.ofFrames fs).params[name]? = some value →
        ∀ reference, .inr reference ∈ Template.references value.toList →
          Chain.Refers fs reference) ∧
    ∀ r, build (Chain.ofFrames fs) decision isDefault = .ok r →
      (∀ t ∈ r.tests, t.key = .path →
        t.groups = ((Chain.ofFrames fs).map Node.pathGroups).sum) ∧
      ∀ (q : Request) captured,
        captured? r.tests ({} : Options).caseInsensitiveMethod q = some captured →
        (decision = none → r.match? {} q = some (r.resolved {} captured)) ∧
        ∀ (key name : String) before after,
          (Chain.ofFrames fs).params[key]? = some (Node.reading name) →
          Chain.pathPieces fs = before ++ .token (some name.toList) :: after →
          .token (some name.toList) ∉ after →
          ∃ source ls ls' b, (Chain.ofFrames fs).conditions[Key.path]? = some source ∧
            lexemes? source.toList = some (ls ++ Shape.openLexeme :: ls') ∧
            ls.flatMap (·.text) = '^' :: before.flatMap (·.expanded Shape.placeholderText) ∧
            (ls.map (·.token)).foldlM Builder.step? {} = some b ∧
            (r.resolved {} captured)[key]? = (groupText captured .path (b.groups + 1)).or
              (if key = "action" then some "index" else none) := by
  refine ⟨?_, fun r hr => ⟨fun t ht hkey => ?_, fun q captured hcaptured => ⟨?_, ?_⟩⟩⟩
  · rw [exists_build_iff]
    simp only [Chain.resolves_iff_refers hfs]
    -- The path always compiles, so it need not be asked for.
    refine and_congr_left fun _ => ⟨fun h k source _ => h k source, fun h k source hsource => ?_⟩
    by_cases hk : k = .path
    · subst hk
      obtain ⟨regex, hregex, -⟩ := Chain.parse?_path hfs hsource
      rw [hregex]
      rfl
    · exact h k source hk hsource
  · obtain ⟨tests, params, htests, -, rfl⟩ := build_eq_ok_iff.mp hr
    obtain ⟨hcondition, hregex⟩ := (mem_tests htests).mp ht
    rw [hkey] at hcondition
    obtain ⟨regex, hregex', hgroups⟩ := Chain.parse?_path hfs hcondition
    obtain rfl := Option.some.inj (hregex.symm.trans hregex')
    rw [← Chain.pathGroups_eq_sum, ← hgroups]
    rfl
  · rintro rfl
    obtain ⟨tests, params, -, -, rfl⟩ := build_eq_ok_iff.mp hr
    unfold match?
    rw [hcaptured]
    rfl
  · intro key name before after hvalue hsplit hafter
    obtain ⟨source, ls, ls', b, hsource, hlexemes, htext, hb, hgroups⟩ :=
      Chain.exists_lexemes_path hfs hsplit
    refine ⟨source, ls, ls', b, hsource, hlexemes, htext, hb, ?_⟩
    rw [hgroups]
    exact getElem?_resolved_reading hfs hr hvalue hsplit hafter captured

/-- A member of a resource that stands below another placeholder of the same name. -/
def shopMember : List Frame :=
  [{ conditions := (Conditions.ofPath (.pattern "^/:id(\\.:format)?$")).insert .method
      (.ofMethod .get) },
    { conditions := .ofPath (.literal "/shops/:id/items") },
    { params := (∅ : Params).insert "action" "index" }]

theorem regular_shopMember : ∀ f ∈ shopMember, f.Regular := by
  have hmember : (Condition.pattern "^/:id(\\.:format)?$").Declared :=
    @Condition.Declared.plural "items" _ "show" .get {} rfl (by decide)
  have hmethod : (Condition.ofMethod .get).IsPlain := by decide +kernel
  simp only [shopMember, List.forall_mem_cons]
  refine ⟨?_, Frame.regular_ofPath (.literal _), Frame.regular_of_params _, nofun⟩
  exact (Frame.regular_ofPath hmember).insert (by decide) hmethod

/-- The groups of the member's path: one for each placeholder, and one for the optional format. -/
theorem build_reads_path_shopMember : (∀ f ∈ shopMember, f.Regular) ∧
    ∃ r, build (Chain.ofFrames shopMember) none false = .ok r ∧
      ∀ t ∈ r.tests, t.key = .path → t.groups = 4 := by
  have hbuilt : (build (Chain.ofFrames shopMember) none false).toOption.isSome = true := by
    decide +kernel
  have hsum : ((Chain.ofFrames shopMember).map Node.pathGroups).sum = 4 := by decide +kernel
  refine ⟨regular_shopMember, ?_⟩
  cases hr : build (Chain.ofFrames shopMember) none false with
  | error e =>
    rw [hr] at hbuilt
    cases hbuilt
  | ok r =>
    refine ⟨r, rfl, fun t ht hkey => ?_⟩
    have hgroups := ((build_reads_path regular_shopMember none false).2 r hr).1 t ht hkey
    rwa [hsum] at hgroups

/-- A path whose host is no pattern. -/
def unbalancedHost : List Frame :=
  [{ conditions := (Conditions.ofPath (.literal "/a")).insert (.attr "host") (.pattern "(") },
    { params := (∅ : Params).insert "action" "index" }]

/-- A route is not built if one of its other conditions does not compile. -/
theorem build_fails_unbalancedHost : (∀ f ∈ unbalancedHost, f.Regular) ∧
    ¬∃ r, build (Chain.ofFrames unbalancedHost) none false = .ok r := by
  refine ⟨?_, ?_⟩
  · have hhost : (Condition.pattern "(").IsPlain := by decide +kernel
    simp only [unbalancedHost, List.forall_mem_cons]
    exact ⟨(Frame.regular_ofPath (.literal _)).insert (by decide) hhost,
      Frame.regular_of_params _, nofun⟩
  · rintro ⟨r, hr⟩
    have hbuilt : (build (Chain.ofFrames unbalancedHost) none false).toOption.isSome = false := by
      decide +kernel
    rw [hr] at hbuilt
    cases hbuilt

end Route

end HttpRouting
