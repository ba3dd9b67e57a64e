import HttpRouting.Proofs.ResourceRoutes
import HttpRouting.Proofs.Singulars

/-!
# The table of a plural resource

A plural resource without options answers eight kinds of requests and no others. Which of them a
request is follows from its method and from the stem of its path; only the path of the form to
create a member could as well be that of a member, and there the earlier route decides. A resource
whose name has a singular of its own can always be declared, since its five names are distinct.

## Main definitions

* `PluralServes` — the requests that a plural resource answers, with the answers
* `pluralKey` — the index and the identifier of an answer, as they follow from the stem of a path

## Main results

* `nodup_standardLinks` — the names of a plural resource are distinct
* `PluralServes.unique` — there is one answer to a request
* `Router.plural_table_exact` — the table of a plural resource
-/

namespace HttpRouting

open Shape

/-! ### Names -/

section Singular

variable {w : String} {p q : String}

theorem append_ne_of_length (hp : 3 < p.toList.length) (h : isWord w = true) :
    p ++ singularize w ≠ w := by
  have hne : w.toList ≠ [] := (isPart_of_isWord h).1
  intro heq
  have hlength := congrArg (fun t : String => t.toList.length) heq
  have hsingular := (length_singularChars hne).1
  simp only [singularize, String.toList_append, String.toList_ofList, List.length_append] at hlength
  omega

theorem append_ne_self (hp : p ≠ "") (s : String) : p ++ s ≠ s := by
  intro heq
  have hlength := congrArg (fun t : String => t.toList.length) heq
  have hpos := List.length_pos_iff.mpr (mt String.toList_eq_nil_iff.mp hp)
  simp only [String.toList_append, List.length_append] at hlength
  omega

theorem append_ne_append (h : p.toList.head? ≠ q.toList.head?) (hp : p ≠ "") (hq : q ≠ "")
    (s t : String) : p ++ s ≠ q ++ t := by
  intro heq
  have hhead := congrArg (fun u : String => u.toList.head?) heq
  obtain ⟨a, as, ha⟩ := List.exists_cons_of_ne_nil (mt String.toList_eq_nil_iff.mp hp)
  obtain ⟨b, bs, hb⟩ := List.exists_cons_of_ne_nil (mt String.toList_eq_nil_iff.mp hq)
  simp only [String.toList_append, ha, hb, List.cons_append, List.head?_cons] at hhead h
  exact h hhead

/-- The names of a plural resource are distinct, if it has a singular of its own. -/
theorem nodup_standardLinks (hw : isWord w = true) (hs : singularize w ≠ w) :
    ((standardLinks w (singularize w)).map (·.name)).Nodup ∧
      ∀ name ∈ (standardLinks w (singularize w)).map (·.name), name ≠ "" := by
  have hwne := ne_empty_of_isWord hw
  have hsne : singularize w ≠ "" := by
    rw [Ne, ← String.toList_eq_nil_iff, singularize, String.toList_ofList]
    exact (length_singularChars (isPart_of_isWord hw).1).2
  simp only [standardLinks, Behavior.pluralNames, List.map_cons, List.map_nil, standardLink]
  constructor
  · simp only [List.nodup_cons, List.mem_cons, List.not_mem_nil, not_or, or_false,
      not_false_eq_true, List.nodup_nil, and_true]
    refine ⟨⟨hs.symm, ?_, ?_, ?_⟩, ⟨?_, ?_, ?_⟩, ⟨?_, ?_⟩, ?_⟩
    · exact (append_ne_of_length (by decide) hw).symm
    · exact (append_ne_of_length (by decide) hw).symm
    · exact (append_ne_of_length (by decide) hw).symm
    · exact (append_ne_self (by decide) _).symm
    · exact (append_ne_self (by decide) _).symm
    · exact (append_ne_self (by decide) _).symm
    · exact append_ne_append (by decide) (by decide) (by decide) _ _
    · exact append_ne_append (by decide) (by decide) (by decide) _ _
    · exact append_ne_append (by decide) (by decide) (by decide) _ _
  · simp [hwne, hsne]

/-- A pass that starts with such a resource finds all its names free. -/
theorem free_resourceLinks (hw : isWord w = true) (hs : singularize w ≠ w) :
    Registry.Free { options := {} } (((resourceLinks w (singularize w) [] []).map fun l =>
      (l.name, l.route (resourceFrames w) w)).map (·.1)) := by
  obtain ⟨hnodup, hne⟩ := nodup_standardLinks hw hs
  exact Router.free_fresh_iff.mpr ⟨by rwa [List.map_map], by rwa [List.map_map]⟩

end Singular

/-! ### Paths -/

/-- A format as it stands at the end of a path. -/
def dotted (fmt : Option String) : String :=
  match fmt with
  | some f => "." ++ f
  | none => ""

/-- The path of a collection, with a slash behind it or not. -/
structure AtCollection (w path : String) (fmt : Option String) : Prop where
  /-- A format is a part of a path. -/
  format : ∀ f ∈ fmt, IsPart f.toList
  /-- The path of the collection. -/
  path : path = "/" ++ w ++ dotted fmt ∨ path = "/" ++ w ++ "/" ++ dotted fmt

/-- The path of a member. -/
structure AtMember (w path i : String) (fmt : Option String) : Prop where
  /-- An identifier is a part of a path. -/
  id : IsPart i.toList
  /-- A format is a part of a path. -/
  format : ∀ f ∈ fmt, IsPart f.toList
  /-- The path of the member. -/
  path : path = "/" ++ w ++ "/" ++ i ++ dotted fmt

/-- The path of an action below a member, or behind a semicolon. -/
structure BelowMember (w path i action : String) : Prop where
  /-- An identifier is a part of a path. -/
  id : IsPart i.toList
  /-- The path of the action. -/
  path : path = "/" ++ w ++ "/" ++ i ++ "/" ++ action ∨
    path = "/" ++ w ++ "/" ++ i ++ ";" ++ action

/-- What a plural resource answers to a method, in small letters, at a path: the index of its route
and the parameters. -/
inductive PluralServes (w : String) : String → String → Nat → Params → Prop where
  /-- The collection. -/
  | index {path : String} {fmt : Option String} (h : AtCollection w path fmt) :
      PluralServes w "get" path 0 (answer w "index" none fmt)
  /-- The form to create a member. -/
  | new : PluralServes w "get" ("/" ++ w ++ "/new") 1 (answer w "new" none none)
  /-- Creates a member. -/
  | create {path : String} {fmt : Option String} (h : AtCollection w path fmt) :
      PluralServes w "post" path 2 (answer w "create" none fmt)
  /-- A member, except where the form to create one is. -/
  | show {path i : String} {fmt : Option String} (h : AtMember w path i fmt)
      (hnew : path ≠ "/" ++ w ++ "/new") :
      PluralServes w "get" path 3 (answer w "show" (some i) fmt)
  /-- The form to edit a member. -/
  | edit {path i : String} (h : BelowMember w path i "edit") :
      PluralServes w "get" path 4 (answer w "edit" (some i) none)
  /-- The form to delete a member. -/
  | delete {path i : String} (h : BelowMember w path i "delete") :
      PluralServes w "get" path 5 (answer w "delete" (some i) none)
  /-- Updates a member. -/
  | update {path i : String} {fmt : Option String} (h : AtMember w path i fmt) :
      PluralServes w "put" path 6 (answer w "update" (some i) fmt)
  /-- Destroys a member. -/
  | destroy {path i : String} {fmt : Option String} (h : AtMember w path i fmt) :
      PluralServes w "delete" path 7 (answer w "destroy" (some i) fmt)

section Paths

variable {w path a : String} {id fmt : Option String}

theorem toList_dotted (fmt : Option String) :
    (dotted fmt).toList = formatText (fmt.map String.toList) := by
  cases fmt with
  | none => rfl
  | some f => simp [dotted, formatText]

theorem forall_isPart_iff : (∀ f ∈ fmt.map String.toList, IsPart f) ↔
    ∀ f ∈ fmt, IsPart f.toList := by
  cases fmt <;> simp

theorem reaches_collection_iff :
    ResourcePath.collection.Reaches w path id fmt ↔ id = none ∧ AtCollection w path fmt := by
  constructor
  · rintro ⟨s, ⟨hstem, hformat, -⟩, hpath⟩
    rcases id with - | id
    · refine ⟨rfl, forall_isPart_iff.mp hformat, ?_⟩
      rw [← toList_dotted] at hpath
      rw [← String.toList_inj, ← String.toList_inj]
      cases hstem with
      | collection => exact .inl (by simp [hpath, Stem.text])
      | slash => exact .inr (by simp [hpath, Stem.text])
    · cases hstem
  · rintro ⟨rfl, hformat, hpath⟩
    have hcovers : ∀ s, ResourcePath.collection.HasStem none s →
        ResourcePath.collection.Covers none (fmt.map String.toList) s :=
      fun s hs => ⟨hs, forall_isPart_iff.mpr hformat, fun _ => rfl⟩
    rcases hpath with rfl | rfl
    · exact ⟨_, hcovers _ .collection, by simp [toList_dotted, Stem.text]⟩
    · exact ⟨_, hcovers _ .slash, by simp [toList_dotted, Stem.text]⟩

theorem reaches_only_iff : (ResourcePath.only a).Reaches w path id fmt ↔
    id = none ∧ fmt = none ∧ path = "/" ++ w ++ "/" ++ a := by
  constructor
  · rintro ⟨s, ⟨hstem, -, hformat⟩, hpath⟩
    rcases id with - | id
    · rcases fmt with - | f
      · cases hstem
        exact ⟨rfl, rfl, String.toList_inj.mp (by simp [hpath, Stem.text, formatText])⟩
      · cases hformat rfl
    · cases hstem
  · rintro ⟨rfl, rfl, rfl⟩
    exact ⟨_, .of_stem (.only a), by simp [Stem.text, formatText]⟩

theorem reaches_member_iff : ResourcePath.member.Reaches w path id fmt ↔
    ∃ i, id = some i ∧ AtMember w path i fmt := by
  constructor
  · rintro ⟨s, ⟨hstem, hformat, -⟩, hpath⟩
    rcases id with - | i
    · cases hstem
    · cases hstem with
      | member hi =>
        refine ⟨i, rfl, hi, forall_isPart_iff.mp hformat, ?_⟩
        rw [← toList_dotted] at hpath
        exact String.toList_inj.mp (by simp [hpath, Stem.text])
  · rintro ⟨i, rfl, hi, hformat, rfl⟩
    exact ⟨_, ⟨.member hi, forall_isPart_iff.mpr hformat, fun _ => rfl⟩,
      by simp [toList_dotted, Stem.text]⟩

theorem reaches_either_iff : (ResourcePath.either a).Reaches w path id fmt ↔
    ∃ i, id = some i ∧ fmt = none ∧ BelowMember w path i a := by
  constructor
  · rintro ⟨s, ⟨hstem, -, hformat⟩, hpath⟩
    rcases id with - | i
    · cases hstem
    · rcases fmt with - | f
      · cases hstem with
        | either hi hc =>
          refine ⟨i, rfl, rfl, hi, ?_⟩
          rw [← String.toList_inj, ← String.toList_inj]
          rcases hc with rfl | rfl
          · exact .inr (by simp [hpath, Stem.text, formatText])
          · exact .inl (by simp [hpath, Stem.text, formatText])
      · cases hformat rfl
  · rintro ⟨i, rfl, rfl, hi, rfl | rfl⟩
    · exact ⟨_, .of_stem (.either hi (.inr rfl) a), by simp [Stem.text, formatText]⟩
    · exact ⟨_, .of_stem (.either hi (.inl rfl) a), by simp [Stem.text, formatText]⟩

end Paths

/-! ### The table -/

/-- The index of the route that answers a method at a path with a stem and a format, and the
identifier that it reads. -/
def pluralKey (method : String) (fmt : Option (List Char)) : Stem → Nat × Option (List Char)
  | [] => (if method = "get" then 0 else 2, none)
  | [(_, v)] =>
    if v = [] then (if method = "get" then 0 else 2, none)
    else if method = "put" then (6, some v)
    else if method = "delete" then (7, some v)
    else if v = "new".toList ∧ fmt = none then (1, none) else (3, some v)
  | (_, v) :: (_, a) :: _ => (if a = "edit".toList then 4 else 5, some v)

section Table

variable {w path : String} {method : String} {n n' : Nat} {ps ps' : Params}

theorem append_new (w : String) : "/" ++ w ++ "/" ++ "new" = "/" ++ w ++ "/new" :=
  String.append_assoc

/-- A plural resource answers where a standard action leads and its method is asked for, except that
the form to create a member is no member. -/
theorem pluralServes_iff : PluralServes w method path n ps ↔
    ∃ a id fmt, standardActions[n]? = some a ∧ a.2.1.token = method ∧ a.1.Reaches w path id fmt ∧
      ps = answer w a.2.2 id fmt ∧ (n = 3 → path ≠ "/" ++ w ++ "/new") := by
  -- One case for each of the eight standard actions.
  constructor
  · intro h
    cases h with
    | index h => exact ⟨_, _, _, rfl, rfl, reaches_collection_iff.mpr ⟨rfl, h⟩, rfl, nofun⟩
    | new => exact ⟨_, _, _, rfl, rfl, reaches_only_iff.mpr ⟨rfl, rfl, (append_new w).symm⟩, rfl,
        nofun⟩
    | create h => exact ⟨_, _, _, rfl, rfl, reaches_collection_iff.mpr ⟨rfl, h⟩, rfl, nofun⟩
    | «show» h hnew =>
      exact ⟨_, _, _, rfl, rfl, reaches_member_iff.mpr ⟨_, rfl, h⟩, rfl, fun _ => hnew⟩
    | edit h => exact ⟨_, _, _, rfl, rfl, reaches_either_iff.mpr ⟨_, rfl, rfl, h⟩, rfl, nofun⟩
    | delete h => exact ⟨_, _, _, rfl, rfl, reaches_either_iff.mpr ⟨_, rfl, rfl, h⟩, rfl, nofun⟩
    | update h => exact ⟨_, _, _, rfl, rfl, reaches_member_iff.mpr ⟨_, rfl, h⟩, rfl, nofun⟩
    | destroy h => exact ⟨_, _, _, rfl, rfl, reaches_member_iff.mpr ⟨_, rfl, h⟩, rfl, nofun⟩
  · rintro ⟨a, id, fmt, ha, rfl, hreaches, rfl, hnew⟩
    match n, ha with
    | 0, ha =>
      obtain rfl := Option.some.inj ha
      obtain ⟨rfl, h⟩ := reaches_collection_iff.mp hreaches
      exact .index h
    | 1, ha =>
      obtain rfl := Option.some.inj ha
      obtain ⟨rfl, rfl, rfl⟩ := reaches_only_iff.mp hreaches
      rw [append_new]
      exact .new
    | 2, ha =>
      obtain rfl := Option.some.inj ha
      obtain ⟨rfl, h⟩ := reaches_collection_iff.mp hreaches
      exact .create h
    | 3, ha =>
      obtain rfl := Option.some.inj ha
      obtain ⟨i, rfl, h⟩ := reaches_member_iff.mp hreaches
      exact .show h (hnew rfl)
    | 4, ha =>
      obtain rfl := Option.some.inj ha
      obtain ⟨i, rfl, rfl, h⟩ := reaches_either_iff.mp hreaches
      exact .edit h
    | 5, ha =>
      obtain rfl := Option.some.inj ha
      obtain ⟨i, rfl, rfl, h⟩ := reaches_either_iff.mp hreaches
      exact .delete h
    | 6, ha =>
      obtain rfl := Option.some.inj ha
      obtain ⟨i, rfl, h⟩ := reaches_member_iff.mp hreaches
      exact .update h
    | 7, ha =>
      obtain rfl := Option.some.inj ha
      obtain ⟨i, rfl, h⟩ := reaches_member_iff.mp hreaches
      exact .destroy h

/-- The index and the identifier follow from the method, the stem and the format. -/
theorem pluralKey_of_covers {a : ResourcePath × Method × String} {id fmt : Option (List Char)}
    {s : Stem} (ha : standardActions[n]? = some a) (h : a.1.Covers id fmt s)
    (hnew : n = 3 → ¬(s = [('/', "new".toList)] ∧ fmt = none)) :
    pluralKey a.2.1.token fmt s = (n, id) := by
  obtain ⟨hstem, -, hformat⟩ := h
  -- Actions that share a stem ask for different methods, and the two that are behind a member have
  -- different words. Only the form to create a member lies on the stem of a member.
  match n, ha with
  | 0, ha =>
    obtain rfl := Option.some.inj ha
    cases hstem <;> rfl
  | 1, ha =>
    obtain rfl := Option.some.inj ha
    cases hstem
    cases fmt with
    | none => rfl
    | some f => cases hformat rfl
  | 2, ha =>
    obtain rfl := Option.some.inj ha
    cases hstem <;> rfl
  | 3, ha =>
    obtain rfl := Option.some.inj ha
    cases hstem with
    | @member i hi =>
      have hmember : ¬(i = "new".toList ∧ fmt = none) :=
        fun heq => hnew rfl ⟨by rw [heq.1], heq.2⟩
      rw [pluralKey, if_neg hi.1, if_neg (by decide), if_neg (by decide), if_neg hmember]
  | 4, ha =>
    obtain rfl := Option.some.inj ha
    cases hstem
    rfl
  | 5, ha =>
    obtain rfl := Option.some.inj ha
    cases hstem
    rfl
  | 6, ha =>
    obtain rfl := Option.some.inj ha
    cases hstem with
    | member hi => rw [pluralKey, if_neg hi.1, if_pos (by decide)]
  | 7, ha =>
    obtain rfl := Option.some.inj ha
    cases hstem with
    | member hi => rw [pluralKey, if_neg hi.1, if_neg (by decide), if_pos (by decide)]

theorem accepted_of_getElem? {a : ResourcePath × Method × String}
    (ha : standardActions[n]? = some a) : (standardRoute a).Accepted :=
  accepted_standardRoutes _ (List.mem_map_of_mem (List.mem_of_getElem? ha))

/-- There is at most one answer to a method at a path. -/
theorem PluralServes.unique (hw : isWord w = true) (h : PluralServes w method path n ps)
    (h' : PluralServes w method path n' ps') : n = n' ∧ ps = ps' := by
  obtain ⟨a, id, fmt, ha, rfl, hreaches, rfl, hnew⟩ := pluralServes_iff.mp h
  obtain ⟨a', id', fmt', ha', hmethod, hreaches', rfl, hnew'⟩ := pluralServes_iff.mp h'
  obtain ⟨rfl, s, hs, hs', hpath⟩ := hreaches.exists_common hw (accepted_of_getElem? ha).path
    (accepted_of_getElem? ha').path hreaches'
  have hform : path ≠ "/" ++ w ++ "/new" →
      ¬(s = [('/', "new".toList)] ∧ fmt.map String.toList = none) := by
    rintro hne ⟨rfl, hnone⟩
    refine hne (String.toList_inj.mp ?_)
    simp [hpath, hnone, Stem.text, formatText]
  have hkey := pluralKey_of_covers ha hs fun h3 => hform (hnew h3)
  have hkey' := pluralKey_of_covers ha' hs' fun h3 => hform (hnew' h3)
  rw [hmethod] at hkey'
  obtain ⟨rfl, hid⟩ := Prod.mk.inj (hkey.symm.trans hkey')
  obtain rfl := Option.some.inj (ha.symm.trans ha')
  obtain rfl := Option.map_injective (fun _ _ => String.toList_inj.mp) hid
  exact ⟨rfl, rfl⟩

variable {t : Table} {q : Request}

/-- A standard route matches where it leads to, if its method is asked for. -/
theorem isSome_match?_standardRoute (hw : isWord w = true) {a : ResourcePath × Method × String}
    (ha : standardActions[n]? = some a) :
    (((standardRoute a).route (resourceFrames w) w).match? {} q).isSome = true ↔
      (∃ id fmt, a.1.Reaches w q.path id fmt) ∧ q.subject true .method = a.2.1.token := by
  rw [ResourceRoute.isSome_match?_iff hw (accepted_of_getElem? ha), standardRoute,
    Condition.accepts_ofMethod]

/-- The first of the standard routes that matches gives the answer. -/
theorem match?_standard_iff (hw : isWord w = true)
    (hmatchers : t.matchers = standardActions.map fun a =>
      ((standardRoute a).route (resourceFrames w) w).match? {}) :
    t.match? q = some (n, ps) ↔
      PluralServes w (q.subject true .method) q.path n ps := by
  have hmatch : ∀ {n ps}, t.match? q = some (n, ps) →
      PluralServes w (q.subject true .method) q.path n ps := by
    intro n ps h
    obtain ⟨k, m, hk, hm, hps, hbefore⟩ := Table.firstMatch?_eq_some h
    obtain rfl : n = k := by omega
    rw [hmatchers, List.getElem?_map] at hm
    obtain ⟨a, ha, rfl⟩ := Option.map_eq_some_iff.mp hm
    have hmethod := ((isSome_match?_standardRoute hw ha).mp (by rw [hps]; rfl)).2
    obtain ⟨id, fmt, hreaches, rfl⟩ :=
      ResourceRoute.exists_reaches_of_match? hw (accepted_of_getElem? ha) hps
    refine pluralServes_iff.mpr ⟨a, id, fmt, ha, hmethod.symm, hreaches, rfl, ?_⟩
    -- The route of the form to create a member comes before that of a member.
    rintro rfl hnew
    obtain rfl := Option.some.inj ha
    have hform : standardActions[1]? = some (.only "new", .get, "new") := rfl
    have hnone := hbefore 1 (by decide) _ (by rw [hmatchers, List.getElem?_map, hform]; rfl)
    have hsome := (isSome_match?_standardRoute (q := q) hw hform).mpr
      ⟨⟨none, none, reaches_only_iff.mpr ⟨rfl, rfl, hnew.trans (append_new w).symm⟩⟩, hmethod⟩
    cases hsome.symm.trans (congrArg Option.isSome hnone)
  refine ⟨hmatch, fun h => ?_⟩
  obtain ⟨a, id, fmt, ha, hmethod, hreaches, -⟩ := pluralServes_iff.mp h
  have hsome := (isSome_match?_standardRoute hw ha).mpr ⟨⟨id, fmt, hreaches⟩, hmethod.symm⟩
  cases hanswer : t.match? q with
  | none =>
    have hmem : ((standardRoute a).route (resourceFrames w) w).match? {} ∈ t.matchers := by
      rw [hmatchers]
      exact List.mem_map_of_mem (List.mem_of_getElem? ha)
    rw [Table.firstMatch?_eq_none hanswer _ hmem] at hsome
    cases hsome
  | some answer =>
    obtain ⟨rfl, rfl⟩ := (hmatch hanswer).unique hw h
    rfl

end Table

namespace Router

/-- The table of a plural resource is exact. On a default router, the pass that only declares a
plural resource succeeds if the name of the resource is a word with a singular of its own, and the
table then answers to a request, whose method is read in small letters, what `PluralServes` says and
nothing else. -/
theorem plural_table_exact {w : String} (hw : isWord w = true) (hs : singularize w ≠ w) :
    ∃ t, Yields { options := {} } [(.replace, .resources w {} .skip)] t ∧
      ∀ (q : Request) (n : Nat) (ps : Params), t.match? q = some (n, ps) ↔
        PluralServes w (String.ofList (q.method.toList.map Char.toLower)) q.path n ps := by
  have hchecks : ResourceChecks w [] [] := ⟨hw, rfl, rfl⟩
  obtain ⟨hnodup, hne⟩ := nodup_standardLinks hw hs
  obtain ⟨t, hyields, hoffers⟩ := exists_yields_of_declares
    (Behavior.declares_resources hchecks) Declaration.runPass_resources_iff
    (by rwa [List.map_map]) (by rwa [List.map_map])
  refine ⟨t, hyields, fun q n ps => match?_standard_iff hw ?_⟩
  rw [hoffers.matchers, List.map_map]
  rfl

/-- Posts have a table, and a member of it is shown in a format. -/
theorem plural_table_exact_posts : isWord "posts" = true ∧ singularize "posts" ≠ "posts" ∧
    ∃ t, Yields { options := {} } [(.replace, .resources "posts" {} .skip)] t ∧
      ∀ q : Request, q.method = "GET" → q.path = "/posts/7.json" →
        t.match? q = some (3, answer "posts" "show" (some "7") (some "json")) := by
  have hw : isWord "posts" = true := by decide
  have hs : singularize "posts" ≠ "posts" := by decide +kernel
  obtain ⟨t, hyields, hmatch⟩ := plural_table_exact hw hs
  refine ⟨hw, hs, t, hyields, fun q hmethod hpath => (hmatch q 3 _).mpr ?_⟩
  have hlower : String.ofList ("GET".toList.map Char.toLower) = "get" := by decide
  rw [hmethod, hlower, hpath]
  exact .show ⟨by decide, by decide, by decide⟩ (by decide)

end Router

end HttpRouting
