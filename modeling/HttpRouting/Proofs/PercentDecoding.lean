import HttpRouting.Query
import HttpRouting.Regex.Escape

/-!
# Reading queries

A reader of a URL undoes the encoding. A percent sign and two hexadecimal digits stand for a byte,
every other character for the bytes of its UTF-8 form, and the bytes together have to be the UTF-8
form of a text. A query is split first and decoded afterwards, so an encoded delimiter delimits
nothing.

## Main definitions

* `decodedBytes` — the bytes that an encoded text stands for
* `percentDecode?` — the text that an encoded text stands for
* `readPair?`, `readQuery?` — the names and values in a query

## Main results

* `percentDecode?_percentEncode` — an encoded text is read as it was
* `readQuery?_query` — a query is read as the parameters in it
* `decodedBytes_of_readQuery?` — the bytes of a query, from what is read in it
-/

namespace HttpRouting

/-! ### Encoded text -/

/-- The byte that two hexadecimal digits denote. -/
def byteOfDigits? (a b : Char) : Option UInt8 := do
  return UInt8.ofNat ((← Regex.hexValue? a) * 16 + (← Regex.hexValue? b))

/-- The bytes that an encoded text stands for. A percent sign that two digits do not follow stands
for itself. -/
def decodedBytes : List Char → List UInt8
  | c :: a :: b :: cs =>
    match if c = '%' then byteOfDigits? a b else none with
    | some byte => byte :: decodedBytes cs
    | none => String.utf8EncodeChar c ++ decodedBytes (a :: b :: cs)
  | c :: cs => String.utf8EncodeChar c ++ decodedBytes cs
  | [] => []

/-- The text that an encoded text stands for, if there is one. -/
def percentDecode? (cs : List Char) : Option String :=
  String.fromUTF8? (decodedBytes cs).toByteArray

/-- The bytes of a text in its UTF-8 form. -/
def utf8Bytes (s : String) : List UInt8 := s.toList.flatMap String.utf8EncodeChar

theorem toByteArray_utf8Bytes (s : String) : (utf8Bytes s).toByteArray = s.toByteArray :=
  String.utf8Encode_toList

/-- A text is decoded exactly from its bytes. -/
theorem percentDecode?_eq_some_iff {cs : List Char} {s : String} :
    percentDecode? cs = some s ↔ decodedBytes cs = utf8Bytes s := by
  have hinj : ∀ bs bs' : List UInt8, bs.toByteArray = bs'.toByteArray → bs = bs' := by
    intro bs bs' h
    have hdata := congrArg ByteArray.data h
    rw [List.data_toByteArray, List.data_toByteArray] at hdata
    exact List.toArray_inj hdata
  rw [percentDecode?, String.fromUTF8?, Option.dite_none_right_eq_some]
  constructor
  · rintro ⟨hvalid, heq⟩
    obtain rfl := Option.some.inj heq
    exact hinj _ _ (toByteArray_utf8Bytes (String.fromUTF8 _ hvalid)).symm
  · intro h
    have hbytes := (congrArg List.toByteArray h).trans (toByteArray_utf8Bytes s)
    refine ⟨hbytes ▸ s.isValidUTF8, congrArg some ?_⟩
    rw [← String.toByteArray_inj]
    exact hbytes

theorem decodedBytes_cons_of_ne {c : Char} (hc : c ≠ '%') (cs : List Char) :
    decodedBytes (c :: cs) = String.utf8EncodeChar c ++ decodedBytes cs := by
  match cs with
  | [] | [_] => rfl
  | a :: b :: cs => rw [decodedBytes, if_neg hc]

theorem decodedBytes_percentByte_append (b : UInt8) (cs : List Char) :
    decodedBytes (percentByte b ++ cs) = b :: decodedBytes cs := by
  have hdigit : ∀ n < 16, Regex.hexValue? (hexDigit n) = some n := by decide
  have hlt := b.toNat_lt
  have hbyte : byteOfDigits? (hexDigit (b.toNat / 16)) (hexDigit (b.toNat % 16)) = some b := by
    rw [byteOfDigits?, hdigit _ (by omega), hdigit _ (by omega)]
    exact congrArg some (by rw [Nat.div_add_mod' b.toNat 16, UInt8.ofNat_toNat])
  rw [percentByte, List.cons_append, List.cons_append, List.cons_append, List.nil_append,
    decodedBytes, if_pos rfl, hbyte]

theorem decodedBytes_flatMap_percentByte_append (bs : List UInt8) (cs : List Char) :
    decodedBytes (bs.flatMap percentByte ++ cs) = bs ++ decodedBytes cs := by
  induction bs with
  | nil => rfl
  | cons b bs ih =>
    rw [List.flatMap_cons, List.append_assoc, decodedBytes_percentByte_append, ih, List.cons_append]

section Encode

variable {reserved : Char → Bool} (hpercent : reserved '%' = true)
include hpercent

theorem decodedBytes_percentChar_append (c : Char) (cs : List Char) :
    decodedBytes (percentChar reserved c ++ cs) = String.utf8EncodeChar c ++ decodedBytes cs := by
  rw [percentChar]
  split
  · next hkept =>
    -- A percent sign is not kept, so no kept character starts an encoded byte.
    refine decodedBytes_cons_of_ne (fun hc => ?_) cs
    rw [hc, hpercent] at hkept
    exact absurd hkept (by decide)
  · exact decodedBytes_flatMap_percentByte_append _ cs

theorem decodedBytes_percentEncode_append (s : String) (cs : List Char) :
    decodedBytes ((percentEncode reserved s).toList ++ cs) = utf8Bytes s ++ decodedBytes cs := by
  rw [percentEncode, String.toList_ofList, utf8Bytes]
  induction s.toList with
  | nil => rfl
  | cons c s ih =>
    rw [List.flatMap_cons, List.append_assoc, decodedBytes_percentChar_append hpercent, ih,
      List.flatMap_cons, List.append_assoc]

/-- An encoded text is read as it was, if the percent sign is encoded too. -/
theorem percentDecode?_percentEncode (s : String) :
    percentDecode? (percentEncode reserved s).toList = some s := by
  have happend := decodedBytes_percentEncode_append hpercent s []
  rw [List.append_nil] at happend
  exact percentDecode?_eq_some_iff.mpr (happend.trans (List.append_nil _))

end Encode

/-- No encoded byte goes on across a character that is no digit. -/
theorem decodedBytes_append_cons {c : Char} (hdigit : Regex.hexValue? c = none)
    (cs ds : List Char) :
    decodedBytes (cs ++ c :: ds) = decodedBytes cs ++ decodedBytes (c :: ds) := by
  have hfirst : ∀ a, byteOfDigits? c a = none := fun a => by rw [byteOfDigits?, hdigit]; rfl
  have hsecond : ∀ a, byteOfDigits? a c = none := by
    intro a
    rw [byteOfDigits?, hdigit]
    cases Regex.hexValue? a <;> rfl
  induction cs using decodedBytes.induct with
  | case1 d a b cs byte hbyte ih =>
    simp only [List.cons_append, decodedBytes, hbyte, ih]
  | case2 d a b cs hbyte ih =>
    simp only [List.cons_append] at ih
    simp only [List.cons_append, decodedBytes, hbyte, ih, List.append_assoc]
  | case3 d cs hshort ih =>
    -- At most one character stands before the other one, so a digit is missing.
    match cs with
    | [] =>
      match ds with
      | [] => simp only [List.cons_append, List.nil_append, decodedBytes, List.append_nil]
      | a :: ds =>
        have hnone : (if d = '%' then byteOfDigits? c a else none) = none := by
          rw [hfirst, ite_self]
        rw [List.cons_append, List.nil_append, decodedBytes, hnone]
        simp only [decodedBytes, List.append_nil]
    | [a] =>
      have hnone : (if d = '%' then byteOfDigits? a c else none) = none := by
        rw [hsecond, ite_self]
      simp only [List.cons_append, List.nil_append] at ih
      simp only [List.cons_append, List.nil_append, decodedBytes, hnone, ih, List.append_assoc]
    | a :: b :: cs => exact absurd rfl (hshort a b cs)
  | case4 => rfl

/-! ### What stands in an encoded text -/

/-- The characters of which encoded bytes consist. -/
def escapeChars : List Char := "%0123456789ABCDEF".toList

theorem mem_escapeChars_of_mem_percentByte {b : UInt8} {a : Char} (h : a ∈ percentByte b) :
    a ∈ escapeChars := by
  have hdigit : ∀ n < 16, hexDigit n ∈ escapeChars := by decide
  have hlt := b.toNat_lt
  simp only [percentByte, List.mem_cons, List.not_mem_nil, or_false] at h
  rcases h with rfl | rfl | rfl
  · decide
  · exact hdigit _ (by omega)
  · exact hdigit _ (by omega)

/-- A character of an encoded text belongs to an encoded byte, or is an ASCII character that is not
reserved. -/
theorem mem_percentEncode {reserved : Char → Bool} {s : String} {a : Char}
    (h : a ∈ (percentEncode reserved s).toList) :
    a ∈ escapeChars ∨ (a.toNat < 128 ∧ reserved a = false) := by
  rw [percentEncode, String.toList_ofList] at h
  obtain ⟨c, -, h⟩ := List.mem_flatMap.mp h
  unfold percentChar at h
  split at h
  · next hkept =>
    obtain rfl := List.mem_singleton.mp h
    right
    simpa using hkept
  · obtain ⟨b, -, h⟩ := List.mem_flatMap.mp h
    exact .inl (mem_escapeChars_of_mem_percentByte h)

theorem not_mem_percentEncode {reserved : Char → Bool} {a : Char} (hreserved : reserved a = true)
    (ha : a ∉ escapeChars) (s : String) : a ∉ (percentEncode reserved s).toList := by
  intro hmem
  rcases mem_percentEncode hmem with h | ⟨-, h⟩
  · exact ha h
  · rw [hreserved] at h
    cases h

/-! ### Queries -/

/-- A name and its value, read from a piece of a query: what stands before and behind the first
equals sign. -/
def readPair? (cs : List Char) : Option (String × String) :=
  match cs.dropWhile (· ≠ '=') with
  | [] => none
  | _ :: value => do
    return (← percentDecode? (cs.takeWhile (· ≠ '=')), ← percentDecode? value)

/-- The names and values in a query, split at ampersands. An empty query holds none. -/
def readQuery? (cs : List Char) : Option (List (String × String)) :=
  if cs = [] then some [] else (cs.splitOn '&').mapM readPair?

/-- The bytes of a name and its value with an equals sign between them. -/
def pairBytes (p : String × String) : List UInt8 :=
  utf8Bytes p.1 ++ String.utf8EncodeChar '=' ++ utf8Bytes p.2

/-- The bytes of names and values, joined like a query without being encoded. -/
def queryBytes (ps : List (String × String)) : List UInt8 :=
  (String.utf8EncodeChar '&').intercalate (ps.map pairBytes)

theorem toList_queryPair (p : String × String) : (Params.queryPair p).toList =
    (percentEncode reservedInQuery p.1).toList ++
      '=' :: (percentEncode reservedInQuery p.2).toList := by
  simp [Params.queryPair]

theorem readPair?_append_cons {name : List Char} (h : '=' ∉ name) (value : List Char) :
    readPair? (name ++ '=' :: value) =
      do return (← percentDecode? name, ← percentDecode? value) := by
  have hall : ∀ c ∈ name, decide (c ≠ '=') = true := fun c hc =>
    decide_eq_true fun heq => h (heq ▸ hc)
  rw [readPair?, List.dropWhile_append_of_pos hall, List.takeWhile_append_of_pos hall]
  simp

/-- The bytes of a piece, from what is read in it. -/
theorem decodedBytes_of_readPair? {cs : List Char} {p : String × String}
    (h : readPair? cs = some p) : decodedBytes cs = pairBytes p := by
  have hsplit := @List.takeWhile_append_dropWhile _ (fun c => decide (c ≠ '=')) cs
  rw [readPair?] at h
  cases hrest : cs.dropWhile (· ≠ '=') with
  | nil =>
    rw [hrest] at h
    cases h
  | cons d value =>
    have hd : d = '=' := by
      have hhead := List.head?_dropWhile_not (fun c => decide (c ≠ '=')) cs
      rw [hrest] at hhead
      simpa using hhead
    subst hd
    rw [hrest] at h hsplit
    obtain ⟨name, hname, h⟩ := Option.bind_eq_some_iff.mp h
    obtain ⟨text, htext, h⟩ := Option.bind_eq_some_iff.mp h
    obtain rfl := Option.some.inj h
    rw [← hsplit, decodedBytes_append_cons (by decide),
      decodedBytes_cons_of_ne (by decide), percentDecode?_eq_some_iff.mp hname,
      percentDecode?_eq_some_iff.mp htext, pairBytes, List.append_assoc]

theorem length_eq_of_mapM_eq_some {α β : Type} {f : α → Option β} {xs : List α} {ys : List β}
    (h : xs.mapM f = some ys) : xs.length = ys.length := by
  induction xs generalizing ys with
  | nil => rw [← Option.some.inj h]; rfl
  | cons x xs ih =>
    rw [List.mapM_cons] at h
    obtain ⟨y, -, h⟩ := Option.bind_eq_some_iff.mp h
    obtain ⟨ys, hys, h⟩ := Option.bind_eq_some_iff.mp h
    rw [← Option.some.inj h, List.length_cons, List.length_cons, ih hys]

theorem decodedBytes_intercalate {pieces : List (List Char)} {ps : List (String × String)}
    (h : pieces.mapM readPair? = some ps) :
    decodedBytes (['&'].intercalate pieces) = queryBytes ps := by
  induction pieces generalizing ps with
  | nil => rw [← Option.some.inj h]; rfl
  | cons piece pieces ih =>
    rw [List.mapM_cons] at h
    obtain ⟨p, hp, h⟩ := Option.bind_eq_some_iff.mp h
    obtain ⟨ps, hps, h⟩ := Option.bind_eq_some_iff.mp h
    rw [← Option.some.inj h, queryBytes, List.map_cons]
    by_cases hpieces : pieces = []
    · subst hpieces
      obtain rfl : [] = ps := Option.some.inj hps
      rw [List.map_nil, List.intercalate_singleton, List.intercalate_singleton,
        decodedBytes_of_readPair? hp]
    · have hne : ps.map pairBytes ≠ [] := by
        rw [← List.length_pos_iff, List.length_map, ← length_eq_of_mapM_eq_some hps]
        exact List.length_pos_iff.mpr hpieces
      rw [List.intercalate_cons_of_ne_nil hpieces, List.intercalate_cons_of_ne_nil hne,
        List.append_assoc, List.singleton_append, decodedBytes_append_cons (by decide),
        decodedBytes_cons_of_ne (by decide), ih hps, decodedBytes_of_readPair? hp, queryBytes,
        List.append_assoc]

/-- What is read in a query has as many bytes as the query when it is decoded. -/
theorem decodedBytes_of_readQuery? {cs : List Char} {ps : List (String × String)}
    (h : readQuery? cs = some ps) : decodedBytes cs = queryBytes ps := by
  unfold readQuery? at h
  split at h
  · next hcs =>
    rw [hcs, ← Option.some.inj h]
    rfl
  · have hjoined := decodedBytes_intercalate h
    rwa [List.intercalate_splitOn] at hjoined

/-! ### Written queries -/

theorem readPair?_queryPair (p : String × String) :
    readPair? (Params.queryPair p).toList = some p := by
  rw [toList_queryPair, readPair?_append_cons (not_mem_percentEncode (by decide) (by decide) _),
    percentDecode?_percentEncode (by decide), percentDecode?_percentEncode (by decide)]
  rfl

theorem ampersand_not_mem_queryPair (p : String × String) :
    '&' ∉ (Params.queryPair p).toList := by
  have hencoded := @not_mem_percentEncode reservedInQuery '&' (by decide) (by decide)
  rw [toList_queryPair]
  simp [hencoded p.1, hencoded p.2]

theorem mapM_readPair?_queryPair (ps : List (String × String)) :
    (ps.map fun p => (Params.queryPair p).toList).mapM readPair? = some ps := by
  induction ps with
  | nil => rfl
  | cons p ps ih =>
    rw [List.map_cons, List.mapM_cons, readPair?_queryPair, ih]
    rfl

/-- A query is read as what has been written into it. -/
theorem readQuery?_intercalate_queryPair (ps : List (String × String)) :
    readQuery? ("&".intercalate (ps.map Params.queryPair)).toList = some ps := by
  rw [String.toList_intercalate, List.map_map]
  cases ps with
  | nil => rfl
  | cons p ps =>
    have hpiece : ∀ piece ∈ (p :: ps).map (String.toList ∘ Params.queryPair), '&' ∉ piece :=
      List.forall_mem_map.mpr fun q _ => ampersand_not_mem_queryPair q
    have hsplit := List.splitOn_intercalate '&' hpiece (List.cons_ne_nil _ _)
    have hne : ['&'].intercalate ((p :: ps).map (String.toList ∘ Params.queryPair)) ≠ [] := by
      intro hnil
      rw [hnil, List.map_cons] at hsplit
      have hfirst : [] = (Params.queryPair p).toList := (List.cons.inj hsplit).1
      rw [toList_queryPair] at hfirst
      simp at hfirst
    have hchars : "&".toList = ['&'] := rfl
    rw [hchars, readQuery?, if_neg hne, hsplit]
    exact mapM_readPair?_queryPair (p :: ps)

/-- A query is read as the parameters in it, in the order of their names. -/
theorem readQuery?_query (ps : Params) : readQuery? ps.query.toList = some ps.toList :=
  readQuery?_intercalate_queryPair ps.toList

end HttpRouting
