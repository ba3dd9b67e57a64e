import HttpRouting.Proofs.PercentDecoding
import Mathlib.Data.String.Basic

/-!
# The order of queries

The pairs of a query stand in the order of their names. UTF-8 keeps the order of characters, so this
is also the order of the bytes of the names. Where the pairs are supplied in another order they are
sorted first, which leads to the same query.

## Main definitions

* `comparePair` — pairs are ordered by their names, and below that by their values
* `writeQuery` — the query of pairs that are supplied in any order

## Main results

* `utf8Bytes_lt` — texts are ordered like their bytes
* `Params.writeQuery_of_perm` — a query does not depend on the order of the pairs
* `Params.query_injective` — parameters are determined by their query
* `Params.query_reads` — what is read in the query of parameters
-/

namespace HttpRouting

/-! ### The order of bytes -/

/-- The bytes of a smaller character are smaller, whatever follows either. -/
theorem utf8EncodeChar_append_lt {c d : Char} (h : c < d) (xs ys : List UInt8) :
    String.utf8EncodeChar c ++ xs < String.utf8EncodeChar d ++ ys := by
  have hlt : c.val.toNat < d.val.toNat := h
  have hbound : d.val.toNat < 1114112 := by
    rcases d.valid with hd | ⟨-, hd⟩
    · exact Nat.lt_trans hd (by decide)
    · exact hd
  unfold String.utf8EncodeChar
  generalize c.val.toNat = m at *
  generalize d.val.toNat = n at *
  dsimp only
  split_ifs <;>
    simp only [List.cons_append, List.nil_append, List.cons_lt_cons_iff, UInt8.lt_iff_toNat_lt,
      ← UInt8.toNat_inj, UInt8.toNat_ofNat']
  pick_goal -1
  · -- Two forms of four bytes differ first in one of them.
    by_cases hfirst : m / 262144 < n / 262144
    · omega
    by_cases hsecond : m / 4096 < n / 4096
    · omega
    by_cases hthird : m / 64 < n / 64 <;> omega
  -- A form of fewer bytes starts with a smaller one.
  all_goals omega

/-- Texts are ordered like their bytes. -/
theorem utf8Bytes_lt {s t : String} (h : s < t) : utf8Bytes s < utf8Bytes t := by
  have hlex : List.Lex (· < ·) s.toList t.toList := String.lt_iff_toList_lt.mp h
  unfold utf8Bytes
  generalize s.toList = cs at hlex
  generalize t.toList = ds at hlex
  induction hlex with
  | @nil d ds =>
    obtain ⟨b, bs, hbytes⟩ := List.exists_cons_of_ne_nil (String.utf8EncodeChar_ne_nil (c := d))
    rw [List.flatMap_nil, List.flatMap_cons, hbytes]
    exact List.nil_lt_cons ..
  | rel hcd =>
    rw [List.flatMap_cons, List.flatMap_cons]
    exact utf8EncodeChar_append_lt hcd _ _
  | cons _ ih =>
    rw [List.flatMap_cons, List.flatMap_cons]
    exact List.append_left_lt ih

/-! ### Pairs in any order -/

/-- Pairs are ordered by their names, and below that by their values. -/
def comparePair : String × String → String × String → Ordering :=
  compareLex (compareOn Prod.fst) (compareOn Prod.snd)

instance : Std.TransCmp comparePair :=
  inferInstanceAs (Std.TransCmp (compareLex (compareOn Prod.fst) (compareOn Prod.snd)))

instance : Std.LawfulEqCmp comparePair where
  eq_of_compare {p q} h := by
    obtain ⟨hname, hvalue⟩ := compareLex_eq_eq.mp h
    exact Prod.ext (Std.LawfulEqCmp.eq_of_compare hname) (Std.LawfulEqCmp.eq_of_compare hvalue)

/-- The query of pairs that are supplied in any order. -/
def writeQuery (pairs : List (String × String)) : String :=
  "&".intercalate ((pairs.mergeSort fun p q => (comparePair p q).isLE).map Params.queryPair)

/-- Sorted pairs are determined by which pairs they are. -/
theorem mergeSort_eq_of_perm {pairs sorted : List (String × String)} (hperm : pairs.Perm sorted)
    (hsorted : sorted.Pairwise fun p q => (comparePair p q).isLE) :
    (pairs.mergeSort fun p q => (comparePair p q).isLE) = sorted := by
  have htrans : ∀ p q r : String × String,
      (comparePair p q).isLE → (comparePair q r).isLE → (comparePair p r).isLE :=
    fun p q r => Std.TransCmp.isLE_trans
  have htotal : ∀ p q : String × String,
      ((comparePair p q).isLE || (comparePair q p).isLE) = true := by
    intro p q
    have hswap : comparePair q p = (comparePair p q).swap := Std.OrientedCmp.eq_swap
    rw [hswap]
    cases comparePair p q <;> rfl
  refine List.Perm.eq_of_pairwise (fun p q _ _ hpq hqp => ?_)
    (List.pairwise_mergeSort htrans htotal pairs) hsorted ((List.mergeSort_perm _ _).trans hperm)
  exact Std.LawfulEqCmp.eq_of_compare (Std.OrientedCmp.isLE_antisymm hpq hqp)

namespace Params

theorem pairwise_toList (ps : Params) : ps.toList.Pairwise fun p q => p.1 < q.1 := by
  refine Std.ExtTreeMap.ordered_keys_toList.imp fun {p q} h => ?_
  have hlt : compareOfLessAndEq p.1 q.1 = .lt := h
  exact compareOfLessAndEq_eq_lt.mp hlt

theorem pairwise_comparePair_toList (ps : Params) :
    ps.toList.Pairwise fun p q => (comparePair p q).isLE := by
  refine ps.pairwise_toList.imp fun {p q} hlt => ?_
  have hname : compare p.1 q.1 = .lt := compareOfLessAndEq_eq_lt.mpr hlt
  rw [comparePair, compareLex, compareOn, hname]
  rfl

/-- The query of parameters is written from their pairs in any order. -/
theorem writeQuery_of_perm {ps : Params} {pairs : List (String × String)}
    (h : pairs.Perm ps.toList) : writeQuery pairs = ps.query := by
  rw [writeQuery, mergeSort_eq_of_perm h ps.pairwise_comparePair_toList, query]

/-- Parameters are determined by their query. -/
theorem query_injective : Function.Injective query := by
  intro ps qs h
  have hread := readQuery?_query ps
  rw [h, readQuery?_query qs] at hread
  have hlist := Option.some.inj hread
  refine Std.ExtTreeMap.ext_getElem? fun n => Option.ext fun v => ?_
  rw [← Std.ExtTreeMap.mem_toList_iff_getElem?_eq_some, ← hlist,
    Std.ExtTreeMap.mem_toList_iff_getElem?_eq_some]

theorem query_empty : query ∅ = "" := rfl

/-- In the query of parameters stand exactly they, ordered by the bytes of their names. It is empty
only without any, does not depend on the order in which they are supplied, and is that of no other
parameters. -/
theorem query_reads (ps : Params) :
    (∃ pairs, readQuery? ps.query.toList = some pairs ∧
      (∀ n v, (n, v) ∈ pairs ↔ ps[n]? = some v) ∧
      pairs.Pairwise fun p q => utf8Bytes p.1 < utf8Bytes q.1) ∧
    (ps.query = "" ↔ ps = ∅) ∧
    (∀ pairs : List (String × String), pairs.Perm ps.toList → writeQuery pairs = ps.query) ∧
    ∀ qs : Params, qs.query = ps.query → qs = ps := by
  refine ⟨⟨ps.toList, readQuery?_query ps, fun n v =>
    Std.ExtTreeMap.mem_toList_iff_getElem?_eq_some, ps.pairwise_toList.imp utf8Bytes_lt⟩,
    ⟨fun h => ?_, fun h => h ▸ query_empty⟩, fun pairs => writeQuery_of_perm,
    fun qs h => query_injective h⟩
  exact query_injective (h.trans query_empty.symm)

/-- The pairs are sorted, and delimiters in them are encoded. -/
example : query (.ofList [("q", "a b&c"), ("page", "2")]) = "page=2&q=a%20b%26c" := by
  decide +kernel

end Params

end HttpRouting
