import EntitySearch.Proofs.OrderedMap
import EntitySearch.SortedMap
import Mathlib.Data.List.Nodup

namespace EntitySearch.SortedMap

variable {ν : Type} {k : String}

theorem lookup_eq_none_of_lt {es : List (String × ν)} (h : ∀ e ∈ es, k < e.1) :
    es.lookup k = none := by
  rw [List.lookup_eq_none_iff]
  intro e he
  simpa using String.ne_of_lt (h e he)

theorem lookup_updateIn {es : List (String × ν)} (h : es.Pairwise fun a b => a.1 < b.1)
    (j k : String) (f : Option ν → ν) :
    (updateIn k f es).lookup j = if k = j then some (f (es.lookup k)) else es.lookup j := by
  induction es
  case nil => simp [updateIn, OrderedMap.lookup_cons]
  case cons e es ih =>
    obtain ⟨he, hes⟩ := List.pairwise_cons.1 h
    rw [updateIn]
    split
    case isTrue hk =>
      have hn : (e :: es).lookup k = none := lookup_eq_none_of_lt <|
        List.forall_mem_cons.2 ⟨hk, fun d hd => String.lt_trans hk (he d hd)⟩
      rw [OrderedMap.lookup_cons, hn]
    case isFalse =>
      split
      case isTrue hk =>
        subst hk
        simp only [OrderedMap.lookup_cons, if_true]
        split <;> rfl
      case isFalse hk =>
        rw [OrderedMap.lookup_cons, ih hes, OrderedMap.lookup_cons, OrderedMap.lookup_cons]
        by_cases hj : k = j
        case pos => simp_all
        case neg => simp [hj]

theorem get?_update (m : SortedMap ν) (j k : String) (f : Option ν → ν) :
    (m.update k f).get? j = if k = j then some (f (m.get? k)) else m.get? j :=
  lookup_updateIn m.sorted j k f

theorem flatMap_entries {β : Type} (m : SortedMap ν) (k : String) (g : ν → List β) :
    m.entries.flatMap (fun e => if e.1 = k then g e.2 else []) =
      ((m.get? k).map g).getD [] := by
  obtain ⟨es, h⟩ := m
  rw [get?]
  induction es
  case nil => rfl
  case cons e es ih =>
    obtain ⟨he, hes⟩ := List.pairwise_cons.1 h
    rw [List.flatMap_cons, ih hes, OrderedMap.lookup_cons]
    split
    case isTrue hk =>
      subst hk
      simp [lookup_eq_none_of_lt he]
    case isFalse => rfl

theorem distinct (m : SortedMap ν) : (m.entries.map Prod.fst).Nodup :=
  List.pairwise_map.2 (m.sorted.imp String.ne_of_lt)

-- The same entries in a map that does not ask for rising keys.
def toOrdered (m : SortedMap ν) : OrderedMap String ν where
  entries := m.entries
  distinct := m.distinct

theorem get?_eq_some_iff {m : SortedMap ν} {v : ν} : m.get? k = some v ↔ (k, v) ∈ m.entries :=
  OrderedMap.get?_eq_some_iff (m := m.toOrdered)

theorem ext {m n : SortedMap ν} (h : ∀ k, m.get? k = n.get? k) : m = n := by
  have hm (e : String × ν) : e ∈ m.entries ↔ e ∈ n.entries := by
    rw [← get?_eq_some_iff, ← get?_eq_some_iff, h]
  have hp : m.entries.Perm n.entries :=
    (List.perm_ext_iff_of_nodup (.of_map _ m.distinct) (.of_map _ n.distinct)).2 hm
  have he : m.entries = n.entries := hp.eq_of_pairwise
    (fun _ _ _ _ hlt hgt => (String.lt_irrefl _ (String.lt_trans hlt hgt)).elim) m.sorted n.sorted
  cases m
  cases n
  cases he
  rfl

-- Each key has the last of its values.
theorem get?_eq_getLast? (m : SortedMap ν) (k : String) :
    m.get? k = (m.entries.filter (·.1 = k)).getLast?.map Prod.snd := by
  have h := OrderedMap.get?_ofList m.toOrdered.entries k
  rwa [OrderedMap.ofList_entries] at h

def ofList (es : List (String × ν)) : SortedMap ν :=
  es.foldl (fun m e => m.insert e.1 e.2) ∅

theorem ofList_append_singleton (es : List (String × ν)) (e : String × ν) :
    ofList (es ++ [e]) = (ofList es).insert e.1 e.2 := by
  simp [ofList]

theorem get?_ofList (es : List (String × ν)) (k : String) :
    (ofList es).get? k = (es.filter (·.1 = k)).getLast?.map Prod.snd := by
  induction es using List.reverseRecOn
  case nil => rfl
  case append_singleton es e ih =>
    rw [ofList_append_singleton, insert, get?_update, ih]
    split
    case isTrue hk  => simp [hk]
    case isFalse hk => simp [hk]

theorem ofList_eq {m : SortedMap ν} {es : List (String × ν)}
    (h : ∀ k, m.get? k = (es.filter (·.1 = k)).getLast?.map Prod.snd) : ofList es = m :=
  ext fun k => by rw [get?_ofList, h]

end EntitySearch.SortedMap
