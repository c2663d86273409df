import EntitySearch.OrderedMap
import Mathlib.Data.List.Induction

namespace EntitySearch.OrderedMap

variable {κ ν : Type}

theorem ext {m n : OrderedMap κ ν} (h : m.entries = n.entries) : m = n := by
  cases m
  cases n
  cases h
  rfl

variable [DecidableEq κ]

section Lookup

variable {m : OrderedMap κ ν} {k : κ} {v : ν}

theorem get?_eq_some_iff : m.get? k = some v ↔ (k, v) ∈ m.entries := by
  rw [get?, List.lookup_eq_some_iff]
  constructor
  case mp =>
    rintro ⟨before, after, he, -⟩
    simp [he]
  case mpr =>
    intro h
    obtain ⟨before, after, he⟩ := List.append_of_mem h
    have hd := m.distinct
    rw [he, List.map_append, List.map_cons, List.nodup_append] at hd
    refine ⟨before, after, he, fun e hb => ?_⟩
    have hk := hd.2.2 e.1 (List.mem_map_of_mem hb) k List.mem_cons_self
    simpa using Ne.symm hk

theorem lookup_cons (j : κ) (e : κ × ν) (es : List (κ × ν)) :
    (e :: es).lookup j = if e.1 = j then some e.2 else es.lookup j := by
  obtain ⟨k, v⟩ := e
  rw [List.lookup_cons]
  by_cases h : k = j
  case pos => simp [h]
  case neg => simp [h, beq_eq_false_iff_ne.2 (Ne.symm h)]

theorem lookup_updateIn (j k : κ) (f : Option ν → ν) (es : List (κ × ν)) :
    (updateIn k f es).lookup j = if k = j then some (f (es.lookup k)) else es.lookup j := by
  induction es
  case nil => simp [updateIn, lookup_cons]
  case cons e es ih =>
    by_cases he : e.1 = k
    case pos =>
      subst he
      by_cases hj : e.1 = j <;> simp [updateIn, lookup_cons, hj]
    case neg =>
      by_cases hj : k = j
      case pos => simp_all [updateIn, lookup_cons]
      case neg => simp [updateIn, lookup_cons, he, ih, hj]

theorem get?_update (m : OrderedMap κ ν) (j k : κ) (f : Option ν → ν) :
    (m.update k f).get? j = if k = j then some (f (m.get? k)) else m.get? j :=
  lookup_updateIn j k f m.entries

end Lookup

theorem mem_updateIn {k : κ} {f : Option ν → ν} {es : List (κ × ν)} {e : κ × ν}
    (h : e ∈ updateIn k f es) : e ∈ es ∨ ∃ v?, e = (k, f v?) := by
  induction es
  case nil => exact .inr ⟨none, by simpa [updateIn] using h⟩
  case cons d es ih =>
    rw [updateIn] at h
    split at h <;> cases List.mem_cons.1 h
    case isTrue.inl he  => exact .inr ⟨some d.2, he⟩
    case isTrue.inr he  => exact .inl (List.mem_cons_of_mem d he)
    case isFalse.inl he => exact .inl (he ▸ List.mem_cons_self)
    case isFalse.inr he =>
      cases ih he
      case inl he => exact .inl (List.mem_cons_of_mem d he)
      case inr he => exact .inr he

theorem mem_insert {m : OrderedMap κ ν} {k : κ} {v : ν} {e : κ × ν}
    (h : e ∈ (m.insert k v).entries) : e ∈ m.entries ∨ e = (k, v) := by
  cases mem_updateIn h
  case inl h => exact .inl h
  case inr h => exact .inr h.choose_spec

theorem ofList_append_singleton (es : List (κ × ν)) (e : κ × ν) :
    ofList (es ++ [e]) = (ofList es).insert e.1 e.2 := by
  simp [ofList]

theorem mem_ofList {es : List (κ × ν)} {e : κ × ν} (h : e ∈ (ofList es).entries) : e ∈ es := by
  induction es using List.reverseRecOn
  case nil => exact (List.not_mem_nil h).elim
  case append_singleton es d ih =>
    rw [ofList_append_singleton] at h
    cases mem_insert h
    case inl h => exact List.mem_append_left _ (ih h)
    case inr h => simp [h]

theorem updateIn_of_not_mem {k : κ} {f : Option ν → ν} {es : List (κ × ν)}
    (h : k ∉ es.map Prod.fst) : updateIn k f es = es ++ [(k, f none)] := by
  induction es
  case nil => rfl
  case cons e es ih =>
    rw [List.map_cons, List.mem_cons, not_or] at h
    simp [updateIn, Ne.symm h.1, ih h.2]

theorem entries_ofList {es : List (κ × ν)} (h : (es.map Prod.fst).Nodup) :
    (ofList es).entries = es := by
  induction es using List.reverseRecOn
  case nil => rfl
  case append_singleton es e ih =>
    rw [List.map_append, List.nodup_append] at h
    have hk : e.1 ∉ es.map Prod.fst := fun he => h.2.2 e.1 he e.1 (by simp) rfl
    have hi : (ofList (es ++ [e])).entries = updateIn e.1 (fun _ => e.2) (ofList es).entries := by
      rw [ofList_append_singleton]
      rfl
    rw [hi, ih h.1, updateIn_of_not_mem hk]

theorem eraseDups_concat (ks : List κ) (k : κ) :
    (ks ++ [k]).eraseDups = if k ∈ ks then ks.eraseDups else ks.eraseDups ++ [k] := by
  rw [List.eraseDups_append]
  split
  case isTrue h  => simp [List.removeAll, h]
  case isFalse h => simp [List.removeAll, List.eraseDups_cons, h]

-- However the values come about, the keys are those that were updated, in the order in which they
-- first were.
theorem keys_foldl_update {α : Type} (key : α → κ) (f : α → Option ν → ν) (as : List α) :
    (as.foldl (fun (m : OrderedMap κ ν) a => m.update (key a) (f a)) ∅).keys =
      (as.map key).eraseDups := by
  induction as using List.reverseRecOn
  case nil => rfl
  case append_singleton as a ih =>
    rw [List.foldl_append, List.foldl_cons, List.foldl_nil, keys_update, ih, List.map_append,
      List.map_singleton, eraseDups_concat]
    simp only [List.mem_eraseDups]

theorem keys_ofList (es : List (κ × ν)) : (ofList es).keys = (es.map Prod.fst).eraseDups :=
  keys_foldl_update Prod.fst (fun e _ => e.2) es

theorem get?_ofList (es : List (κ × ν)) (k : κ) :
    (ofList es).get? k = (es.filter (·.1 = k)).getLast?.map Prod.snd := by
  induction es using List.reverseRecOn
  case nil => rfl
  case append_singleton es e ih =>
    rw [ofList_append_singleton, insert, get?_update, ih]
    split
    case isTrue hk  => simp [hk]
    case isFalse hk => simp [hk]

-- The entries of a map make it up.
theorem ofList_entries (m : OrderedMap κ ν) : ofList m.entries = m :=
  ext (entries_ofList m.distinct)

end EntitySearch.OrderedMap
