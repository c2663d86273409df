namespace EntitySearch

structure SortedMap (ν : Type) where
  entries : List (String × ν)
  sorted : entries.Pairwise fun a b => a.1 < b.1

namespace SortedMap

variable {ν : Type}

def empty : SortedMap ν where
  entries := []
  sorted := .nil

instance : EmptyCollection (SortedMap ν) := ⟨empty⟩

def get? (m : SortedMap ν) (k : String) : Option ν :=
  m.entries.lookup k

-- Puts `f` of the value of a key in its place among rising keys.
def updateIn (k : String) (f : Option ν → ν) : List (String × ν) → List (String × ν)
  | [] => [(k, f none)]
  | e :: es =>
    if k < e.1 then (k, f none) :: e :: es
    else if e.1 = k then (k, f (some e.2)) :: es
    else e :: updateIn k f es

theorem key_of_mem_updateIn {k : String} {f : Option ν → ν} {es : List (String × ν)}
    {e : String × ν} (h : e ∈ updateIn k f es) : e.1 = k ∨ e.1 ∈ es.map Prod.fst := by
  induction es with
  | nil => exact .inl (by rw [List.mem_singleton.1 h])
  | cons d ds ih =>
    unfold updateIn at h
    split at h
    · rcases List.mem_cons.1 h with rfl | h
      · exact .inl rfl
      · exact .inr (List.mem_map_of_mem h)
    · split at h
      · rcases List.mem_cons.1 h with rfl | h
        · exact .inl rfl
        · exact .inr (List.mem_cons_of_mem _ (List.mem_map_of_mem h))
      · rcases List.mem_cons.1 h with rfl | h
        · exact .inr (List.mem_cons_self ..)
        · exact (ih h).imp_right (List.mem_cons_of_mem _)

theorem sorted_updateIn {k : String} {f : Option ν → ν} {es : List (String × ν)}
    (h : es.Pairwise fun a b => a.1 < b.1) :
    (updateIn k f es).Pairwise fun a b => a.1 < b.1 := by
  induction es with
  | nil => exact List.pairwise_singleton ..
  | cons d ds ih =>
    have ⟨hd, hds⟩ := List.pairwise_cons.1 h
    unfold updateIn
    split
    case isTrue hk =>
      refine List.pairwise_cons.2 ⟨fun e he => ?_, h⟩
      rcases List.mem_cons.1 he with rfl | he
      · exact hk
      · exact String.lt_trans hk (hd e he)
    case isFalse hk =>
      split
      case isTrue hdk => exact List.pairwise_cons.2 ⟨fun e he => hdk ▸ hd e he, hds⟩
      case isFalse hdk =>
        refine List.pairwise_cons.2 ⟨fun e he => ?_, ih hds⟩
        rcases key_of_mem_updateIn he with hek | he
        · rw [hek]
          exact Decidable.byContradiction fun hlt =>
            hdk (String.le_antisymm (String.not_lt.1 hk) (String.not_lt.1 hlt))
        · obtain ⟨e', he', heq⟩ := List.mem_map.1 he
          exact heq ▸ hd e' he'

-- Gives a key the value that `f` makes of the one it has, if any.
def update (m : SortedMap ν) (k : String) (f : Option ν → ν) : SortedMap ν where
  entries := updateIn k f m.entries
  sorted := sorted_updateIn m.sorted

def insert (m : SortedMap ν) (k : String) (v : ν) : SortedMap ν :=
  m.update k fun _ => v

end SortedMap

end EntitySearch
