import EntitySearch.Proofs.Hit.Merge
import EntitySearch.Proofs.Number.Order
import EntitySearch.Proofs.RelatedLists

namespace EntitySearch.Hit

section Sums

variable {a a' : Double} {ws ws' : List Double}

theorem isNonneg_foldl (ha : a.IsNonneg) (h : ∀ w ∈ ws, w.IsNonneg) :
    (ws.foldl (· + ·) a).IsNonneg := by
  induction ws generalizing a
  case nil => exact ha
  case cons w ws ih =>
    rw [List.forall_mem_cons] at h
    exact ih (ha.add h.1) h.2

-- A sum grows with its parts, and with further parts between them.
theorem atMost_foldl (ha : a.AtMost a') (h : List.SublistForall₂ Double.AtMost ws ws')
    (hn : ∀ w ∈ ws', w.IsNonneg) : (ws.foldl (· + ·) a).AtMost (ws'.foldl (· + ·) a') := by
  induction h generalizing a a'
  case nil ws' =>
    induction ws' generalizing a'
    case nil => exact ha
    case cons w ws' ih =>
      rw [List.forall_mem_cons] at hn
      exact ih (ha.add_right hn.1) hn.2
  case cons hw _ ih =>
    rw [List.forall_mem_cons] at hn
    exact ih (ha.add hw) hn.2
  case cons_right _ ih =>
    rw [List.forall_mem_cons] at hn
    exact ih (ha.add_right hn.1) hn.2

end Sums

section Lists

variable {Id : Type} [DecidableEq Id] {hits hits' : List (Hit Id Double)} {id : Id}

-- Holds if the second list has the hits of the first one, with the same or greater weights, and
-- maybe more. All weights are from zero up.
structure Grows (hits hits' : List (Hit Id Double)) : Prop where
  weights  : ∀ id, List.SublistForall₂ Double.AtMost (weightsOf id hits) (weightsOf id hits')
  isNonneg : ∀ h ∈ hits', h.weight.IsNonneg

theorem isNonneg_of_mem_weightsOf {w : Double} (hn : ∀ h ∈ hits, h.weight.IsNonneg)
    (hm : w ∈ weightsOf id hits) : w.IsNonneg := by
  obtain ⟨h, hh, rfl⟩ := List.mem_map.1 hm
  exact hn h (List.mem_filter.1 hh).1

theorem isNonneg_weightIn (hn : ∀ h ∈ hits, h.weight.IsNonneg) (id : Id) :
    (weightIn id hits).IsNonneg :=
  isNonneg_foldl Double.isNonneg_zero fun _ => isNonneg_of_mem_weightsOf hn

namespace Grows

theorem mem_ids (h : Grows hits hits') (hm : id ∈ ids hits) : id ∈ ids hits' := by
  by_contra hn
  have hw := h.weights id
  rw [weightsOf_of_not_mem hn] at hw
  cases hl : weightsOf id hits
  case nil          => exact weightsOf_eq_nil_iff.1 hl hm
  case cons w ws    =>
    rw [hl] at hw
    cases hw

theorem weightIn (h : Grows hits hits') (id : Id) :
    (weightIn id hits).AtMost (Hit.weightIn id hits') :=
  atMost_foldl Double.isNonneg_zero.atMost_self (h.weights id) fun _ =>
    isNonneg_of_mem_weightsOf h.isNonneg

-- Where no id comes twice, hits are compared one by one.
theorem of_nodup (hd : (ids hits).Nodup) (hd' : (ids hits').Nodup)
    (h : ∀ hit ∈ hits, ∃ hit' ∈ hits', (hit'.id = hit.id) ∧ (hit.weight.AtMost hit'.weight))
    (hn : ∀ h ∈ hits', h.weight.IsNonneg) : Grows hits hits' where
  weights id := by
    by_cases hm : id ∈ ids hits
    case neg =>
      rw [weightsOf_of_not_mem hm]
      exact .nil
    case pos =>
      obtain ⟨hit, hh, rfl⟩ := List.mem_map.1 hm
      obtain ⟨hit', hh', hid, hw⟩ := h hit hh
      rw [weightsOf_of_nodup hd hh, ← hid, weightsOf_of_nodup hd' hh']
      exact .cons hw .nil
  isNonneg := hn

theorem of_sublist (h : hits.Sublist hits') (hn : ∀ h ∈ hits', h.weight.IsNonneg) :
    Grows hits hits' where
  weights id := by
    have hs : (weightsOf id hits).Sublist (weightsOf id hits') := (h.filter _).map Hit.weight
    have hw : ∀ w ∈ weightsOf id hits, w.IsNonneg := fun w hm =>
      isNonneg_of_mem_weightsOf hn (hs.mem hm)
    refine List.sublistForall₂_iff.2 ⟨weightsOf id hits, ?_, hs⟩
    exact List.forall₂_same.2 fun w hm => (hw w hm).atMost_self
  isNonneg := hn

theorem flatten {operands operands' : List (List (Hit Id Double))}
    (h : List.Forall₂ Grows operands operands') : Grows operands.flatten operands'.flatten := by
  induction h
  case nil => exact ⟨fun _ => .nil, nofun⟩
  case cons hh _ ih =>
    refine ⟨fun id => ?_, ?_⟩
    · simp only [List.flatten_cons, weightsOf_append]
      exact sublistForall₂_append (hh.weights id) (ih.weights id)
    · exact List.forall_mem_append.2 ⟨hh.isNonneg, ih.isNonneg⟩

end Grows

theorem keptByMerges_grows : KeptByMerges (@Grows Id _) where
  nil := ⟨fun _ => .nil, nofun⟩
  union {operands operands'} h := by
    have hf := Grows.flatten h
    refine .of_nodup (nodup_ids_union _) (nodup_ids_union _) (fun hit hm => ?_) fun hit hm => ?_
    · obtain ⟨hi, hw⟩ := mem_union.1 hm
      let sum := weightIn hit.id operands'.flatten
      refine ⟨⟨hit.id, sum⟩, mem_union.2 ⟨hf.mem_ids hi, rfl⟩, rfl, ?_⟩
      exact hw ▸ hf.weightIn hit.id
    · exact (mem_union.1 hm).2 ▸ isNonneg_weightIn hf.isNonneg hit.id
  intersection {operands operands'} h := by
    cases h
    case nil => exact ⟨fun _ => .nil, nofun⟩
    case cons first first' rest rest' hf hr =>
      have hn (id : Id) : ∀ w ∈ rest'.map (weightIn id), w.IsNonneg :=
        List.forall_mem_map.2 <| forall_mem_of_forall₂ (P := fun _ => True) hr
          (fun _ _ hg _ => isNonneg_weightIn hg.isNonneg id) fun _ _ => trivial
      have hw (id : Id) :
          List.SublistForall₂ Double.AtMost (rest.map (weightIn id)) (rest'.map (weightIn id)) := by
        refine sublistForall₂_of_forall₂ ?_
        rw [List.forall₂_map_left_iff, List.forall₂_map_right_iff]
        exact hr.imp fun _ _ hg => hg.weightIn id
      refine .of_nodup (nodup_ids_intersection _) (nodup_ids_intersection _) (fun hit hm => ?_)
        fun hit hm => ?_
      · obtain ⟨hi, hs⟩ := mem_intersection.1 hm
        have hi' := forall_mem_of_forall₂ (.cons hf hr) (fun _ _ hg => hg.mem_ids) hi
        let sum := (rest'.map (weightIn hit.id)).foldl (· + ·) (weightIn hit.id first')
        refine ⟨⟨hit.id, sum⟩, mem_intersection.2 ⟨hi', rfl⟩, rfl, ?_⟩
        exact hs ▸ atMost_foldl (hf.weightIn hit.id) (hw hit.id) (hn hit.id)
      · rw [(mem_intersection.1 hm).2]
        exact isNonneg_foldl (isNonneg_weightIn hf.isNonneg hit.id) (hn hit.id)

end Lists

end EntitySearch.Hit
