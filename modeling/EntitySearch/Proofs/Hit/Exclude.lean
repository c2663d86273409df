import EntitySearch.Proofs.Hit.Merge

namespace EntitySearch.Hit

section Filter

variable {Id W : Type} [DecidableEq Id] {left right other : List (Hit Id W)}

theorem exclude_eq (left right : List (Hit Id W)) :
    exclude left right = left.filter fun h => h.id ∉ ids right := by
  refine List.filter_congr fun h _ => ?_
  rw [Bool.eq_iff_iff]
  simp [ids]

theorem exclude_map (ks : List Id) (weight : Id → W) (right : List (Hit Id W)) :
    exclude (ks.map fun id => { id := id, weight := weight id }) right =
      (ks.filter (· ∉ ids right)).map fun id => { id := id, weight := weight id } := by
  rw [exclude_eq, List.filter_map]
  rfl

theorem ids_exclude (left right : List (Hit Id W)) :
    ids (exclude left right) = (ids left).filter (· ∉ ids right) := by
  simp only [exclude_eq, ids, List.filter_map]
  rfl

-- Of what is excluded only the ids on the left matter.
theorem exclude_congr (h : ∀ id ∈ ids left, id ∈ ids right ↔ id ∈ ids other) :
    exclude left right = exclude left other := by
  rw [exclude_eq, exclude_eq]
  refine List.filter_congr fun hit hm => ?_
  simp only [h hit.id (List.mem_map_of_mem hm)]

theorem eraseDups_filter (ks : List Id) (p : Id → Bool) :
    (ks.filter p).eraseDups = ks.eraseDups.filter p := by
  induction ks using List.reverseRecOn
  case nil => rfl
  case append_singleton ks k ih =>
    rw [List.filter_append, OrderedMap.eraseDups_concat]
    by_cases hp : p k
    case neg => split <;> simp [hp, ih]
    case pos =>
      have hf : [k].filter p = [k] := by simp [hp]
      rw [hf, OrderedMap.eraseDups_concat, ih]
      split <;> simp_all

end Filter

section Laws

variable {Id W : Type} [DecidableEq Id] [Zero W] [Add W]

omit [Zero W] [Add W] in
theorem exclude_comm (a b c : List (Hit Id W)) :
    exclude (exclude a b) c = exclude (exclude a c) b := by
  simp only [exclude_eq, List.filter_filter, Bool.and_comm]

theorem exclude_exclude (a b c : List (Hit Id W)) :
    exclude (exclude a b) c = exclude a (union [b, c]) := by
  simp only [exclude_eq, List.filter_filter]
  refine List.filter_congr fun h _ => ?_
  simp [mem_ids_union, Bool.and_comm]

theorem weightIn_exclude {id : Id} {left right : List (Hit Id W)} (h : id ∉ ids right) :
    weightIn id (exclude left right) = weightIn id left := by
  rw [weightIn, weightsOf_exclude h, weightIn]

theorem exclude_union (operands : List (List (Hit Id W))) (right : List (Hit Id W)) :
    exclude (union operands) right = union (operands.map (exclude · right)) := by
  have hf : (operands.map (exclude · right)).flatten = exclude operands.flatten right := by
    simp only [exclude_eq, List.filter_flatten]
  rw [union_eq, union_eq, hf, exclude_map, ids_exclude, eraseDups_filter]
  refine List.map_congr_left fun id hm => ?_
  have hr : id ∉ ids right := of_decide_eq_true (List.mem_filter.1 hm).2
  rw [weightIn_exclude hr]

theorem exclude_intersection (first right : List (Hit Id W)) (rest : List (List (Hit Id W))) :
    exclude (intersection (first :: rest)) right = intersection (exclude first right :: rest) := by
  rw [intersection_eq, intersection_eq, exclude_map, ids_exclude, eraseDups_filter,
    List.filter_filter, List.filter_filter]
  simp only [Bool.and_comm]
  refine List.map_congr_left fun id hm => ?_
  have hr : id ∉ ids right :=
    of_decide_eq_true (Bool.and_eq_true_iff.1 (List.mem_filter.1 hm).2).1
  rw [weightIn_exclude hr]

theorem exclude_intersection_self (a b : List (Hit Id W)) :
    exclude a (intersection [a, b]) = exclude a b := by
  refine exclude_congr fun id hm => ?_
  simp [mem_ids_intersection, hm]

-- Exclusion is a difference of sets, as far as order, repetitions and weights: excluding twice is
-- excluding a union, in either order; it goes into unions and into the left of intersections; and
-- what is left and what is in both operands share the ids on the left between them.
theorem exclude_laws (a b c : List (Hit Id W)) :
    (exclude (exclude a b) c = exclude a (union [b, c])) ∧
    (exclude a (union [b, c]) = exclude (exclude a c) b) ∧
    (exclude (union [a, b]) c = union [exclude a c, exclude b c]) ∧
    (exclude (intersection [a, b]) c = intersection [exclude a c, b]) ∧
    (exclude a (intersection [a, b]) = exclude a b) ∧
    (∀ id, ¬(id ∈ ids (exclude a b) ∧ id ∈ ids (intersection [a, b]))) ∧
    (∀ id, id ∈ ids a ↔ id ∈ ids (exclude a b) ∨ id ∈ ids (intersection [a, b])) := by
  refine ⟨exclude_exclude a b c, (exclude_exclude a b c).symm.trans (exclude_comm a b c),
    exclude_union [a, b] c, exclude_intersection a c [b], exclude_intersection_self a b, ?_, ?_⟩
  case refine_1 =>
    rintro id ⟨he, hi⟩
    exact (mem_ids_exclude.1 he).2 ((mem_ids_intersection.1 hi).2 b (by simp))
  case refine_2 =>
    intro id
    by_cases hb : id ∈ ids b <;> simp [mem_ids_exclude, mem_ids_intersection, hb]

end Laws

end EntitySearch.Hit
