import EntitySearch.Proofs.Hit.Merge
import Mathlib.Data.List.Basic

namespace EntitySearch.Hit

section FirstCome

variable {κ : Type} [DecidableEq κ]

-- Holds of the keys in a list for which `P` holds, each once, in the order in which they first come
-- there.
structure FirstCome (all : List κ) (P : κ → Prop) (ks : List κ) : Prop where
  mem    : ∀ k, k ∈ ks ↔ k ∈ all ∧ P k
  nodup  : ks.Nodup
  sorted : ks.Pairwise fun j k => all.idxOf j < all.idxOf k

variable {all ks : List κ} {P Q : κ → Prop}

theorem sorted_eraseDups (ks : List κ) :
    ks.eraseDups.Pairwise fun j k => ks.idxOf j < ks.idxOf k := by
  induction ks using List.reverseRecOn
  case nil => exact .nil
  case append_singleton ks k ih =>
    have hi {j : κ} (hj : j ∈ ks) : (ks ++ [k]).idxOf j = ks.idxOf j :=
      List.idxOf_append_of_mem hj
    have hs : ks.eraseDups.Pairwise fun i j => (ks ++ [k]).idxOf i < (ks ++ [k]).idxOf j :=
      ih.imp_of_mem fun hi' hj' h => by
        rwa [hi (List.mem_eraseDups.1 hi'), hi (List.mem_eraseDups.1 hj')]
    rw [OrderedMap.eraseDups_concat]
    split
    case isTrue    => exact hs
    case isFalse h =>
      refine List.pairwise_append.2 ⟨hs, List.pairwise_singleton .., fun j hj k' hk' => ?_⟩
      rw [List.mem_singleton.1 hk', hi (List.mem_eraseDups.1 hj), List.idxOf_append_of_notMem h]
      exact Nat.lt_add_right _ (List.idxOf_lt_length_of_mem (List.mem_eraseDups.1 hj))

theorem firstCome_eraseDups (all : List κ) : FirstCome all (fun _ => True) all.eraseDups where
  mem k  := by simp
  nodup  := (sorted_eraseDups all).imp fun h he => by simp [he] at h
  sorted := sorted_eraseDups all

theorem FirstCome.filter [DecidablePred Q] (h : FirstCome all P ks) :
    FirstCome all (fun k => P k ∧ Q k) (ks.filter fun k => Q k) where
  mem k  := by simp [h.mem, and_assoc]
  nodup  := h.nodup.filter _
  sorted := h.sorted.filter _

theorem FirstCome.of_iff (h : FirstCome all P ks) (hpq : ∀ k, P k ↔ Q k) : FirstCome all Q ks :=
  ⟨fun k => by rw [h.mem, hpq], h.nodup, h.sorted⟩

end FirstCome

section Merges

variable {Id W : Type} [DecidableEq Id] [Zero W] [Add W]

theorem firstCome_union (operands : List (List (Hit Id W))) :
    FirstCome (operands.flatMap ids) (fun _ => True) (ids (union operands)) := by
  have hi : ids operands.flatten = operands.flatMap ids := by
    rw [ids, List.map_flatten, List.flatMap_def]
    rfl
  rw [union, ids_ofTally, keys_tally, hi]
  exact firstCome_eraseDups _

theorem firstCome_intersection (first : List (Hit Id W)) (rest : List (List (Hit Id W))) :
    FirstCome (ids first) (fun id => ∀ hits ∈ rest, id ∈ ids hits)
      (ids (intersection (first :: rest))) := by
  have hf := (firstCome_eraseDups (ids first)).filter (Q := fun id => ∀ hits ∈ rest, id ∈ ids hits)
  rw [ids_intersection_cons]
  exact hf.of_iff fun id => by rw [true_and]

-- A union has each id of its operands once, in the order in which they first come in the operands
-- one after another, with the sum of all its weights there. An intersection has each id of all
-- operands once, in the order in which they first come in the first one, with the sum of what it
-- weighs in each operand. There is nothing in no operands.
theorem merges_exact :
    (∀ operands : List (List (Hit Id W)),
      (FirstCome (operands.flatMap ids) (fun _ => True) (ids (union operands))) ∧
      (∀ h ∈ union operands, h.weight = leftSum (weightsOf h.id operands.flatten))) ∧
    (∀ (first : List (Hit Id W)) (rest : List (List (Hit Id W))),
      (FirstCome (ids first) (fun id => ∀ hits ∈ rest, id ∈ ids hits)
        (ids (intersection (first :: rest)))) ∧
      (∀ h ∈ intersection (first :: rest), h.weight =
        (rest.map fun hits => leftSum (weightsOf h.id hits)).foldl (· + ·)
          (leftSum (weightsOf h.id first)))) ∧
    (union ([] : List (List (Hit Id W))) = []) ∧
    (intersection ([] : List (List (Hit Id W))) = []) := by
  refine ⟨fun operands => ⟨firstCome_union operands, ?_⟩,
    fun first rest => ⟨firstCome_intersection first rest, ?_⟩, rfl, rfl⟩
  case refine_1 => exact fun h hm => weight_of_mem_union hm
  case refine_2 => exact fun h hm => (mem_intersection.1 hm).2

end Merges

end EntitySearch.Hit
