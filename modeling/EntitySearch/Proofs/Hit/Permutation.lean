import EntitySearch.Proofs.Hit.Merge
import EntitySearch.Proofs.RelatedLists
import Mathlib.Data.List.Nodup

namespace EntitySearch.Hit

variable {Id W : Type} [DecidableEq Id] {hits hits' : List (Hit Id W)} {id : Id}

-- Holds of lists in which each id has the same weights, in the same order. Nothing is said of how
-- the hits of one id stand to those of others. Sums are taken over the weights of one id, so that
-- they are the same however they are rounded.
def SameWeights (hits hits' : List (Hit Id W)) : Prop :=
  ∀ id, weightsOf id hits = weightsOf id hits'

namespace SameWeights

theorem mem_ids (h : SameWeights hits hits') : id ∈ ids hits ↔ id ∈ ids hits' := by
  rw [← not_iff_not, ← weightsOf_eq_nil_iff, ← weightsOf_eq_nil_iff, h id]

theorem flatten {operands operands' : List (List (Hit Id W))}
    (h : List.Forall₂ SameWeights operands operands') :
    SameWeights operands.flatten operands'.flatten := by
  intro id
  rw [weightsOf_flatten, weightsOf_flatten, map_eq_of_forall₂ h fun _ _ hw _ => (hw id).symm]

theorem weightIn [Zero W] [Add W] (h : SameWeights hits hits') (id : Id) :
    weightIn id hits = Hit.weightIn id hits' :=
  congrArg leftSum (h id)

end SameWeights

end EntitySearch.Hit
