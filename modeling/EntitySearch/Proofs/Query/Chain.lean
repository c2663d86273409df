import EntitySearch.Proofs.Hit.Merge
import EntitySearch.Proofs.Number.Double
import EntitySearch.Proofs.Query.Evaluation
import EntitySearch.Resolver.Recording

namespace EntitySearch.Query

variable {m : Type → Type} [Monad m] {A C F Id W : Type}

-- Queries joined from left to right.
def chain (kind : C) (first : Query A C F) (others : List (Query A C F)) : Query A C F :=
  others.foldl (joined kind) first

theorem chain_concat (kind : C) (first q : Query A C F) (others : List (Query A C F)) :
    chain kind first (others ++ [q]) = joined kind (chain kind first others) q := by
  simp [chain]

-- A connective and a kind of aggregate that merge alike, where it makes no difference if some first
-- operands were merged before.
structure MergesAlike (r : Resolver m A C F Id W) (connective : C) (kind : A)
    (merge : List (List (Hit Id W)) → List (Hit Id W)) : Prop where
  joined    : ∀ left, r.joined connective left = fun right => pure (merge [left, right])
  aggregate : r.aggregate kind = fun found => pure (merge found)
  merged    : ∀ first others hits,
    merge [merge (first :: others), hits] = merge (first :: (others ++ [hits]))

section Chain

variable [LawfulMonad m] {r : Resolver m A C F Id W} {connective : C} {kind : A}
variable {merge : List (List (Hit Id W)) → List (Hit Id W)}

theorem resolve_chain_eq (h : MergesAlike r connective kind merge) (q₀ q₁ : Query A C F)
    (qs : List (Query A C F)) :
    (chain connective q₀ (q₁ :: qs)).resolve r =
      q₀.resolve r >>= fun first => resolveAll r (q₁ :: qs) >>= fun others =>
        pure (merge (first :: others)) := by
  induction qs using List.reverseRecOn
  case nil =>
    simp only [chain, List.foldl_cons, List.foldl_nil, resolve_joined, h.joined, resolveAll_cons,
      resolveAll_nil, bind_assoc, pure_bind]
  case append_singleton qs q ih =>
    -- What the chain before `q` gives is merged once more, with what `q` gives.
    rw [← List.cons_append, chain_concat, resolve_joined, ih, resolveAll_append]
    simp only [h.joined, h.merged, List.cons_append, resolveAll_cons, resolveAll_nil, bind_assoc,
      pure_bind]

theorem resolve_chain (h : MergesAlike r connective kind merge) (q₀ q₁ : Query A C F)
    (qs : List (Query A C F)) :
    (chain connective q₀ (q₁ :: qs)).resolve r = (aggregate kind (q₀ :: q₁ :: qs)).resolve r := by
  rw [resolve_chain_eq h, resolve_aggregate, resolveAll_cons r q₀]
  simp only [h.aggregate, bind_assoc, pure_bind]

end Chain

section Backend

variable [MonadExcept ResolveError m] [DecidableEq Id] [Zero W] [One W] [Add W]

theorem mergesAlike_every (b : Backend m Id W) (hz : Hit.ZeroAddsNothing W) :
    MergesAlike b.resolver .and .every Hit.intersection where
  joined _                 := rfl
  aggregate                := rfl
  merged first others hits := Hit.intersection_intersection hz first hits others

theorem mergesAlike_some (b : Backend m Id W) (hz : Hit.ZeroAddsNothing W) :
    MergesAlike b.resolver .or .some Hit.union where
  joined _                 := rfl
  aggregate                := rfl
  merged first others hits := Hit.union_union hz (first :: others) hits

end Backend

-- A chain is evaluated as the aggregate of its operands, whichever lookups there are and whatever
-- else they do: with the same hits in the same order, or the same error, behind the same lookups.
-- Of addition it is only assumed that zero adds nothing to a sum, which is so for doubles.
theorem resolve_chain_backend :
    Hit.ZeroAddsNothing Double ∧
    ∀ {m : Type → Type} [Monad m] [LawfulMonad m] [MonadExcept ResolveError m] {Id W : Type}
      [DecidableEq Id] [Zero W] [One W] [Add W] (b : Backend m Id W),
      Hit.ZeroAddsNothing W → ∀ q₀ q₁ qs,
      ((chain .and q₀ (q₁ :: qs)).resolve b.resolver =
        (aggregate .every (q₀ :: q₁ :: qs)).resolve b.resolver) ∧
      ((chain .or q₀ (q₁ :: qs)).resolve b.resolver =
        (aggregate .some (q₀ :: q₁ :: qs)).resolve b.resolver) := by
  refine ⟨Double.zeroAddsNothing, fun b hz q₀ q₁ qs => ⟨?_, ?_⟩⟩
  · exact resolve_chain (mergesAlike_every b hz) q₀ q₁ qs
  · exact resolve_chain (mergesAlike_some b hz) q₀ q₁ qs

-- Terms find `x` twice, and lookups of tags fail.
theorem resolve_chain_backend_recording :
    let b : Backend (Recorded Backend.Call ResolveError) String Double :=
      .recording fun
        | .fullText _, _ => .ok [⟨"x", 1⟩, ⟨"y", 1⟩, ⟨"x", 1⟩]
        | _, _           => .error (.backend "down")
    let q : Query Quantifier Connective Relation := .fullText "a"
    Hit.ZeroAddsNothing Double ∧
    ((chain .and q [q, q]).resolve b.resolver = (aggregate .every [q, q, q]).resolve b.resolver) ∧
    ((chain .or q [.property "/n/p" "v", q]).resolve b.resolver =
      (aggregate .some [q, .property "/n/p" "v", q]).resolve b.resolver) := by
  intro b q
  obtain ⟨hz, h⟩ := resolve_chain_backend
  exact ⟨hz, (h b hz q q [q]).1, (h b hz q (.property "/n/p" "v") [q]).2⟩

end EntitySearch.Query
