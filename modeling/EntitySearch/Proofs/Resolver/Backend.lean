import EntitySearch.Proofs.Except
import EntitySearch.Resolver.Backend

namespace EntitySearch.Backend

section Parameters

variable {m : Type → Type} [Monad m] [MonadExcept ResolveError m]
variable {relation : Relation} {params : Params} {parameter value : String}

theorem requiredParameter_of_some (h : params.get? parameter = some value) :
    requiredParameter (m := m) relation params parameter = pure value := by
  simp only [requiredParameter, h]

theorem requiredParameter_of_none (h : params.get? parameter = none) :
    requiredParameter (m := m) relation params parameter =
      throw (.missingParameter (Named.name relation) parameter) := by
  simp only [requiredParameter, h]

end Parameters

variable {Id W : Type} [DecidableEq Id] [Zero W] [One W] [Add W]
variable {b : Backend (Except ResolveError) Id W} {params : Params} {hits : List (Hit Id W)}

theorem requiredParameter_eq_ok_iff {relation : Relation} {parameter value : String} :
    requiredParameter (m := Except ResolveError) relation params parameter = .ok value ↔
      params.get? parameter = some value := by
  unfold requiredParameter
  cases params.get? parameter <;> simp [pure, Except.pure, throw, throwThe, MonadExceptOf.throw]

theorem function_linkTo_eq_ok_iff :
    b.resolver.function .linkTo params = .ok hits ↔
      ∃ id collection ids, (params.get? "id" = some id) ∧ (params.get? "type" = some collection) ∧
        (b.linked collection id = .ok ids) ∧ ((ids.map fun id => ⟨id, 1⟩) = hits) := by
  simp only [resolver, bind_eq_ok_iff, requiredParameter_eq_ok_iff, pure, Except.pure,
    Except.ok.injEq, exists_and_left]

end EntitySearch.Backend
