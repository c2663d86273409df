import EntitySearch.Hit.Merge
import EntitySearch.Resolver
import EntitySearch.Resolver.PropertyPath
import EntitySearch.Vocabulary.Standard

namespace EntitySearch

structure Backend (m : Type → Type) (Id W : Type) where
  -- The entities of a collection that have a value at a subpath.
  tagged (collection subpath value : String) : m (List (Hit Id W))
  fullText (term : String) : m (List (Hit Id W))
  -- The entities at the other ends of the links of an entity.
  linked (collection id : String) : m (List Id)

namespace Backend

variable {m : Type → Type} [Monad m] [MonadExcept ResolveError m]
variable {Id W : Type}

-- The value of a parameter that a function cannot do without.
def requiredParameter (function : Relation) (params : Params) (parameter : String) : m String :=
  match params.get? parameter with
  | some value => pure value
  | none => throw (.missingParameter (Named.name function) parameter)

variable [DecidableEq Id] [Zero W] [One W] [Add W]

def resolver (b : Backend m Id W) : Resolver m Quantifier Connective Relation Id W where
  fullText := b.fullText
  property path value :=
    match PropertyPath.ofString? path with
    | some p => b.tagged p.collection p.subpath value
    | none => throw (.invalidPath path)
  function
    | .linkTo, params => do
      let id ← requiredParameter .linkTo params "id"
      let collection ← requiredParameter .linkTo params "type"
      let ids ← b.linked collection id
      return ids.map fun id => { id := id, weight := 1 }
  aggregate kind children := pure <|
    match kind with
    | .every => Hit.intersection children
    | .some => Hit.union children
  joined kind left right := pure <|
    match kind with
    | .and => Hit.intersection [left, right]
    | .or => Hit.union [left, right]
    | .exclude => Hit.exclude left right

end Backend

end EntitySearch
