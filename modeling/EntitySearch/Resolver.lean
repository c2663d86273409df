import EntitySearch.Hit
import EntitySearch.Query

namespace EntitySearch

inductive ResolveError
  | invalidPath (path : String)
  | missingParameter (function parameter : String)
  | unknownCollection (collection : String)
  | backend (text : String)
  deriving DecidableEq, Repr

def ResolveError.message : ResolveError → String
  | invalidPath path =>
    "Invalid property path '" ++ path ++ "': expected /<collection>/<subpath>"
  | missingParameter function parameter =>
    "Function '" ++ function ++ "' requires parameter '" ++ parameter ++ "'"
  | unknownCollection collection => "Unknown collection: " ++ collection
  | backend text => "Backend error: " ++ text

structure Resolver (m : Type → Type) (A C F Id W : Type) where
  fullText (term : String) : m (List (Hit Id W))
  property (path value : String) : m (List (Hit Id W))
  function (name : F) (params : Params) : m (List (Hit Id W))
  -- Merges what two or more children found.
  aggregate (kind : A) (children : List (List (Hit Id W))) : m (List (Hit Id W))
  joined (kind : C) (left right : List (Hit Id W)) : m (List (Hit Id W))

namespace Query

variable {m : Type → Type} [Monad m] {A C F Id W : Type}

mutual

-- Evaluates a query, its parts one after another in the order of the text. An aggregate of nothing
-- finds nothing, and one of a single child what that finds; neither is merged.
def resolve (r : Resolver m A C F Id W) : Query A C F → m (List (Hit Id W))
  | fullText term => r.fullText term
  | property path value => r.property path value
  | aggregate kind children =>
    match children with
    | [] => pure []
    | [child] => resolve r child
    | children => do r.aggregate kind (← resolveAll r children)
  | joined kind left right => do
    let leftFound ← resolve r left
    let rightFound ← resolve r right
    r.joined kind leftFound rightFound
  | function name params => r.function name params

def resolveAll (r : Resolver m A C F Id W) : List (Query A C F) → m (List (List (Hit Id W)))
  | [] => pure []
  | child :: children => do
    let found ← resolve r child
    return found :: (← resolveAll r children)

end

end Query

end EntitySearch
