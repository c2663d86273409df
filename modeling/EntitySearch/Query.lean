import EntitySearch.OrderedMap

namespace EntitySearch

abbrev Params := OrderedMap String String

inductive Query (A C F : Type)
  | fullText (term : String)
  | property (path value : String)
  | aggregate (kind : A) (children : List (Query A C F))
  | joined (kind : C) (left right : Query A C F)
  | function (name : F) (params : Params)

namespace Query

variable {A C F : Type} [DecidableEq A] [DecidableEq C] [DecidableEq F]

mutual

-- Holds if two queries are the same, but for the order of their parameters.
def same : Query A C F → Query A C F → Bool
  | fullText s, fullText t => s = t
  | property p s, property q t => p = q && s = t
  | aggregate k qs, aggregate l rs => k = l && allSame qs rs
  | joined k q q', joined l r r' => k = l && same q r && same q' r'
  | function f ps, function g ps' => f = g && ps.sameEntries ps'
  | _, _ => false

def allSame : List (Query A C F) → List (Query A C F) → Bool
  | [], [] => true
  | q :: qs, r :: rs => same q r && allSame qs rs
  | _, _ => false

end

end Query

end EntitySearch
