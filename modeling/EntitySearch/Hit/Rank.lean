import EntitySearch.Hit
import EntitySearch.Number.Double

namespace EntitySearch.Hit

variable {Id : Type}

-- Orders hits by falling weight. Hits of the same weight keep their order.
def rank (hits : List (Hit Id Double)) : List (Hit Id Double) :=
  hits.mergeSort fun a b => b.weight.orderKey ≤ a.weight.orderKey

end EntitySearch.Hit
