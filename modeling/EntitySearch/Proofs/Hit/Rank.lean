import EntitySearch.Hit.Rank
import EntitySearch.Proofs.Number.TotalOrder

namespace EntitySearch.Hit

section Rank

variable {Id : Type} {hits ranked : List (Hit Id Double)}

end Rank

end EntitySearch.Hit
