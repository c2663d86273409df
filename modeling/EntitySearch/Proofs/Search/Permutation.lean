import EntitySearch.Proofs.Store.Permutation

namespace EntitySearch

open Store

variable {c c' : Contents}

end EntitySearch
