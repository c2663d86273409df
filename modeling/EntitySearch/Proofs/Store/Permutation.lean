import EntitySearch.Proofs.Hit.Permutation
import EntitySearch.Proofs.Query.Relation
import EntitySearch.Proofs.Store.Steps

namespace EntitySearch.Store

section Contents

variable {ps ps' : List Profile} {c c' : Contents}

end Contents

section Words

variable {ps : List Profile} {ws ws' : List String}

end Words

section Links

variable {links links' : List Link}

end Links

end EntitySearch.Store
