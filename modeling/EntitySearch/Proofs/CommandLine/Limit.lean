import EntitySearch.CommandLine
import EntitySearch.Proofs.Hit.Rank
import EntitySearch.Proofs.Query.Reading
import EntitySearch.Proofs.Query.Relation
import EntitySearch.Proofs.Store.Spelling
import EntitySearch.Proofs.Store.Steps

namespace EntitySearch.CommandLine

section Limit

variable {α : Type} {hits : List α} {k l : Nat}

end Limit

section Search

variable {content store query : String} {contents : Store.Contents}
  {hits : List (Hit String Double)}

-- Holds of the outcome that a search has under all limits and in both formats.
def Ends (content? : Option String) (store query : String) (outcome : Outcome) : Prop :=
  ∀ limit json, (Command.search store limit json query).run content? = outcome

end Search

end EntitySearch.CommandLine
