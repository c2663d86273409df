import EntitySearch.Text.Alphanumeric
import EntitySearch.Text.Lowercase

namespace EntitySearch

-- What stands before, between and behind the characters that `sep` holds of.
def splitWhere (sep : Char → Bool) : List Char → List (List Char)
  | [] => [[]]
  | c :: cs =>
    if sep c then [] :: splitWhere sep cs
    else match splitWhere sep cs with
      | piece :: pieces => (c :: piece) :: pieces
      | [] => [[c]]

-- The longest runs of letters and digits of a text.
def pieces (cs : List Char) : List (List Char) :=
  (splitWhere (!isAlphanumeric ·) cs).filter (· ≠ [])

-- The words of a text in order. Each is lower-cased by itself.
def words (text : String) : List String :=
  (pieces text.toList).map fun piece => String.ofList (lowercase piece)

end EntitySearch
