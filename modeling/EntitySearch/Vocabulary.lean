namespace EntitySearch

class Named (α : Type) where
  name : α → String

-- Strings are their own names.
instance : Named String := ⟨id⟩

-- The meaning of the names of aggregates `A`, connectives `C` and functions `F`. A name without a
-- meaning is not part of the vocabulary.
structure Vocabulary (A C F : Type) where
  -- The aggregate around the expressions of a whole query.
  top : A
  aggregate? : String → Option A
  connective? : String → Option C
  function? : String → Option F

namespace Vocabulary

-- The vocabulary of lists of names that stand for themselves.
def ofNames (top : String) (aggregates connectives functions : List String) :
    Vocabulary String String String where
  top := top
  aggregate? n := if n ∈ aggregates then some n else none
  connective? n := if n ∈ connectives then some n else none
  function? n := if n ∈ functions then some n else none

end Vocabulary

end EntitySearch
