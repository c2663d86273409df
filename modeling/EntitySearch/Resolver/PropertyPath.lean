import EntitySearch.Text.NameChar

namespace EntitySearch

-- A path to a property. The subpath keeps its leading slash.
structure PropertyPath where
  collection : String
  subpath : String
  deriving DecidableEq, Repr

namespace PropertyPath

-- Splits a path. The subpath must have something behind its slash, and no line feed there.
def ofString? (path : String) : Option PropertyPath :=
  match path.toList with
  | '/' :: cs =>
    match cs.takeWhile isNameChar, cs.dropWhile isNameChar with
    | [], _ => none
    | collection, '/' :: c :: rest =>
      if '\n' ∈ c :: rest then none
      else some
        { collection := String.ofList collection, subpath := String.ofList ('/' :: c :: rest) }
    | _, _ => none
  | _ => none

end PropertyPath

end EntitySearch
