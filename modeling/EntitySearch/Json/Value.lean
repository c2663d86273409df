import EntitySearch.Number.Double

namespace EntitySearch.Json

-- A number. Whole ones are kept exactly as far as 64 bits go; `negative n` is less than zero.
inductive Number
  | natural (n : Nat)
  | negative (n : Nat)
  | double (a : Double)
  deriving DecidableEq

inductive Value
  | null
  | bool (b : Bool)
  | number (n : Number)
  | string (s : String)
  | array (items : List Value)
  | object (entries : List (String × Value))

end EntitySearch.Json
