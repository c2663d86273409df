import EntitySearch.Json.Token
import EntitySearch.Number.Layout
import EntitySearch.Text.Literal

namespace EntitySearch.Json

inductive Found
  | null
  | bool (b : Bool)
  | number (n : Number)
  | string (s : String)
  | array
  | object
  deriving DecidableEq

def Found.describe : Found → String
  | null => "null"
  | bool b => "boolean `" ++ (if b then "true" else "false") ++ "`"
  | number (.natural n) => "integer `" ++ Nat.repr n ++ "`"
  | number (.negative n) => "integer `-" ++ Nat.repr n ++ "`"
  | number (.double a) => "floating point `" ++ Layout.json.write a ++ "`"
  | string s => "string " ++ Literal.quoted s
  | array => "sequence"
  | object => "map"

inductive Expected
  | string
  | array
  | object
  | record (name : String)
  deriving DecidableEq, Repr

def Expected.describe : Expected → String
  | string => "a string"
  | array => "a sequence"
  | object => "a map"
  | record name => "struct " ++ name

inductive Mismatch
  | kind (found : Found) (expected : Expected)
  | missingField (name : String)
  | duplicateField (name : String)
  -- An array of `length` items for a record of `size` fields that cannot do without more.
  | tooShort (length : Nat) (record : String) (size : Nat)
  -- A value of none of the forms that a type has.
  | noForm (type : String)
  deriving DecidableEq

def Mismatch.message : Mismatch → String
  | kind found expected =>
    "invalid type: " ++ found.describe ++ ", expected " ++ expected.describe
  | missingField name => "missing field `" ++ name ++ "`"
  | duplicateField name => "duplicate field `" ++ name ++ "`"
  | tooShort length record size =>
    "invalid length " ++ Nat.repr length ++ ", expected struct " ++ record ++ " with " ++
      Nat.repr size ++ " elements"
  | noForm type => "data did not match any variant of untagged enum " ++ type

inductive Error
  | fault (fault : Fault)
  | mismatch (mismatch : Mismatch)
  deriving DecidableEq

end EntitySearch.Json
