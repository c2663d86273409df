import EntitySearch.Json.Value

namespace EntitySearch.Json

inductive Fault
  | endsEarly
  | malformed
  deriving DecidableEq, Repr

-- Text that is read is held to more than text that is skipped: a string that is skipped may hold
-- half a surrogate pair, and a number may be out of range. So a token says whether it can be read,
-- and a broken one what is wrong with it either way.
inductive Token
  | openBrace
  | closeBrace
  | openBracket
  | closeBracket
  | comma
  | colon
  | null
  | bool (b : Bool)
  -- A number, with its value unless that is out of range.
  | number (value : Option Number)
  -- A string, with its content unless half a surrogate pair is in it.
  | string (content : Option String)
  | brokenWord (fault : Fault)
  -- A broken number. When skipped, it is malformed.
  | brokenNumber (whenRead : Fault)
  | brokenString (whenRead whenSkipped : Fault)
  | stray
  deriving DecidableEq

end EntitySearch.Json
