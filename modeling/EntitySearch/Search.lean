import EntitySearch.Query.Compile
import EntitySearch.Store

namespace EntitySearch

inductive SearchError
  | syntaxError (error : SyntaxError)
  | resolveError (error : ResolveError)
  deriving DecidableEq, Repr

def SearchError.message : SearchError → String
  | syntaxError e => "Syntax error: " ++ e.message
  | resolveError e => "Resolve error: " ++ e.message

def Store.search (s : Store) (source : String) : Except SearchError (List (Hit String Double)) :=
  match compile .standard source with
  | .error e => .error (.syntaxError e)
  | .ok q =>
    match q.resolve s.backend.resolver with
    | .error e => .error (.resolveError e)
    | .ok hits => .ok hits

end EntitySearch
