import EntitySearch.Expression.Parser
import EntitySearch.Query
import EntitySearch.Vocabulary

namespace EntitySearch

variable {A C F : Type}

structure RejectedName where
  role : NameRole
  word : Word
  deriving DecidableEq, Repr

-- What a name in an expression stands for.
def Word.lookup {α : Type} (role : NameRole) (meaning? : String → Option α) (w : Word) :
    Except RejectedName α :=
  match meaning? w.content with
  | some a => .ok a
  | none => .error { role := role, word := w }

def Params.ofArguments (arguments : List (Word × Word)) : Params :=
  .ofList (arguments.map fun a => (a.1.content, a.2.content))

namespace Vocabulary

variable (v : Vocabulary A C F)

mutual

def queryOfTerm : Term → Except RejectedName (Query A C F)
  | .group _ inner => queryOfChain inner
  | .fullText term => .ok (.fullText term.content)
  | .property path value => .ok (.property path.content value.content)
  | .function _ name arguments => do
    let f ← name.lookup .function v.function?
    return .function f (.ofArguments arguments)
  | .aggregate _ name contents => do
    let kind ← name.lookup .aggregate v.aggregate?
    return .aggregate kind (← queriesOfChains contents)

def queryOfChain : Chain → Except RejectedName (Query A C F)
  | .operand t => queryOfTerm t
  | .joined before connective t => do
    let left ← queryOfChain before
    let kind ← connective.lookup .connective v.connective?
    return .joined kind left (← queryOfTerm t)

def queriesOfChains : List Chain → Except RejectedName (List (Query A C F))
  | [] => .ok []
  | c :: cs => do
    let q ← queryOfChain c
    return q :: (← queriesOfChains cs)

end

-- The query of all expressions of a text.
def query (cs : List Chain) : Except RejectedName (Query A C F) := do
  return .aggregate v.top (← v.queriesOfChains cs)

end Vocabulary

def compile (v : Vocabulary A C F) (source : String) : Except SyntaxError (Query A C F) := do
  match v.query (← parse source) with
  | .ok q => return q
  | .error e =>
    throw (.ofFault (.unknownName e.role e.word.content) source e.word.position)

end EntitySearch
