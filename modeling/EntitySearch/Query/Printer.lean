import EntitySearch.Query
import EntitySearch.Text.Quoted
import EntitySearch.Token.Lexer
import EntitySearch.Vocabulary

namespace EntitySearch

-- Holds of the values that have to stand between quote marks: bare, they would be read as other
-- tokens.
def needsQuotes (value : List Char) : Bool :=
  match value with
  | [] => true
  | c :: _ => c = '/' || (QuoteMark.ofChar? c).isSome || value.any (!isBareChar ·)

-- The marks around a value. Double ones are used unless only single ones keep the value.
def quoteFor (value : List Char) : QuoteMark :=
  if Quoted.hasOddRun '"' value && !Quoted.hasOddRun '\'' value then .single else .double

def spellValue (value : String) : List Char :=
  let cs := value.toList
  if needsQuotes cs then
    let q := (quoteFor cs).toChar
    q :: (Quoted.encode q cs ++ [q])
  else cs

-- Texts with a space between them.
def spaced : List (List Char) → List Char
  | [] => []
  | [t] => t
  | t :: ts => t ++ ' ' :: spaced ts

-- The spelling of parameters. One without a value is left out.
def Params.spell (ps : Params) : List Char :=
  spaced ((ps.entries.filter (·.2 ≠ "")).map fun p => spellValue p.1 ++ '=' :: spellValue p.2)

namespace Query

variable {A C F : Type} [Named A] [Named C] [Named F]

mutual

-- The spelling of a query. A query with a connective stands in brackets, except at the left of
-- another connective, where it carries on the same chain.
def spellIn (inChain : Bool) : Query A C F → List Char
  | fullText term => spellValue term
  | property path value => path.toList ++ '=' :: spellValue value
  | aggregate kind children =>
    '$' :: ((Named.name kind).toList ++ '(' :: (spaced (spellAll children) ++ [')']))
  | joined kind left right =>
    let chain :=
      spellIn true left ++ ' ' :: '-' :: ((Named.name kind).toList ++ ' ' :: spellIn false right)
    if inChain then chain else '(' :: (chain ++ [')'])
  | function name params =>
    '%' :: ((Named.name name).toList ++ '(' :: (params.spell ++ [')']))

def spellAll : List (Query A C F) → List (List Char)
  | [] => []
  | q :: qs => spellIn false q :: spellAll qs

end

-- Compiling this text gives the query back, except that parameters without a value are left out,
-- and that a value which cannot be spelled gets a backslash where `Quoted.encode` has to add one.
def fullSource (q : Query A C F) : String :=
  String.ofList (spellIn false q)

-- The text of a query without the aggregate around it, which compiling puts there again.
def source (q : Query A C F) : String :=
  match q with
  | aggregate _ children => String.ofList (spaced (spellAll children))
  | q => q.fullSource

end Query

end EntitySearch
