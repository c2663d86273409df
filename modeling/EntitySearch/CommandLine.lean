import EntitySearch.CommandLine.Command
import EntitySearch.Hit.Rank
import EntitySearch.Json.Writer
import EntitySearch.Query.Printer
import EntitySearch.Search
import EntitySearch.Store.Reader

namespace EntitySearch.CommandLine

-- What a run of the program ends with. Of an error in reading a file, its causes are left out. What
-- is logged goes to the standard error too, each message on a line with the time.
structure Outcome where
  status : Nat
  output : String
  errors : String
  log    : List String
  deriving DecidableEq, Repr

namespace Outcome

def success (output : String) : Outcome where
  status := 0
  output := output
  errors := ""
  log    := []

-- A search that finds a number of hits logs how many there are, shown or not.
def found (count : Nat) (output : String) : Outcome :=
  { success output with log := [Nat.repr count ++ " hits"] }

-- A failure that is told on a line of its own.
def failure (message : String) : Outcome where
  status := 1
  output := ""
  errors := message ++ "\n"
  log    := []

def ofRefusal (usage : String) : Refusal → Outcome
  | .help => success usage
  | .usage => { status := 2, output := "", errors := usage, log := [] }

end Outcome

-- Texts on a line each.
def onLines (texts : List String) : String :=
  String.join (texts.map (· ++ "\n"))

-- How the kinds of tokens are called. Blanks are not shown.
def kindName? : TokenKind → Option String
  | .symbol _ => some "symbol"
  | .path _ => some "path"
  | .space => none
  | .value _ (some _) => some "quoted"
  | .value _ none => some "value"

-- The line of a token: its place, its kind and its text.
def tokenLine? (t : Token) : Option String := do
  let kind ← kindName? t.kind
  return Nat.repr t.start.row ++ ":" ++ Nat.repr t.start.column ++ "\t" ++ kind ++ "\t" ++ t.text

def hitLine (h : Hit String Double) : String :=
  Layout.plain.write h.weight ++ "\t" ++ h.id

def hitsValue (hits : List (Hit String Double)) : Json.Value :=
  .array (hits.map fun h =>
    .object [("id", .string h.id), ("weight", .number (.double h.weight))])

-- The first hits up to a limit, where zero stands for no limit.
def upTo {α : Type} (limit : Nat) (hits : List α) : List α :=
  if limit = 0 then hits else hits.take limit

namespace Command

-- The file that a command needs to be given.
def file? : Command → Option String
  | search store _ _ _ => some store
  | _ => none

-- Searches a store that is given as the text of its file.
def runSearch (store : String) (limit : Nat) (json : Bool) (query : String)
    (content? : Option String) : Outcome :=
  match content? with
  | none => .failure ("Error: reading store " ++ store)
  | some content =>
    match Store.Contents.ofText content with
    | .error _ => .failure ("Error: parsing store " ++ store)
    | .ok contents =>
      match (Store.ofContents contents).search query with
      | .error e => .failure e.message
      | .ok hits =>
        let shown := upTo limit (Hit.rank hits)
        .found hits.length
          (if json then (hitsValue shown).pretty ++ "\n" else onLines (shown.map hitLine))

-- Runs a command with the content of its file, if it needs one that can be read.
def run (content? : Option String) : Command → Outcome
  | tokens query =>
    match tokenize query with
    | .error e => .failure e.message
    | .ok ts => .success (onLines (ts.filterMap tokenLine?))
  | check query =>
    match compile .standard query with
    | .error e => .failure e.message
    | .ok _ => .success "ok\n"
  | format query =>
    match compile .standard query with
    | .error e => .failure e.message
    | .ok q => .success (q.source ++ "\n")
  | search store limit json query => runSearch store limit json query content?

end Command

def usage : String :=
  onLines [
    "Searches stores of entities.",
    "",
    "Usage:",
    "  tokens QUERY   shows the tokens of a query with their places",
    "  check QUERY    says whether a query compiles",
    "  fmt QUERY      shows the canonical form of a query",
    "  search -s FILE [-l N] [--json] QUERY",
    "                 searches a JSON store and shows up to N hits (20; 0 for all)"]

end EntitySearch.CommandLine
