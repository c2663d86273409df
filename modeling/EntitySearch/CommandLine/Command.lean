import EntitySearch.CommandLine.Arguments

namespace EntitySearch.CommandLine

inductive Command
  | tokens (query : String)
  | check (query : String)
  | format (query : String)
  -- Searches the store in a file, and shows up to `limit` hits, or all of them for zero.
  | search (store : String) (limit : Nat) (json : Bool) (query : String)
  deriving DecidableEq, Repr

inductive Refusal
  | help
  | usage
  deriving DecidableEq, Repr

namespace Command

-- How many hits are shown unless something else is asked for.
def usualLimit : Nat := 20

-- Reads a limit: digits that make a number of 64 bits, perhaps behind a plus sign.
def limitOf? (text : String) : Option Nat :=
  let digits := match text.toList with
    | '+' :: cs => cs
    | cs => cs
  let n := digits.foldl (fun n d => n * 10 + (d.toNat - '0'.toNat)) 0
  if digits ≠ [] && digits.all Char.isDigit && n < Nat.pow 2 64 then some n else none

structure Draft where
  store : Option String
  limit : Option Nat
  json : Bool
  query : Option String

namespace Draft

def empty : Draft where
  store := none
  limit := none
  json := false
  query := none

-- Takes in one argument. None may be given twice.
def take (d : Draft) : Argument → Except Refusal Draft
  | .plain text =>
    if d.query.isNone then .ok { d with query := some text } else .error .usage
  | .switch "json" => if d.json then .error .usage else .ok { d with json := true }
  | .setting "store" value =>
    if d.store.isNone && value ≠ "" then .ok { d with store := some value } else .error .usage
  | .setting "limit" value =>
    match d.limit, limitOf? value with
    | none, some n => .ok { d with limit := some n }
    | _, _ => .error .usage
  | .help => .error .help
  | _ => .error .usage

-- Arguments are taken in from left to right: the first one that cannot be used, or that asks for
-- help, decides.
def ofArguments (switches : List Switch) (args : List String) : Except Refusal Draft :=
  (readArguments switches args).foldlM take empty

end Draft

def searchSwitches : List Switch := [
  { short := some 's', long := "store", takesValue := true },
  { short := some 'l', long := "limit", takesValue := true },
  { short := none, long := "json", takesValue := false }]

-- A command that takes a query and nothing else.
def ofQuery (make : String → Command) (args : List String) : Except Refusal Command := do
  match (← Draft.ofArguments [] args).query with
  | some query => .ok (make query)
  | none => .error .usage

-- A search. It cannot do without a store and a query.
def ofSearch (args : List String) : Except Refusal Command := do
  let d ← Draft.ofArguments searchSwitches args
  match d.store, d.query with
  | some store, some query => .ok (.search store (d.limit.getD usualLimit) d.json query)
  | _, _ => .error .usage

def names : List String :=
  ["tokens", "check", "fmt", "search", "help"]

-- What is refused when help is asked for: nothing, unless it is help on what is no command.
def helpOn : List String → Refusal
  | [] => .help
  | [name] => if name ∈ names then .help else .usage
  | _ => .usage

def ofArguments : List String → Except Refusal Command
  | [] => .error .usage
  | "tokens" :: args => ofQuery .tokens args
  | "check" :: args => ofQuery .check args
  | "fmt" :: args => ofQuery .format args
  | "search" :: args => ofSearch args
  | "help" :: args => .error (helpOn args)
  | arg :: _ => .error (if readOne [] arg = .inl .help then .help else .usage)

end Command

end EntitySearch.CommandLine
