import EntitySearch.Json.Value
import EntitySearch.Number.Layout

namespace EntitySearch.Json

-- The spelling of a character between quotes. Control characters are escaped.
def spellChar (c : Char) : List Char :=
  match c with
  | '"' => ['\\', '"']
  | '\\' => ['\\', '\\']
  | '\x08' => ['\\', 'b']
  | '\x0c' => ['\\', 'f']
  | '\n' => ['\\', 'n']
  | '\r' => ['\\', 'r']
  | '\t' => ['\\', 't']
  | c =>
    if c < ' ' then
      ['\\', 'u', '0', '0', Nat.digitChar (c.toNat / 16), Nat.digitChar (c.toNat % 16)]
    else [c]

def spellString (s : String) : List Char :=
  '"' :: (s.toList.flatMap spellChar ++ ['"'])

def spellNumber : Number → List Char
  | .natural n => (Nat.repr n).toList
  | .negative n => '-' :: (Nat.repr n).toList
  | .double a => (Layout.json.write a).toList

def separated (sep : List Char) : List (List Char) → List Char
  | [] => []
  | [t] => t
  | t :: ts => t ++ sep ++ separated sep ts

namespace Value

mutual

-- The shortest spelling of a value.
def spell : Value → List Char
  | null => "null".toList
  | bool b => (if b then "true" else "false").toList
  | number n => spellNumber n
  | string s => spellString s
  | array items => '[' :: (separated [','] (spellItems items) ++ [']'])
  | object entries => '\x7b' :: (separated [','] (spellEntries entries) ++ ['\x7d'])

def spellItems : List Value → List (List Char)
  | [] => []
  | v :: vs => spell v :: spellItems vs

def spellEntries : List (String × Value) → List (List Char)
  | [] => []
  | (key, v) :: es => (spellString key ++ ':' :: spell v) :: spellEntries es

end

-- Puts texts on lines of their own between brackets, indented one step further than the brackets.
-- Without texts the brackets stand together.
def block (opening closing : Char) (level : Nat) (texts : List (List Char)) : List Char :=
  let line := fun level => '\n' :: List.replicate (2 * level) ' '
  if texts.isEmpty then [opening, closing]
  else
    opening :: line (level + 1) ++ separated (',' :: line (level + 1)) texts ++ line level ++
      [closing]

mutual

-- The spelling of a value over several lines, in a text that is indented by some steps.
def spellLines (level : Nat) : Value → List Char
  | array items => block '[' ']' level (itemLines (level + 1) items)
  | object entries => block '\x7b' '\x7d' level (entryLines (level + 1) entries)
  | v => v.spell

def itemLines (level : Nat) : List Value → List (List Char)
  | [] => []
  | v :: vs => spellLines level v :: itemLines level vs

def entryLines (level : Nat) : List (String × Value) → List (List Char)
  | [] => []
  | (key, v) :: es => (spellString key ++ ':' :: ' ' :: spellLines level v) :: entryLines level es

end

def compact (v : Value) : String :=
  String.ofList v.spell

def pretty (v : Value) : String :=
  String.ofList (v.spellLines 0)

end Value

end EntitySearch.Json
