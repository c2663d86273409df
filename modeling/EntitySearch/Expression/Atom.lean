import EntitySearch.Expression

namespace EntitySearch

-- What the grammar of expressions sees of a token: no blanks, no quote marks, and of its span only
-- the start.
inductive Atom
  | symbol (symbol : Symbol) (position : Position)
  | path (word : Word)
  | value (word : Word)
  deriving DecidableEq, Repr

namespace Atom

def position : Atom → Position
  | symbol _ p => p
  | path w => w.position
  | value w => w.position

-- The kind of token that an atom stands for. Whether a value was quoted is not known any more.
def kind : Atom → TokenKind
  | symbol s _ => .symbol s
  | path w => .path w.content
  | value w => .value w.content none

end Atom

namespace Token

-- The atom of a token. Blanks have none.
def atom? (t : Token) : Option Atom :=
  match t.kind with
  | .symbol s => some (.symbol s t.start)
  | .path content => some (.path { content := content, position := t.start })
  | .space => none
  | .value content _ => some (.value { content := content, position := t.start })

end Token

end EntitySearch
