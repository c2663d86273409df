namespace EntitySearch

-- A place in a text. Rows and columns count from one, a column being one character; the offset
-- counts the bytes of the text in UTF-8.
@[ext]
structure Position where
  row : Nat
  column : Nat
  offset : Nat
  deriving DecidableEq, Repr

namespace Position

def start : Position where
  row := 1
  column := 1
  offset := 0

-- The place behind a character. A line feed begins a new row.
def next (p : Position) (c : Char) : Position :=
  if c = '\n' then
    { row := p.row + 1, column := 1, offset := p.offset + c.utf8Size }
  else
    { p with column := p.column + 1, offset := p.offset + c.utf8Size }

-- The place behind a text that begins at `p`.
def advance (p : Position) (cs : List Char) : Position :=
  cs.foldl next p

@[simp]
theorem advance_nil (p : Position) : p.advance [] = p := rfl

@[simp]
theorem advance_cons (p : Position) (c : Char) (cs : List Char) :
    p.advance (c :: cs) = (p.next c).advance cs := rfl

theorem advance_append (p : Position) (cs ds : List Char) :
    p.advance (cs ++ ds) = (p.advance cs).advance ds := by
  simp [advance]

-- The longest beginning of a text that takes at most `n` bytes.
def within : Nat → List Char → List Char
  | _, [] => []
  | n, c :: cs => if c.utf8Size ≤ n then c :: within (n - c.utf8Size) cs else []

-- The place at a byte offset. An offset inside a character stands for the place before it, and one
-- beyond the text for its end.
def locate (source : String) (offset : Nat) : Position :=
  start.advance (within offset source.toList)

def endOf (source : String) : Position :=
  start.advance source.toList

-- The place in words, as messages give it.
def describe (p : Position) : String :=
  s!"line {p.row}, column {p.column}"

end Position

end EntitySearch
