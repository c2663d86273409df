namespace EntitySearch

-- The first line of a text. A carriage return right before the line feed does not belong to it.
def firstLine (cs : List Char) : List Char :=
  let line := cs.takeWhile (· ≠ '\n')
  match cs.dropWhile (· ≠ '\n'), line.getLast? with
  | _ :: _, some '\r' => line.dropLast
  | _, _ => line

-- What stands below the first `n` lines of a text. Below its last line nothing does, however many
-- lines are asked for.
def belowLines : Nat → List Char → List Char
  | _, [] => []
  | 0, cs => cs
  | n + 1, c :: cs => if c = '\n' then belowLines n cs else belowLines (n + 1) cs

-- The line of a row, counted from one. It is empty below the last line.
def lineAt (row : Nat) (cs : List Char) : List Char :=
  firstLine (belowLines (row - 1) cs)

-- A line of a text, and below it a caret under one of its columns, counted from one.
def caretUnder (source : String) (row column : Nat) : String :=
  String.ofList
    (lineAt row source.toList ++ '\n' :: (List.replicate (column - 1) ' ' ++ ['^']))

end EntitySearch
