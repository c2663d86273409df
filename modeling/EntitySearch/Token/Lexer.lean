import EntitySearch.SyntaxError
import EntitySearch.Text.NameChar
import EntitySearch.Text.Quoted

namespace EntitySearch

-- Holds of the characters that carry a path on.
def isPathChar (c : Char) : Bool :=
  isNameChar c || c = '/'

-- Holds of the characters that a bare value is made of.
def isBareChar (c : Char) : Bool :=
  !isWhiteSpace c && !isSymbol c

-- A token without its place, with the characters it was cut from.
structure Lexeme where
  kind : TokenKind
  text : List Char
  deriving DecidableEq, Repr

namespace Lexeme

-- The longest lexeme that begins with `c` and goes on with characters of one class, and the text
-- behind it.
def run (kind : List Char → TokenKind) (goesOn : Char → Bool) (c : Char) (cs : List Char) :
    Lexeme × List Char :=
  ({ kind := kind (c :: cs.takeWhile goesOn), text := c :: cs.takeWhile goesOn },
    cs.dropWhile goesOn)

-- The quoted value whose opening mark stands before `cs`, and the text behind it. A quote that is
-- not closed takes all that is left.
def quoted (q : QuoteMark) (cs : List Char) : Lexeme × List Char :=
  let inside := (Quoted.split q.toChar cs).1
  let rest := (Quoted.split q.toChar cs).2
  ({ kind := .value (String.ofList (Quoted.decode q.toChar inside)) (some q),
     text := q.toChar :: (inside ++ rest.take 1) }, rest.drop 1)

-- The lexeme that a text begins with and the text behind it. There is none at the end, and none
-- before white space that is no blank.
def first? : List Char → Option (Lexeme × List Char)
  | [] => none
  | c :: cs =>
    if isBlank c then some (run (fun _ => .space) isBlank c cs)
    else if let some s := Symbol.ofChar? c then some ({ kind := .symbol s, text := [c] }, cs)
    else if c = '/' then some (run (fun text => .path (String.ofList text)) isPathChar c cs)
    else if let some q := QuoteMark.ofChar? c then some (quoted q cs)
    else if isWhiteSpace c then none
    else some (run (fun text => .value (String.ofList text) none) isBareChar c cs)

theorem append_of_quoted (q : QuoteMark) (cs : List Char) :
    (quoted q cs).1.text ++ (quoted q cs).2 = q.toChar :: cs := by
  have := Quoted.split_append q.toChar cs
  rw [← List.take_append_drop 1 (Quoted.split q.toChar cs).2] at this
  simpa only [quoted, List.cons_append, List.append_assoc, List.cons.injEq, true_and] using this

theorem append_of_first? {cs : List Char} {l : Lexeme} {rest : List Char}
    (h : first? cs = some (l, rest)) : l.text ++ rest = cs := by
  cases cs with
  | nil => cases h
  | cons c cs =>
    simp only [first?] at h
    split at h
    · cases h; simp
    split at h
    · cases h; rfl
    split at h
    · cases h; simp
    split at h
    next q hq =>
      cases h
      rw [← QuoteMark.ofChar?_eq_some_iff.1 hq]
      exact append_of_quoted ..
    split at h
    · cases h
    · cases h; simp

theorem text_ne_nil_of_first? {cs : List Char} {l : Lexeme} {rest : List Char}
    (h : first? cs = some (l, rest)) : l.text ≠ [] := by
  cases cs with
  | nil => cases h
  | cons c cs =>
    simp only [first?] at h
    repeat' split at h
    all_goals cases h <;> exact List.cons_ne_nil _ _

theorem length_lt_of_first? {cs : List Char} {l : Lexeme} {rest : List Char}
    (h : first? cs = some (l, rest)) : rest.length < cs.length := by
  have := List.length_pos_iff.2 (text_ne_nil_of_first? h)
  simp [← append_of_first? h]
  omega

end Lexeme

-- The lexemes of a text from its start up to where no further one begins, and the text that is left
-- there.
def lexemes (cs : List Char) : List Lexeme × List Char :=
  match _h : Lexeme.first? cs with
  | none => ([], cs)
  | some (l, rest) =>
    let r := lexemes rest
    (l :: r.1, r.2)
termination_by cs.length
decreasing_by exact Lexeme.length_lt_of_first? ‹_›

theorem append_of_lexemes (cs : List Char) :
    (lexemes cs).1.flatMap Lexeme.text ++ (lexemes cs).2 = cs := by
  fun_induction lexemes cs with
  | case1 => rfl
  | case2 cs l rest h r ih => simpa [r, ih] using Lexeme.append_of_first? h

namespace Token

-- Lexemes that stand one behind another from `p` on, each with its place.
def place (p : Position) : List Lexeme → List Token
  | [] => []
  | l :: ls =>
    { kind := l.kind, start := p, stop := p.advance l.text, text := String.ofList l.text }
      :: place (p.advance l.text) ls

end Token

def tokenize (source : String) : Except SyntaxError (List Token) :=
  let (ls, rest) := lexemes source.toList
  match rest with
  | [] => .ok (Token.place .start ls)
  | c :: _ =>
    .error (.ofFault (.stray c) source (Position.start.advance (ls.flatMap Lexeme.text)))

end EntitySearch
