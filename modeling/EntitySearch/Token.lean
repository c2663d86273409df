import EntitySearch.Text.Position
import EntitySearch.Text.Blank

namespace EntitySearch

inductive Symbol
  | minus
  | percent
  | dollar
  | equals
  | opening
  | closing
  deriving DecidableEq, Repr

namespace Symbol

def toChar : Symbol → Char
  | minus => '-'
  | percent => '%'
  | dollar => '$'
  | equals => '='
  | opening => '('
  | closing => ')'

def ofChar? : Char → Option Symbol
  | '-' => some minus
  | '%' => some percent
  | '$' => some dollar
  | '=' => some equals
  | '(' => some opening
  | ')' => some closing
  | _ => none

theorem ofChar?_eq_some_iff {c : Char} {s : Symbol} : ofChar? c = some s ↔ s.toChar = c := by
  constructor
  · intro h
    unfold ofChar? at h
    split at h <;> simp_all [toChar] <;> subst h <;> rfl
  · rintro rfl
    cases s <;> rfl

end Symbol

-- Holds of the characters that are symbols.
def isSymbol (c : Char) : Bool :=
  (Symbol.ofChar? c).isSome

theorem isSymbol_iff {c : Char} : isSymbol c ↔ ∃ s : Symbol, s.toChar = c := by
  simp [isSymbol, Option.isSome_iff_exists, Symbol.ofChar?_eq_some_iff]

inductive QuoteMark
  | single
  | double
  deriving DecidableEq, Repr

namespace QuoteMark

def toChar : QuoteMark → Char
  | single => '\''
  | double => '"'

def ofChar? : Char → Option QuoteMark
  | '\'' => some single
  | '"' => some double
  | _ => none

theorem ofChar?_eq_some_iff {c : Char} {q : QuoteMark} : ofChar? c = some q ↔ q.toChar = c := by
  constructor
  · intro h
    unfold ofChar? at h
    split at h <;> simp_all [toChar] <;> subst h <;> rfl
  · rintro rfl
    cases q <;> rfl

end QuoteMark

-- What a token is, apart from where it stands. The content of a value is the text it stands for,
-- without its quote marks.
inductive TokenKind
  | symbol (symbol : Symbol)
  | path (content : String)
  | space
  | value (content : String) (quote : Option QuoteMark)
  deriving DecidableEq, Repr

namespace TokenKind

-- The token in words, as messages give it.
def describe : TokenKind → String
  | symbol s => "'" ++ s.toChar.toString ++ "'"
  | path content => "path '" ++ content ++ "'"
  | space => "whitespace"
  | value content _ => "'" ++ content ++ "'"

end TokenKind

structure Token where
  kind : TokenKind
  start : Position
  stop : Position
  text : String
  deriving DecidableEq, Repr

namespace Token

def isSpace (t : Token) : Bool :=
  t.kind = .space

end Token

end EntitySearch
