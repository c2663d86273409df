import EntitySearch.Text.Line
import EntitySearch.Text.Literal
import EntitySearch.Token

namespace EntitySearch

inductive NameRole
  | aggregate
  | connective
  | function
  deriving DecidableEq, Repr

def NameRole.describe : NameRole → String
  | aggregate => "aggregate"
  | connective => "infix"
  | function => "function"

inductive Expectation
  | operand (connective : String)
  | groupContent
  | closing
  deriving DecidableEq, Repr

def Expectation.describe : Expectation → String
  | operand connective => "a term after '-" ++ connective ++ "'"
  | groupContent => "an expression after '('"
  | closing => "')'"

inductive SyntaxFault
  | stray (char : Char)
  | missing (expected : Expectation) (found : Option TokenKind)
  | leftover (found : TokenKind)
  | unknownName (role : NameRole) (name : String)
  deriving DecidableEq, Repr

-- The kinds of faults that callers tell apart.
inductive SyntaxError.Kind
  | unexpectedCharacter
  | unexpectedToken
  | unexpectedEnd
  | unknownName
  deriving DecidableEq, Repr

namespace SyntaxFault

def kind : SyntaxFault → SyntaxError.Kind
  | stray _ => .unexpectedCharacter
  | missing _ none => .unexpectedEnd
  | missing _ (some _) => .unexpectedToken
  | leftover _ => .unexpectedToken
  | unknownName _ _ => .unknownName

def text : SyntaxFault → String
  | stray c => "unexpected character '" ++ String.ofList (Literal.codePoint c) ++ "'"
  | missing expected none => "expected " ++ expected.describe ++ ", found end of input"
  | missing expected (some found) =>
    "expected " ++ expected.describe ++ ", found " ++ found.describe
  | leftover found => "unexpected " ++ found.describe
  | unknownName role name => "Unknown " ++ role.describe ++ " '" ++ name ++ "'"

end SyntaxFault

structure SyntaxError.Place where
  position : Position
  picture : String
  deriving DecidableEq, Repr

structure SyntaxError where
  kind : SyntaxError.Kind
  text : String
  place : Option SyntaxError.Place
  deriving DecidableEq, Repr

namespace SyntaxError

def unplaced (kind : Kind) (text : String) : SyntaxError where
  kind := kind
  text := text
  place := none

-- A report that points at a place of a source text.
def inSource (kind : Kind) (text : String) (source : String) (p : Position) : SyntaxError where
  kind := kind
  text := text
  place := some { position := p, picture := caretUnder source p.row p.column }

def ofFault (fault : SyntaxFault) (source : String) (p : Position) : SyntaxError :=
  .inSource fault.kind fault.text source p

-- The whole report: the text, the place in words, and the picture below.
def message (e : SyntaxError) : String :=
  match e.place with
  | none => e.text
  | some place => e.text ++ " (" ++ place.position.describe ++ ")\n" ++ place.picture

end SyntaxError

end EntitySearch
