import EntitySearch.Token

namespace EntitySearch

structure Word where
  content : String
  position : Position
  deriving DecidableEq, Repr

-- Names are not looked up yet. Every part knows the place where its first token starts.
mutual

inductive Term
  | group (position : Position) (inner : Chain)
  | fullText (term : Word)
  | property (path value : Word)
  | function (position : Position) (name : Word) (arguments : List (Word × Word))
  | aggregate (position : Position) (name : Word) (contents : List Chain)

-- Terms with connectives between them. A connective joins all that stands before it with the term
-- behind it.
inductive Chain
  | operand (term : Term)
  | joined (before : Chain) (connective : Word) (operand : Term)

end

namespace Term

def position : Term → Position
  | group p _ => p
  | fullText term => term.position
  | property path _ => path.position
  | function p _ _ => p
  | aggregate p _ _ => p

end Term

namespace Chain

def head : Chain → Term
  | operand t => t
  | joined before _ _ => before.head

-- The connectives of a chain in order, each with the term behind it.
def links : Chain → List (Word × Term)
  | operand _ => []
  | joined before connective t => before.links ++ [(connective, t)]

def position (c : Chain) : Position :=
  c.head.position

end Chain

end EntitySearch
