import EntitySearch.Vocabulary

namespace EntitySearch

inductive Quantifier
  | every
  | some
  deriving DecidableEq, Repr

inductive Connective
  | and
  | or
  -- What holds on the left but not on the right.
  | exclude
  deriving DecidableEq, Repr

inductive Relation
  -- To be linked to the entity that the parameters `id` and `type` name.
  | linkTo
  deriving DecidableEq, Repr

namespace Quantifier

instance : Named Quantifier where
  name
    | every => "every"
    | some => "some"

def ofName? : String → Option Quantifier
  | "every" => .some every
  | "some" => .some some
  | _ => none

theorem ofName?_name (q : Quantifier) : ofName? (Named.name q) = .some q := by
  cases q <;> rfl

end Quantifier

namespace Connective

instance : Named Connective where
  name
    | and => "and"
    | or => "or"
    | exclude => "exclude"

def ofName? : String → Option Connective
  | "and" => some and
  | "or" => some or
  | "exclude" => some exclude
  | _ => none

theorem ofName?_name (c : Connective) : ofName? (Named.name c) = some c := by
  cases c <;> rfl

end Connective

namespace Relation

instance : Named Relation where
  name
    | linkTo => "linkTo"

def ofName? : String → Option Relation
  | "linkTo" => some linkTo
  | _ => none

theorem ofName?_name (r : Relation) : ofName? (Named.name r) = some r := by
  cases r; rfl

end Relation

structure UnknownName where
  name : String
  deriving DecidableEq, Repr

def UnknownName.message (e : UnknownName) : String :=
  "unknown name '" ++ e.name ++ "'"

-- What a name stands for, or a report that it stands for nothing.
def named {α : Type} (ofName? : String → Option α) (name : String) : Except UnknownName α :=
  match ofName? name with
  | some a => .ok a
  | none => .error { name := name }

-- Vocabularies for stores of entities.
abbrev Vocabulary.Standard := Vocabulary Quantifier Connective Relation

def Vocabulary.standard : Vocabulary.Standard where
  top := .every
  aggregate? := Quantifier.ofName?
  connective? := Connective.ofName?
  function? := Relation.ofName?

end EntitySearch
