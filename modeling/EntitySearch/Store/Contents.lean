import EntitySearch.SortedMap

namespace EntitySearch.Store

inductive TagValue
  | one (value : String)
  | many (values : List String)
  deriving DecidableEq, Repr

namespace TagValue

def values : TagValue → List String
  | one value => [value]
  | many values => values

-- Adds a value behind the others.
def add (value : String) (tag : TagValue) : TagValue :=
  many (tag.values ++ [value])

end TagValue

abbrev Tags := SortedMap TagValue

-- An entity. The collection is its type, and within a collection the id tells entities apart.
structure Entity where
  id : String
  collection : String
  text : String
  tags : Tags

structure Reference where
  collection : String
  id : String
  deriving DecidableEq, Repr

-- A link between two entities. It is followed both ways.
structure Link where
  source : Reference
  target : Reference
  deriving DecidableEq, Repr

structure Contents where
  entities : List Entity
  links : List Link

namespace Contents

def empty : Contents where
  entities := []
  links := []

instance : EmptyCollection Contents := ⟨empty⟩

def addEntity (c : Contents) (collection id text : String) : Contents :=
  { c with entities := c.entities ++ [{ id, collection, text, tags := ∅ }] }

-- Adds a value at a subpath to the entity that was added last. There may be none.
def tagLast (c : Contents) (subpath value : String) : Contents :=
  match c.entities.getLast? with
  | none => c
  | some e =>
    let tags := e.tags.update subpath fun tag? => (tag?.getD (.many [])).add value
    { c with entities := c.entities.dropLast ++ [{ e with tags }] }

def addLink (c : Contents) (source target : Reference) : Contents :=
  { c with links := c.links ++ [{ source, target }] }

end Contents

end EntitySearch.Store
