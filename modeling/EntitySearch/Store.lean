import Std.Data.HashMap
import EntitySearch.Hit.Merge
import EntitySearch.Number.Double
import EntitySearch.Resolver.Backend
import EntitySearch.Store.Contents
import EntitySearch.Text.Words

namespace EntitySearch

open Store

structure Store where
  collections : Std.HashMap String Unit
  -- For each word, how often it comes in the texts of each id, counted by ones.
  occurrences : Std.HashMap String (Hit.Tally String Double)
  -- For each collection, subpath and value, the ids of the entities that have it.
  tagged : Std.HashMap (String × String × String) (List String)
  -- For each collection and id, the ids at the other ends of its links.
  linked : Std.HashMap (String × String) (List String)

namespace Store

def empty : Store where
  collections := ∅
  occurrences := ∅
  tagged := ∅
  linked := ∅

instance : EmptyCollection Store := ⟨empty⟩

-- Adds an id at the end of the ids under a key.
def pushId {κ : Type} [BEq κ] [Hashable κ] (index : Std.HashMap κ (List String)) (key : κ)
    (id : String) : Std.HashMap κ (List String) :=
  index.insert key (index.getD key [] ++ [id])

def countWord (id : String) (index : Std.HashMap String (Hit.Tally String Double))
    (word : String) : Std.HashMap String (Hit.Tally String Double) :=
  index.insert word ((index.getD word ∅).count { id := id, weight := 1 })

-- Notes the values of a tag of an entity.
def noteTag (e : Entity) (index : Std.HashMap (String × String × String) (List String))
    (tag : String × TagValue) : Std.HashMap (String × String × String) (List String) :=
  tag.2.values.foldl (fun index value => pushId index (e.collection, tag.1, value) e.id) index

def addEntity (s : Store) (e : Entity) : Store :=
  { s with
    collections := s.collections.insert e.collection ()
    occurrences := (words e.text).foldl (countWord e.id) s.occurrences
    tagged := e.tags.entries.foldl (noteTag e) s.tagged }

def addLink (s : Store) (l : Link) : Store :=
  { s with
    linked :=
      pushId (pushId s.linked (l.source.collection, l.source.id) l.target.id)
        (l.target.collection, l.target.id) l.source.id }

def ofContents (c : Contents) : Store :=
  c.links.foldl addLink (c.entities.foldl addEntity ∅)

-- The ids of the entities of a collection that have a value at a subpath, once for each time they
-- have it. It is an error to ask about a collection without entities.
def tagQuery (s : Store) (collection subpath value : String) : Except ResolveError (List String) :=
  if s.collections.contains collection then
    .ok (s.tagged.getD (collection, subpath, value) [])
  else .error (.unknownCollection collection)

-- The ids whose texts have all words of a term, each with how often they have these words, added up
-- word after word. A term without words finds nothing.
def textQuery (s : Store) (term : String) : List (Hit String Double) :=
  Hit.meet ((words term).map fun word => s.occurrences.getD word ∅)

def linkQuery (s : Store) (collection id : String) : List String :=
  s.linked.getD (collection, id) []

def backend (s : Store) : Backend (Except ResolveError) String Double where
  tagged collection subpath value := do
    return (← s.tagQuery collection subpath value).map fun id => { id := id, weight := 1 }
  fullText term := return s.textQuery term
  linked collection id := return s.linkQuery collection id

end Store

end EntitySearch
