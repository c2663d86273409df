import EntitySearch.Hit
import EntitySearch.OrderedMap

namespace EntitySearch.Hit

variable {Id W : Type} [DecidableEq Id] [Zero W] [Add W]

abbrev Tally (Id W : Type) := OrderedMap Id W

-- Adds a hit to a tally. An id that comes more than once weighs the sum of its hits, taken from
-- zero on and from left to right.
def Tally.count (t : Tally Id W) (h : Hit Id W) : Tally Id W :=
  t.update h.id fun weight? => weight?.getD 0 + h.weight

def tally (hits : List (Hit Id W)) : Tally Id W :=
  hits.foldl Tally.count ∅

def ofTally (t : Tally Id W) : List (Hit Id W) :=
  t.entries.map fun e => { id := e.1, weight := e.2 }

def union (operands : List (List (Hit Id W))) : List (Hit Id W) :=
  ofTally (tally operands.flatten)

-- What an id weighs in all of some tallies, on top of a weight that it has, if all have it.
def sumIn? (id : Id) : W → List (Tally Id W) → Option W
  | weight, [] => some weight
  | weight, t :: ts => do
    let more ← t.get? id
    sumIn? id (weight + more) ts

-- The ids that all of some tallies have, with the sums of what they weigh there. No tallies have no
-- ids.
def meet (tallies : List (Tally Id W)) : List (Hit Id W) :=
  match tallies with
  | [] => []
  | t :: ts =>
    t.entries.filterMap fun e =>
      (sumIn? e.1 e.2 ts).map fun weight => { id := e.1, weight := weight }

-- The ids of all the operands. There are none in no operands.
def intersection (operands : List (List (Hit Id W))) : List (Hit Id W) :=
  meet (operands.map tally)

omit [Zero W] [Add W] in
-- The hits on the left whose ids do not come on the right. They stay as they are.
def exclude (left right : List (Hit Id W)) : List (Hit Id W) :=
  left.filter fun h => !right.any fun h' => h'.id = h.id

end EntitySearch.Hit
