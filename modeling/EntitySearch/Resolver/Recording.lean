import EntitySearch.Resolver.Backend

namespace EntitySearch

-- Computations that record calls `κ`, and may end early with an error, behind which the record of
-- the calls before it stays.
abbrev Recorded (κ ε : Type) := ExceptT ε (StateM (List κ))

-- Records a call, and answers it by a script of the number of calls before it.
def Recorded.call {κ ε α : Type} (c : κ) (answer : Nat → Except ε α) : Recorded κ ε α :=
  fun calls => (answer calls.length, calls ++ [c])

inductive Resolver.Call (A C F Id W : Type)
  | fullText (term : String)
  | property (path value : String)
  | function (name : F) (params : Params)
  | aggregate (kind : A) (children : List (List (Hit Id W)))
  | joined (kind : C) (left right : List (Hit Id W))

-- A resolver that records its calls and answers them by a script.
def Resolver.recording {A C F Id W ε : Type}
    (answer : Call A C F Id W → Nat → Except ε (List (Hit Id W))) :
    Resolver (Recorded (Call A C F Id W) ε) A C F Id W where
  fullText term := Recorded.call (.fullText term) (answer (.fullText term))
  property path value := Recorded.call (.property path value) (answer (.property path value))
  function name params := Recorded.call (.function name params) (answer (.function name params))
  aggregate kind children :=
    Recorded.call (.aggregate kind children) (answer (.aggregate kind children))
  joined kind left right :=
    Recorded.call (.joined kind left right) (answer (.joined kind left right))

inductive Backend.Call
  | tagged (collection subpath value : String)
  | fullText (term : String)
  | linked (collection id : String)
  deriving DecidableEq, Repr

-- A backend that records its calls and answers them by a script. Of hits that answer a call for
-- links only the ids count.
def Backend.recording {Id W ε : Type} (answer : Call → Nat → Except ε (List (Hit Id W))) :
    Backend (Recorded Call ε) Id W where
  tagged collection subpath value :=
    Recorded.call (.tagged collection subpath value) (answer (.tagged collection subpath value))
  fullText term := Recorded.call (.fullText term) (answer (.fullText term))
  linked collection id :=
    Recorded.call (.linked collection id)
      fun n => (answer (.linked collection id) n).map (·.map Hit.id)

end EntitySearch
