namespace EntitySearch

structure Hit (Id W : Type) where
  id : Id
  weight : W
  deriving DecidableEq, Repr

end EntitySearch
