namespace EntitySearch

-- Holds of the letters, digits and underscore of ASCII.
def isNameChar (c : Char) : Bool :=
  c.isAlphanum || c = '_'

end EntitySearch
