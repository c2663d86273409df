import EntitySearch.Text.CharSet

namespace EntitySearch

-- The characters with the property White_Space.
def CharSet.whiteSpace : CharSet := ⟨[
  (0x09, 0x0d), (0x20, 0x20), (0x85, 0x85), (0xa0, 0xa0), (0x1680, 0x1680), (0x2000, 0x200a),
  (0x2028, 0x2029), (0x202f, 0x202f), (0x205f, 0x205f), (0x3000, 0x3000)]⟩

-- Holds of every character that separates words in some script.
def isWhiteSpace (c : Char) : Bool :=
  CharSet.whiteSpace.contains c

-- Holds of space, tab, line feed and carriage return, which may stand between tokens.
def isBlank (c : Char) : Bool :=
  c = ' ' || c = '\t' || c = '\n' || c = '\r'

theorem isBlank_iff {c : Char} : isBlank c ↔ c = ' ' ∨ c = '\t' ∨ c = '\n' ∨ c = '\r' := by
  simp [isBlank, or_assoc]

theorem isWhiteSpace_of_isBlank {c : Char} (h : isBlank c) : isWhiteSpace c := by
  rcases isBlank_iff.1 h with rfl | rfl | rfl | rfl <;> decide

end EntitySearch
