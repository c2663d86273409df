import EntitySearch.Number.Shortest

namespace EntitySearch

structure Layout where
  -- The least place of the decimal point that is written with zeros behind the point.
  least : Option Int
  -- The greatest place of the decimal point that is written with zeros before the point.
  greatest : Option Int
  wholeMark : String
  infinity : (negative : Bool) → String
  nan : String

namespace Layout

-- Numbers among other data: all places for points between 10⁻⁵ and 10¹⁶, and a point in whole
-- numbers too.
def json : Layout where
  least := some (-4)
  greatest := some 16
  wholeMark := ".0"
  infinity _ := "null"
  nan := "null"

-- Numbers for people: always with all places, and whole numbers without a point.
def plain : Layout where
  least := none
  greatest := none
  wholeMark := ""
  infinity negative := if negative then "-inf" else "inf"
  nan := "NaN"

def isPositional (l : Layout) (point : Int) : Bool :=
  l.least.all (· ≤ point) && l.greatest.all (point ≤ ·)

def writeMagnitude (l : Layout) (d : Decimal) : String :=
  let digits := Nat.toDigits 10 d.digits
  let zeros := fun n : Int => List.replicate n.toNat '0'
  let point := digits.length + d.exponent
  if l.isPositional point then
    if 0 ≤ d.exponent then String.ofList (digits ++ zeros d.exponent) ++ l.wholeMark
    else if 0 < point then
      String.ofList (digits.take point.toNat ++ '.' :: digits.drop point.toNat)
    else "0." ++ String.ofList (zeros (-point) ++ digits)
  else
    let fraction := match digits.drop 1 with
      | [] => []
      | ds => '.' :: ds
    let exponent := point - 1
    let sign := if exponent < 0 then "-" else "+"
    String.ofList (digits.take 1 ++ fraction) ++ "e" ++ sign ++ Nat.repr exponent.natAbs

def write (l : Layout) (a : Double) : String :=
  if a.isNaN then l.nan
  else if a.isInfinite then l.infinity a.negative
  else (if a.negative then "-" else "") ++ l.writeMagnitude (Double.shortest a.magnitude)

end Layout

end EntitySearch
