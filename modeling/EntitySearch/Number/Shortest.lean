import EntitySearch.Number.Double

namespace EntitySearch

-- A decimal: the digits as a whole number, times a power of ten.
structure Decimal where
  digits : Nat
  exponent : Int
  deriving DecidableEq, Repr

-- How many decimal digits a whole number has. Zero has none.
def digitCount (n : Nat) : Nat :=
  if n = 0 then 0 else digitCount (n / 10) + 1
termination_by n
decreasing_by omega

namespace Decimal

-- Takes zeros off the end of the digits, as many as there are up to a bound.
def trim : Nat → Decimal → Decimal
  | 0, d => d
  | bound + 1, d =>
    if d.digits % 10 = 0 then trim bound { digits := d.digits / 10, exponent := d.exponent + 1 }
    else d

end Decimal

namespace Double

-- The number of digits before the decimal point of a positive number of units, negative for zeros
-- behind the point.
def pointOf (units : Nat) : Int :=
  if unitsPerOne ≤ units then digitCount (units / unitsPerOne)
  else 1 - (digitCount ((unitsPerOne + units - 1) / units - 1) : Int)

-- A decimal is read as a number if it lies between the middles of the way to both neighbours, the
-- middles included for an even fraction.
--
-- The decimal of `count` digits that is read as a positive magnitude, if there is one: of the two
-- points next to it on the grid of that many digits the one that is read so, and if both are, the
-- nearer one.
def onGrid? (magnitude count : Nat) : Option Decimal :=
  let units := unitsOf magnitude
  let exponent := pointOf units - count
  let scale := Nat.pow 10 (-exponent).toNat
  let mesh := 2 * unitsPerOne * Nat.pow 10 exponent.toNat
  let below := (unitsOf (magnitude - 1) + units) * scale
  let above := (unitsOf (magnitude + 1) + units) * scale
  let isRead := fun c : Nat =>
    if magnitude % 2 = 0 then below ≤ c * mesh && c * mesh ≤ above
    else below < c * mesh && c * mesh < above
  let c := 2 * units * scale / mesh
  let upper := 4 * units * scale > (2 * c + 1) * mesh ||
    (4 * units * scale = (2 * c + 1) * mesh && c % 2 = 1)
  if isRead c && (!isRead (c + 1) || !upper) then some { digits := c, exponent := exponent }
  else if isRead (c + 1) then some { digits := c + 1, exponent := exponent }
  else none

-- The shortest decimal that is read as a magnitude. Seventeen digits are always enough.
def shortest (magnitude : Nat) : Decimal :=
  if magnitude = 0 then { digits := 0, exponent := 0 }
  else
    match (List.range 17).findSome? fun i => onGrid? magnitude (i + 1) with
    | some d => d.trim 17
    | none => { digits := 0, exponent := 0 }

end Double

end EntitySearch
