import EntitySearch.Json.Value

namespace EntitySearch.Json

structure Numeral where
  negative : Bool
  whole : List Char
  fraction : List Char
  hasFraction : Bool
  exponent : Option Int

namespace Numeral

def maxSignificand : Nat := Nat.pow 2 64 - 1

def digitValue (c : Char) : Nat :=
  c.toNat - '0'.toNat

-- Appends digits to a whole number up to the first that does not fit any more, and gives the digits
-- that are left.
def take (n : Nat) : List Char → Nat × List Char
  | [] => (n, [])
  | d :: ds =>
    if n * 10 + digitValue d ≤ maxSignificand then take (n * 10 + digitValue d) ds
    else (n, d :: ds)

-- The greatest power of ten that is used in one step.
def maxPower : Nat := 308

-- A number times a power of ten, or nothing if it becomes infinite. The number is multiplied or
-- divided by powers that are themselves rounded.
def scale (a : Double) (exponent : Int) : Option Double :=
  if 0 ≤ exponent then
    if exponent ≤ maxPower then
      let product := a.mul (.ofNat (Nat.pow 10 exponent.toNat))
      if product.isInfinite then none else some product
    else if a.magnitude = 0 then some a
    else none
  else if -maxPower ≤ exponent then some (a.div (.ofNat (Nat.pow 10 (-exponent).toNat)))
  else if a.magnitude = 0 then some a
  else scale (a.div (.ofNat (Nat.pow 10 maxPower))) (exponent + maxPower)
termination_by (-exponent).toNat
decreasing_by simp only [maxPower] at *; omega

-- The number that a numeral stands for, or nothing if it is out of range. Digits before the point
-- that are left out count for the exponent; digits behind it do not count at all.
def value? (n : Numeral) : Option Number :=
  let (wholePart, wholeLeft) := take 0 n.whole
  let (significand, fractionLeft) := take wholePart n.fraction
  let exact := !n.hasFraction && n.exponent.isNone && wholeLeft.isEmpty
  if exact && !n.negative then some (.natural significand)
  else if exact && 0 < significand && significand ≤ Nat.pow 2 63 then some (.negative significand)
  else
    let exponent :=
      n.exponent.getD 0 + wholeLeft.length - (n.fraction.length - fractionLeft.length)
    (scale (.ofNat significand) exponent).map fun a =>
      .double (if n.negative then a.neg else a)

end Numeral

end EntitySearch.Json
