namespace EntitySearch

-- A number of 64 bits: the sign, and the other 63 bits as a whole number. A greater magnitude is a
-- greater number, up to infinity; beyond that lie what are not numbers. Every finite number is a
-- multiple of the least positive one, which is called a unit here, so that a sum is exact before it
-- is rounded.
@[ext]
structure Double where
  negative : Bool
  magnitude : Nat
  magnitude_lt : magnitude < Nat.pow 2 63
  deriving DecidableEq

namespace Double

def infinite : Nat := 2047 * Nat.pow 2 52

theorem infinite_lt : infinite < Nat.pow 2 63 := by decide

def ofBits (word : UInt64) : Double where
  negative := decide (Nat.pow 2 63 ≤ word.toNat)
  magnitude := word.toNat % Nat.pow 2 63
  magnitude_lt := Nat.mod_lt _ (by decide)

def toBits (a : Double) : UInt64 :=
  .ofNat ((if a.negative then Nat.pow 2 63 else 0) + a.magnitude)

def isNaN (a : Double) : Bool :=
  infinite < a.magnitude

def isInfinite (a : Double) : Bool :=
  a.magnitude = infinite

-- What is not a number, as operations give it.
def nan : Double where
  negative := false
  magnitude := infinite + Nat.pow 2 51
  magnitude_lt := by decide

def infinity (negative : Bool) : Double where
  negative := negative
  magnitude := infinite
  magnitude_lt := infinite_lt

def zero (negative : Bool) : Double where
  negative := negative
  magnitude := 0
  magnitude_lt := by decide

-- The units in a finite magnitude. The bits above the fraction are an exponent; where they are
-- zero, the fraction counts units, and else it follows a leading one.
def unitsOf (magnitude : Nat) : Nat :=
  if magnitude < Nat.pow 2 52 then magnitude
  else
    (Nat.pow 2 52 + magnitude % Nat.pow 2 52) * Nat.pow 2 (magnitude / Nat.pow 2 52 - 1)

-- The units in a finite number.
def units (a : Double) : Int :=
  if a.negative then -(unitsOf a.magnitude : Int) else unitsOf a.magnitude

-- The whole number nearest to a quotient. Of two that are equally near the even one is taken.
def nearest (n d : Nat) : Nat :=
  let q := n / d
  let r := n % d
  if 2 * r < d || (2 * r = d && q % 2 = 0) then q else q + 1

-- The magnitude nearest to a quotient of units, as if there were no greatest one. A fraction that
-- rounds up to the next power of two carries into the exponent.
def magnitudeOf (n d : Nat) : Nat :=
  let k := (n / d).log2 - 52
  k * Nat.pow 2 52 + nearest n (d * Nat.pow 2 k)

-- The number nearest to a quotient of units.
def ofUnits (negative : Bool) (n d : Nat) : Double :=
  if h : magnitudeOf n d < infinite then
    { negative := negative
      magnitude := magnitudeOf n d
      magnitude_lt := Nat.lt_trans h infinite_lt }
  else infinity negative

def unitsPerOne : Nat := Nat.pow 2 1074

def ofNat (n : Nat) : Double :=
  ofUnits false (n * unitsPerOne) 1

instance : NatCast Double := ⟨ofNat⟩
instance : Zero Double := ⟨zero false⟩
instance : One Double := ⟨ofNat 1⟩

-- The sum of two numbers, rounded. A sum of nothing is negative only if both parts are.
def add (a b : Double) : Double :=
  if a.isNaN || b.isNaN then nan
  else if a.isInfinite then
    if b.isInfinite && a.negative != b.negative then nan else a
  else if b.isInfinite then b
  else
    let sum := a.units + b.units
    if sum = 0 then zero (a.negative && b.negative)
    else ofUnits (sum < 0) sum.natAbs 1

instance : Add Double := ⟨add⟩

-- The product of two finite numbers, rounded.
def mul (a b : Double) : Double :=
  ofUnits (a.negative != b.negative) (unitsOf a.magnitude * unitsOf b.magnitude) unitsPerOne

-- The quotient of two finite numbers, rounded, where the second is not zero.
def div (a b : Double) : Double :=
  ofUnits (a.negative != b.negative) (unitsOf a.magnitude * unitsPerOne) (unitsOf b.magnitude)

def neg (a : Double) : Double :=
  { a with negative := !a.negative }

-- The place of a number in the order of all 64-bit numbers: negative ones before positive ones,
-- zeros told apart, and what are not numbers at both ends.
def orderKey (a : Double) : Int :=
  if a.negative then -(a.magnitude : Int) - 1 else a.magnitude

end Double

end EntitySearch
