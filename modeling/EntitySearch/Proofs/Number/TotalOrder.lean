import EntitySearch.Proofs.Number.Order

namespace EntitySearch.Double

section TotalOrder

variable {a b : Double}

def IsFinite (a : Double) : Prop :=
  a.magnitude < infinite

-- The fraction of what is not a number. Its first bit tells quiet ones from signaling ones, and the
-- others are a payload.
def fraction (a : Double) : Nat :=
  a.magnitude - infinite

def IsQuiet (a : Double) : Prop :=
  Nat.pow 2 51 ≤ a.fraction

def payload (a : Double) : Nat :=
  a.fraction % Nat.pow 2 51

-- The order of numbers by value, which tells neither the zeros apart nor what are not numbers.
inductive Less : Double → Double → Prop
  | finite {a b : Double} :
    (a.IsFinite) → (b.IsFinite) → (a.units < b.units) → Less a b
  | infinite_left {b : Double} :
    (b.IsFinite ∨ b = infinity false) → Less (infinity true) b
  | infinite_right {a : Double} :
    (a.IsFinite ∨ a = infinity true) → Less a (infinity false)

-- What are not numbers, where signaling ones come before quiet ones.
inductive PayloadLess : Double → Double → Prop
  | quiet {a b : Double} :
    (¬a.IsQuiet) → (b.IsQuiet) → PayloadLess a b
  | payload {a b : Double} :
    (a.IsQuiet ↔ b.IsQuiet) → (a.payload < b.payload) → PayloadLess a b

-- The total order of IEEE 754: numbers by value, the negative zero before the positive one,
-- negative ones of what are not numbers before all numbers and positive ones behind them, and among
-- those of one sign by payload, backwards if they are negative.
inductive Precedes : Double → Double → Prop
  | value {a b : Double} :
    (Less a b) → Precedes a b
  | zeros :
    Precedes (zero true) (zero false)
  | negative_nan {a b : Double} :
    (a.isNaN) → (a.negative) → (b.isNaN → ¬b.negative) → Precedes a b
  | positive_nan {a b : Double} :
    (a.isNaN → a.negative) → (b.isNaN) → (¬b.negative) → Precedes a b
  | negative_payload {a b : Double} :
    (a.isNaN) → (b.isNaN) → (a.negative) → (b.negative) → (PayloadLess b a) → Precedes a b
  | positive_payload {a b : Double} :
    (a.isNaN) → (b.isNaN) → (¬a.negative) → (¬b.negative) → (PayloadLess a b) → Precedes a b

end TotalOrder

end EntitySearch.Double
