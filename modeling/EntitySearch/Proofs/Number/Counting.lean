import EntitySearch.Proofs.Number.Order
import Mathlib.Algebra.GroupWithZero.Nat

namespace EntitySearch.Double

variable {m n : Nat} {ns ns' : List Nat}

-- What counting up to a number by ones comes to. From 2^53 on, each further one is rounded away.
def countTo (n : Nat) : Double :=
  .ofNat (min n (Nat.pow 2 53))

-- What counts come to that are added one after another.
def totalOf (ns : List Nat) : Double :=
  Hit.leftSum (ns.map countTo)

-- Holds of what some counts come to. As long as they are less than 2^53 together, this is their
-- sum, without any rounding.
structure CountsAs (a : Double) (ns : List Nat) : Prop where
  total : a = totalOf ns
  sum   : ns.sum < Nat.pow 2 53 → a = .ofNat ns.sum
  units : ns.sum < Nat.pow 2 53 → a.units = (ns.sum * unitsPerOne : Nat)

theorem countTo_of_le (h : n ≤ Nat.pow 2 53) : countTo n = .ofNat n := by
  rw [countTo, Nat.min_eq_left h]

theorem countTo_add_one (n : Nat) : countTo n + 1 = countTo (n + 1) := by
  rcases Nat.lt_or_ge n (Nat.pow 2 53) with h | h
  case inl =>
    rw [countTo_of_le (Nat.le_of_lt h), countTo_of_le h]
    exact (ofNat_add_of_lt h (by decide)).symm
  case inr =>
    have hr : ofNat (Nat.pow 2 53) + 1 = ofNat (Nat.pow 2 53) := by decide +kernel
    rw [countTo, countTo, Nat.min_eq_right h, Nat.min_eq_right (Nat.le_add_right_of_le h), hr]

theorem atMost_countTo (h : m ≤ n) : (countTo m).AtMost (countTo n) :=
  atMost_ofNat (by omega)

theorem leftSum_ones (n : Nat) : Hit.leftSum (.replicate n 1) = countTo n := by
  induction n
  case zero      => exact ofNat_zero.symm
  case succ n ih => rw [List.replicate_succ', Hit.leftSum_concat, ih, countTo_add_one]

theorem zero_add_countTo (n : Nat) : 0 + countTo n = countTo n :=
  zero_add_of_isSum (isSum_ofNat _)

theorem totalOf_cons (n : Nat) (ns : List Nat) :
    totalOf (n :: ns) = (ns.map countTo).foldl (· + ·) (countTo n) := by
  rw [totalOf, List.map_cons, Hit.leftSum, List.foldl_cons, zero_add_countTo]

theorem totalOf_eq_ofNat (h : ns.sum < Nat.pow 2 53) : totalOf ns = .ofNat ns.sum := by
  induction ns using List.reverseRecOn
  case nil => exact ofNat_zero.symm
  case append_singleton ns n ih =>
    rw [List.sum_append, List.sum_singleton] at h ⊢
    have hn : n ≤ Nat.pow 2 53 := Nat.le_of_lt (Nat.lt_of_le_of_lt (Nat.le_add_left n _) h)
    have hs := ih (Nat.lt_of_le_of_lt (Nat.le_add_right _ n) h)
    rw [totalOf, List.map_append, List.map_singleton, Hit.leftSum_concat, countTo_of_le hn,
      ofNat_add h, ← hs, totalOf]

theorem countsAs_totalOf (ns : List Nat) : (totalOf ns).CountsAs ns where
  total   := rfl
  sum     := totalOf_eq_ofNat
  units h := by rw [totalOf_eq_ofNat h, units_ofNat h]

example : totalOf [Nat.pow 2 53 - 1, 1, 1, 1] ≠ totalOf [1, 1, 1, Nat.pow 2 53 - 1] := by
  decide +kernel

end EntitySearch.Double
