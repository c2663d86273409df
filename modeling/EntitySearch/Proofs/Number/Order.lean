import EntitySearch.Proofs.Number.Double

namespace EntitySearch.Double

section Rounding

variable {m n : Nat}

theorem nearest_mono (d : Nat) (h : m ≤ n) : nearest m d ≤ nearest n d := by
  have hq : m / d ≤ n / d := Nat.div_le_div_right h
  have hm := Nat.div_add_mod m d
  have hn := Nat.div_add_mod n d
  rcases Nat.lt_or_eq_of_le hq with hlt | heq
  · have h₁ : nearest m d ≤ m / d + 1 := by
      simp only [nearest]
      split <;> omega
    have h₂ : n / d ≤ nearest n d := by
      simp only [nearest]
      split <;> omega
    omega
  · -- With the same quotient, the remainders decide.
    rw [heq] at hm
    simp only [nearest, heq, Bool.or_eq_true, Bool.and_eq_true, decide_eq_true_eq]
    split <;> split <;> omega

theorem nearest_le (n d : Nat) : nearest n d ≤ n / d + 1 := by
  simp only [nearest]
  split <;> omega

theorem magnitudeOf_one (n : Nat) :
    magnitudeOf n 1 = (n.log2 - 52) * Nat.pow 2 52 + nearest n (Nat.pow 2 (n.log2 - 52)) := by
  rw [magnitudeOf, Nat.div_one, Nat.one_mul]

theorem magnitudeOf_mono (h : m ≤ n) : magnitudeOf m 1 ≤ magnitudeOf n 1 := by
  by_cases hm : m = 0
  case pos =>
    have hz : magnitudeOf 0 1 = 0 := by decide
    rw [hm, hz]
    exact Nat.zero_le _
  case neg =>
    have hn : n ≠ 0 := by omega
    have hl : m.log2 ≤ n.log2 := (Nat.le_log2 hn).2 (Nat.le_trans (Nat.log2_self_le hm) h)
    rw [magnitudeOf_one, magnitudeOf_one]
    rcases Nat.lt_or_eq_of_le (Nat.sub_le_sub_right hl 52) with hlt | heq
    case inr =>
      rw [heq]
      exact Nat.add_le_add_left (nearest_mono _ h) _
    case inl =>
      -- A fraction has at most 53 bits before it is rounded, and all 53 with a greater exponent.
      have hfm : m / Nat.pow 2 (m.log2 - 52) < Nat.pow 2 53 := by
        refine Nat.div_lt_of_lt_mul (Nat.lt_of_lt_of_le Nat.lt_log2_self ?_)
        change _ ≤ 2 ^ (m.log2 - 52) * 2 ^ 53
        rw [← Nat.pow_add]
        exact Nat.pow_le_pow_right Nat.two_pos (by omega)
      have hfn : Nat.pow 2 52 ≤ n / Nat.pow 2 (n.log2 - 52) := by
        refine (Nat.le_div_iff_mul_le (Nat.two_pow_pos _)).2 (Nat.le_trans ?_ (Nat.log2_self_le hn))
        change 2 ^ 52 * _ ≤ _
        rw [← Nat.pow_add]
        exact Nat.pow_le_pow_right Nat.two_pos (by omega)
      have h₁ := nearest_le m (Nat.pow 2 (m.log2 - 52))
      have h₂ := div_le_nearest n (Nat.pow 2 (n.log2 - 52))
      have h53 : Nat.pow 2 53 = 2 * Nat.pow 2 52 := rfl
      have hk := Nat.mul_le_mul_right (Nat.pow 2 52) hlt
      rw [Nat.succ_mul] at hk
      omega

theorem unitsOf_mono (h : m ≤ n) : unitsOf m ≤ unitsOf n := by
  by_contra hlt
  have hm := magnitudeOf_mono (Nat.le_of_lt (Nat.lt_of_not_le hlt))
  rw [magnitudeOf_unitsOf, magnitudeOf_unitsOf] at hm
  exact hlt (Nat.le_of_eq (congrArg unitsOf (Nat.le_antisymm h hm)))

theorem magnitude_ofUnits (negative : Bool) (n : Nat) :
    (ofUnits negative n 1).magnitude = min (magnitudeOf n 1) infinite := by
  unfold ofUnits
  split
  case isTrue h  => exact (Nat.min_eq_left (Nat.le_of_lt h)).symm
  case isFalse h => exact (Nat.min_eq_right (Nat.le_of_not_lt h)).symm

end Rounding

section Order

variable {a b a' b' : Double}

-- Holds of the numbers from zero up, infinity included.
structure IsNonneg (a : Double) : Prop where
  sign   : a.negative = false
  number : a.magnitude ≤ infinite

theorem IsNonneg.not_isNaN (h : a.IsNonneg) : a.isNaN = false := by
  simpa [isNaN] using h.number

theorem IsNonneg.orderKey (h : a.IsNonneg) : a.orderKey = a.magnitude := by
  simp [Double.orderKey, h.sign]

theorem IsNonneg.ext (ha : a.IsNonneg) (hb : b.IsNonneg) (h : a.magnitude = b.magnitude) : a = b :=
  Double.ext (ha.sign.trans hb.sign.symm) h

theorem isNonneg_ofUnits (n : Nat) : (ofUnits false n 1).IsNonneg where
  sign := by
    rw [ofUnits]
    split <;> rfl
  number := by
    rw [magnitude_ofUnits]
    exact Nat.min_le_right ..

theorem isNonneg_ofNat (n : Nat) : (ofNat n).IsNonneg :=
  isNonneg_ofUnits _

theorem isNonneg_one : (1 : Double).IsNonneg :=
  isNonneg_ofNat 1

theorem isNonneg_zero : (0 : Double).IsNonneg :=
  ⟨rfl, Nat.zero_le _⟩

theorem magnitudeOf_infinite_le (n : Nat) : infinite ≤ magnitudeOf (unitsOf infinite + n) 1 := by
  have h := magnitudeOf_mono (Nat.le_add_right (unitsOf infinite) n)
  rwa [magnitudeOf_unitsOf] at h

-- Infinity needs no rule of its own, since its magnitude stands for more units than any other.
theorem add_eq (ha : a.IsNonneg) (hb : b.IsNonneg) :
    a + b = ofUnits false (unitsOf a.magnitude + unitsOf b.magnitude) 1 := by
  have hua : a.units = unitsOf a.magnitude := by simp [units, ha.sign]
  have hub : b.units = unitsOf b.magnitude := by simp [units, hb.sign]
  have hi {c : Double} {n : Nat} (hc : c.IsNonneg) (h : c.isInfinite)
      (hn : infinite ≤ magnitudeOf n 1) : c = ofUnits false n 1 := by
    refine hc.ext (isNonneg_ofUnits n) ?_
    rw [magnitude_ofUnits, Nat.min_eq_right hn]
    exact of_decide_eq_true h
  change add a b = _
  simp only [add, ha.not_isNaN, hb.not_isNaN, ha.sign, hb.sign, hua, hub, Bool.or_self,
    Bool.and_self, bne_self_eq_false, Bool.and_false, Bool.false_eq_true, if_false]
  split
  case isTrue h =>
    refine hi ha h ?_
    rw [show a.magnitude = infinite from of_decide_eq_true h]
    exact magnitudeOf_infinite_le _
  case isFalse =>
    split
    case isTrue h =>
      refine hi hb h ?_
      rw [show b.magnitude = infinite from of_decide_eq_true h, Nat.add_comm]
      exact magnitudeOf_infinite_le _
    case isFalse =>
      rw [← Int.natCast_add]
      split
      case isTrue hz =>
        rw [Int.natCast_eq_zero.1 hz]
        decide
      case isFalse =>
        rw [decide_eq_false (Int.not_lt.2 (Int.natCast_nonneg _))]
        rfl

theorem IsNonneg.add (ha : a.IsNonneg) (hb : b.IsNonneg) : (a + b).IsNonneg := by
  rw [add_eq ha hb]
  exact isNonneg_ofUnits _

-- Holds of two numbers from zero up of which the second is at least as great as the first.
structure AtMost (a b : Double) : Prop where
  left  : a.IsNonneg
  right : b.IsNonneg
  le    : a.magnitude ≤ b.magnitude

theorem IsNonneg.atMost_self (h : a.IsNonneg) : a.AtMost a :=
  ⟨h, h, Nat.le_refl _⟩

theorem AtMost.trans {c : Double} (h : a.AtMost b) (h' : b.AtMost c) : a.AtMost c :=
  ⟨h.left, h'.right, Nat.le_trans h.le h'.le⟩

theorem atMost_ofUnits {m n : Nat} (h : m ≤ n) :
    (ofUnits false m 1).AtMost (ofUnits false n 1) where
  left  := isNonneg_ofUnits m
  right := isNonneg_ofUnits n
  le    := by
    rw [magnitude_ofUnits, magnitude_ofUnits]
    have := magnitudeOf_mono h
    omega

theorem atMost_ofNat {m n : Nat} (h : m ≤ n) : (ofNat m).AtMost (ofNat n) :=
  atMost_ofUnits (Nat.mul_le_mul_right _ h)

theorem AtMost.add (h : a.AtMost a') (h' : b.AtMost b') : (a + b).AtMost (a' + b') := by
  rw [add_eq h.left h'.left, add_eq h.right h'.right]
  exact atMost_ofUnits (Nat.add_le_add (unitsOf_mono h.le) (unitsOf_mono h'.le))

theorem AtMost.add_right (h : a.AtMost a') (hb : b.IsNonneg) : a.AtMost (a' + b) := by
  have hm := magnitudeOf_mono (Nat.le_add_right (unitsOf a'.magnitude) (unitsOf b.magnitude))
  rw [magnitudeOf_unitsOf] at hm
  refine h.trans ⟨h.right, h.right.add hb, ?_⟩
  rw [add_eq h.right hb, magnitude_ofUnits]
  exact Nat.le_min.2 ⟨hm, h.right.number⟩

end Order

end EntitySearch.Double
