import EntitySearch.Number.Double
import EntitySearch.Proofs.Hit.Merge

namespace EntitySearch.Double

section Rounding

theorem nearest_mul (n : Nat) {d : Nat} (hd : 0 < d) : nearest (n * d) d = n := by
  simp [nearest, Nat.mul_div_cancel n hd, hd]

theorem div_le_nearest (n d : Nat) : n / d ≤ nearest n d := by
  simp only [nearest]
  split <;> omega

-- The units of a magnitude, whether they are a fraction alone or follow a leading one.
theorem exists_units (m : Nat) :
    ∃ s k, (m = k * Nat.pow 2 52 + s) ∧ (unitsOf m = s * Nat.pow 2 k) ∧ (s < Nat.pow 2 53) ∧
      (k = 0 ∨ Nat.pow 2 52 ≤ s) := by
  have h52 : Nat.pow 2 52 = 4503599627370496 := rfl
  have h53 : Nat.pow 2 53 = 9007199254740992 := rfl
  by_cases hm : m < Nat.pow 2 52
  case pos => exact ⟨m, 0, by simp, by simp [unitsOf, hm], by omega, .inl rfl⟩
  case neg =>
    refine ⟨Nat.pow 2 52 + m % Nat.pow 2 52, m / Nat.pow 2 52 - 1, ?_, ?_, ?_, .inr (by omega)⟩
    · rw [h52] at hm ⊢
      omega
    · rw [unitsOf, if_neg hm]
    · rw [h52, h53]
      omega

theorem log2_units {s k : Nat} (hs : s < Nat.pow 2 53) (hk : k = 0 ∨ Nat.pow 2 52 ≤ s) :
    (s * Nat.pow 2 k).log2 - 52 = k := by
  by_cases h0 : s = 0
  case pos =>
    have hk : k = 0 := hk.resolve_right (by rw [h0]; decide)
    simp [h0, hk]
  case neg =>
    have hp : 0 < Nat.pow 2 k := Nat.two_pow_pos k
    have hn : s * Nat.pow 2 k ≠ 0 := Nat.mul_ne_zero h0 (Nat.ne_of_gt hp)
    have hlt : s * Nat.pow 2 k < 2 ^ (53 + k) := by
      rw [Nat.pow_add]
      exact Nat.mul_lt_mul_of_pos_right hs hp
    have hle : k = 0 ∨ 52 + k ≤ (s * Nat.pow 2 k).log2 := by
      refine hk.imp_right fun hk => (Nat.le_log2 hn).2 ?_
      rw [Nat.pow_add]
      exact Nat.mul_le_mul_right _ hk
    have := (Nat.log2_lt hn).2 hlt
    omega

theorem magnitudeOf_mul {s k : Nat} (hs : s < Nat.pow 2 53) (hk : k = 0 ∨ Nat.pow 2 52 ≤ s) :
    magnitudeOf (s * Nat.pow 2 k) 1 = k * Nat.pow 2 52 + s := by
  have hn : nearest (s * Nat.pow 2 k) (Nat.pow 2 k) = s := nearest_mul s (Nat.two_pow_pos k)
  rw [magnitudeOf, Nat.div_one, Nat.one_mul, log2_units hs hk, hn]

theorem magnitudeOf_unitsOf (m : Nat) : magnitudeOf (unitsOf m) 1 = m := by
  obtain ⟨s, k, hm, hu, hs, hk⟩ := exists_units m
  rw [hu, magnitudeOf_mul hs hk, ← hm]

theorem unitsOf_add {s k : Nat} (hs : s < Nat.pow 2 53) (hk : Nat.pow 2 52 ≤ s) :
    unitsOf (k * Nat.pow 2 52 + s) = s * Nat.pow 2 k := by
  have h52 : Nat.pow 2 52 = 4503599627370496 := rfl
  have h53 : Nat.pow 2 53 = 9007199254740992 := rfl
  rw [h52] at hk
  rw [h53] at hs
  rw [unitsOf, if_neg (by omega), h52]
  have hr : 4503599627370496 + (k * 4503599627370496 + s) % 4503599627370496 = s := by omega
  have hq : (k * 4503599627370496 + s) / 4503599627370496 - 1 = k := by omega
  rw [hr, hq]

theorem lt_infinite {s k : Nat} (hs : s < Nat.pow 2 53) (hk : k ≤ 1074) :
    k * Nat.pow 2 52 + s < infinite := by
  have h52 : Nat.pow 2 52 = 4503599627370496 := rfl
  have h53 : Nat.pow 2 53 = 9007199254740992 := rfl
  have hi : infinite = 2047 * 4503599627370496 := rfl
  rw [h53] at hs
  rw [h52, hi]
  omega

-- What has no more than 53 significant bits is not rounded.
theorem units_ofUnits {s k : Nat} (hs : s < Nat.pow 2 53) (hs' : Nat.pow 2 52 ≤ s)
    (hk : k ≤ 1074) : (ofUnits false (s * Nat.pow 2 k) 1).units = (s * Nat.pow 2 k : Nat) := by
  have hm : magnitudeOf (s * Nat.pow 2 k) 1 = k * Nat.pow 2 52 + s := magnitudeOf_mul hs (.inr hs')
  have hu : unitsOf (magnitudeOf (s * Nat.pow 2 k) 1) = s * Nat.pow 2 k := by
    rw [hm, unitsOf_add hs hs']
  rw [ofUnits, dif_pos (by rw [hm]; exact lt_infinite hs hk), units, if_neg (by simp)]
  exact congrArg Nat.cast hu

-- A whole number below 2^53 with a leading one at the 53rd place, where the places are low enough.
theorem exists_scaled {n e : Nat} (h0 : n ≠ 0) (h : n < Nat.pow 2 53) (he : 52 ≤ e) :
    ∃ s k, (n * Nat.pow 2 e = s * Nat.pow 2 k) ∧ (s < Nat.pow 2 53) ∧ (Nat.pow 2 52 ≤ s) ∧
      (k ≤ e) := by
  have hl : n.log2 < 53 := (Nat.log2_lt h0).2 h
  have hp : 2 ^ (52 - n.log2) * 2 ^ (n.log2 + (e - 52)) = 2 ^ e := by
    rw [← Nat.pow_add, show 52 - n.log2 + (n.log2 + (e - 52)) = e by omega]
  have hs : 2 ^ (n.log2 + 1) * 2 ^ (52 - n.log2) = 2 ^ 53 := by
    rw [← Nat.pow_add, show n.log2 + 1 + (52 - n.log2) = 53 by omega]
  have hk : 2 ^ n.log2 * 2 ^ (52 - n.log2) = 2 ^ 52 := by
    rw [← Nat.pow_add, show n.log2 + (52 - n.log2) = 52 by omega]
  refine ⟨n * 2 ^ (52 - n.log2), n.log2 + (e - 52), ?_, ?_, ?_, by omega⟩
  · rw [Nat.pow_eq, Nat.pow_eq, ← hp, Nat.mul_assoc]
  · rw [Nat.pow_eq, ← hs]
    exact Nat.mul_lt_mul_of_pos_right Nat.lt_log2_self (Nat.two_pow_pos _)
  · rw [Nat.pow_eq, ← hk]
    exact Nat.mul_le_mul_right _ (Nat.log2_self_le h0)

-- One as a power of two, which is too large to be written out.
theorem exists_unitsPerOne : ∃ e, 52 ≤ e ∧ e ≤ 1074 ∧ unitsPerOne = Nat.pow 2 e := by
  unfold unitsPerOne
  exact ⟨1074, by decide, Nat.le_refl _, Eq.refl _⟩

-- The units of a whole number below 2^53, as those of its magnitude.
theorem exists_units_ofNat {n : Nat} (h0 : n ≠ 0) (h : n < Nat.pow 2 53) :
    ∃ s k, (n * unitsPerOne = s * Nat.pow 2 k) ∧ (s < Nat.pow 2 53) ∧ (Nat.pow 2 52 ≤ s) ∧
      (k ≤ 1074) := by
  obtain ⟨e, he, he', hp⟩ := exists_unitsPerOne
  obtain ⟨s, k, hu, hs, hs', hk⟩ := exists_scaled h0 h he
  exact ⟨s, k, by rw [hp, hu], hs, hs', Nat.le_trans hk he'⟩

theorem ofNat_zero : ofNat 0 = zero false := by
  have hz : ofUnits false 0 1 = zero false := by decide
  rwa [ofNat, Nat.zero_mul]

-- Whole numbers below 2^53 are not rounded.
theorem units_ofNat {n : Nat} (h : n < Nat.pow 2 53) :
    (ofNat n).units = (n * unitsPerOne : Nat) := by
  by_cases h0 : n = 0
  case pos =>
    have hz : (zero false).units = 0 := by decide
    simpa [h0, ofNat_zero] using hz
  case neg =>
    obtain ⟨s, k, hu, hs, hs', hk⟩ := exists_units_ofNat h0 h
    rw [ofNat, hu, units_ofUnits hs hs' hk]

theorem negative_ofNat (n : Nat) : (ofNat n).negative = false := by
  rw [ofNat, ofUnits]
  split <;> rfl

theorem magnitude_ofNat_lt {n : Nat} (h : n < Nat.pow 2 53) : (ofNat n).magnitude < infinite := by
  by_cases h0 : n = 0
  case pos =>
    rw [h0, ofNat_zero]
    decide
  case neg =>
    obtain ⟨s, k, hu, hs, hs', hk⟩ := exists_units_ofNat h0 h
    have hm : magnitudeOf (n * unitsPerOne) 1 < infinite := by
      rw [hu, magnitudeOf_mul hs (.inr hs')]
      exact lt_infinite hs hk
    rwa [ofNat, ofUnits, dif_pos hm]

theorem magnitudeOf_pos {n : Nat} (hn : n ≠ 0) : 0 < magnitudeOf n 1 := by
  have hk : 2 ^ (n.log2 - 52) ≤ n :=
    Nat.le_trans (Nat.pow_le_pow_right Nat.two_pos (Nat.sub_le ..)) (Nat.log2_self_le hn)
  have hq : 0 < n / Nat.pow 2 (n.log2 - 52) := Nat.div_pos hk (Nat.two_pow_pos _)
  rw [magnitudeOf, Nat.div_one, Nat.one_mul]
  exact Nat.add_pos_right _ (Nat.lt_of_lt_of_le hq (div_le_nearest n _))

theorem unitsOf_eq_zero_iff {m : Nat} : unitsOf m = 0 ↔ m = 0 := by
  constructor
  case mp =>
    intro h
    rw [← magnitudeOf_unitsOf m, h]
    rfl
  case mpr =>
    rintro rfl
    rfl

theorem ofUnits_unitsOf {a : Double} (h : a.magnitude < infinite) :
    ofUnits a.negative (unitsOf a.magnitude) 1 = a := by
  have hm := magnitudeOf_unitsOf a.magnitude
  simp [ofUnits, hm, h]

end Rounding

section Sums

-- Holds of the numbers that sums from zero on can be. Of what are not numbers this is only the one
-- that operations give.
def IsSum (a : Double) : Prop :=
  a = nan ∨ ¬a.isNaN ∧ a ≠ zero true

variable {a b : Double}

theorem isSum_ofUnits (negative : Bool) {n : Nat} (hn : n ≠ 0) : IsSum (ofUnits negative n 1) := by
  have hp := magnitudeOf_pos hn
  unfold ofUnits
  split
  case isTrue h =>
    refine .inr ⟨by simpa [isNaN] using Nat.le_of_lt h, fun he => ?_⟩
    have : magnitudeOf n 1 = 0 := congrArg magnitude he
    omega
  case isFalse =>
    refine .inr ⟨by simp [isNaN, infinity], fun he => ?_⟩
    have : infinite = 0 := congrArg magnitude he
    exact absurd this (by decide)

theorem eq_zero_of_units (h : a.units = 0) : a = zero a.negative := by
  have hm : unitsOf a.magnitude = 0 := by
    unfold units at h
    split at h <;> omega
  ext1
  case negative  => rfl
  case magnitude => exact unitsOf_eq_zero_iff.1 hm

theorem natAbs_units (a : Double) : a.units.natAbs = unitsOf a.magnitude := by
  unfold units
  split <;> simp

theorem sign_units (h : a.units ≠ 0) : decide (a.units < 0) = a.negative := by
  unfold units at h ⊢
  cases hn : a.negative <;> simp_all
  omega

theorem units_nonpos (h : a.negative) : a.units ≤ 0 := by
  simp [units, h]

theorem isSum_add (ha : IsSum a) : IsSum (a + b) := by
  change IsSum (add a b)
  unfold add
  split
  case isTrue => exact .inl rfl
  case isFalse hn =>
    rw [Bool.or_eq_true, not_or] at hn
    split
    case isTrue =>
      split
      case isTrue  => exact .inl rfl
      case isFalse => exact ha
    case isFalse =>
      split
      case isTrue hb =>
        refine .inr ⟨hn.2, ?_⟩
        rintro rfl
        exact absurd hb (by decide)
      case isFalse =>
        simp only
        split
        case isFalse h => exact isSum_ofUnits _ (by omega)
        -- Two negative numbers cancel out only if both are zero.
        case isTrue h =>
          refine .inr ⟨by simp [isNaN, zero], fun he => ?_⟩
          have hs : (a.negative && b.negative) = true := congrArg negative he
          rw [Bool.and_eq_true] at hs
          have h₁ := units_nonpos hs.1
          have h₂ := units_nonpos hs.2
          have hz := eq_zero_of_units (a := a) (by omega)
          rw [hs.1] at hz
          cases ha
          case inl ha => exact absurd (hz.symm.trans ha) (by decide)
          case inr ha => exact ha.2 hz

theorem zero_add_of_isSum (ha : IsSum a) : 0 + a = a := by
  change add (zero false) a = a
  cases ha
  case inl ha =>
    subst ha
    decide
  case inr ha =>
    have hz : (zero false).isNaN = false := by decide
    have hi : (zero false).isInfinite = false := by decide
    have hu : (zero false).units = 0 := by decide
    simp only [add, hz, hi, hu, ha.1, Bool.or_self, Int.zero_add, Bool.false_eq_true, if_false]
    by_cases hinf : a.isInfinite
    case pos => rw [if_pos hinf]
    case neg =>
      rw [if_neg hinf]
      split
      case isTrue h =>
        have he := eq_zero_of_units h
        cases hn : a.negative <;> rw [hn] at he
        case false => exact he.symm
        case true  => exact absurd he ha.2
      case isFalse h =>
        have hlt : a.magnitude < infinite := by
          have := ha.1
          simp only [isNaN, isInfinite, decide_eq_true_eq] at this hinf
          omega
        rw [sign_units h, natAbs_units, ofUnits_unitsOf hlt]

theorem isSum_ofNat (n : Nat) : IsSum (ofNat n) := by
  by_cases h0 : n = 0
  case pos => exact .inr (by rw [h0, ofNat_zero]; decide)
  case neg =>
    obtain ⟨e, -, -, hp⟩ := exists_unitsPerOne
    rw [ofNat, hp]
    exact isSum_ofUnits false (Nat.mul_ne_zero h0 (Nat.ne_of_gt (Nat.two_pow_pos e)))

theorem isNaN_of_lt (h : a.magnitude < infinite) : a.isNaN = false := by
  simpa [isNaN] using Nat.le_of_lt h

theorem isInfinite_of_lt (h : a.magnitude < infinite) : a.isInfinite = false := by
  simpa [isInfinite] using Nat.ne_of_lt h

-- Whole numbers are added exactly if their sum is below 2^53.
theorem ofNat_add_of_lt {m n : Nat} (hm : m < Nat.pow 2 53) (hn : n < Nat.pow 2 53) :
    ofNat (m + n) = ofNat m + ofNat n := by
  have hs : (ofNat m).units + (ofNat n).units = ((m + n) * unitsPerOne : Nat) := by
    rw [units_ofNat hm, units_ofNat hn, Nat.add_mul, Int.natCast_add]
  have hfm := magnitude_ofNat_lt hm
  have hfn := magnitude_ofNat_lt hn
  change _ = add (ofNat m) (ofNat n)
  simp only [add, isNaN_of_lt hfm, isNaN_of_lt hfn, isInfinite_of_lt hfm, isInfinite_of_lt hfn, hs,
    negative_ofNat, Bool.or_self, Bool.and_self, Bool.false_eq_true, if_false]
  split
  case isTrue hz =>
    rw [ofNat, Int.natCast_eq_zero.1 hz]
    decide
  case isFalse =>
    rw [decide_eq_false (Int.not_lt.2 (Int.natCast_nonneg _))]
    rfl

theorem ofNat_add {m n : Nat} (h : m + n < Nat.pow 2 53) : ofNat (m + n) = ofNat m + ofNat n :=
  ofNat_add_of_lt (Nat.lt_of_le_of_lt (Nat.le_add_right m n) h)
    (Nat.lt_of_le_of_lt (Nat.le_add_left n m) h)

theorem isSum_leftSum (ws : List Double) : IsSum (Hit.leftSum ws) := by
  induction ws using List.reverseRecOn
  case nil => exact .inr ⟨by decide, by decide⟩
  case append_singleton ws w ih =>
    rw [Hit.leftSum_concat]
    exact isSum_add ih

theorem zeroAddsNothing : Hit.ZeroAddsNothing Double :=
  fun ws => zero_add_of_isSum (isSum_leftSum ws)

end Sums

end EntitySearch.Double
