import Mathlib
import ViewQuery.Proofs.Decimal.Nearest

set_option autoImplicit false

namespace ViewQuery.Decimal

namespace Format

def unitsOf (f : Format) (significand : Nat) (exponent : Int) : ℚ :=
  significand * 10 ^ exponent * 2 ^ f.unitExponent

theorem unitsOf_nonneg (f : Format) (significand : Nat) (exponent : Int) :
    0 ≤ f.unitsOf significand exponent := by
  unfold unitsOf
  positivity

@[simp] theorem unitsOf_zero (f : Format) (exponent : Int) : f.unitsOf 0 exponent = 0 := by
  simp [unitsOf]

theorem unitsOf_mul_pow (f : Format) (significand k : Nat) (exponent : Int) :
    f.unitsOf (significand * 10 ^ k) (exponent - k) = f.unitsOf significand exponent := by
  unfold unitsOf
  rw [zpow_sub₀ (by norm_num), zpow_natCast]
  push_cast
  field_simp

end Format

theorem pow_toNat_div (e : Int) : (10 : ℚ) ^ e.toNat / 10 ^ (-e).toNat = 10 ^ e := by
  rcases le_total 0 e with nonneg | nonpos
  · obtain ⟨n, rfl⟩ := Int.eq_ofNat_of_zero_le nonneg
    simp
  · obtain ⟨n, negated⟩ := Int.eq_ofNat_of_zero_le (Int.neg_nonneg.2 nonpos)
    obtain rfl : e = -n := by omega
    simp

theorem lt_ten_pow_natText (n : Nat) : n < 10 ^ (natText n).length :=
  (Nat.length_toDigits_le_iff (by decide) Nat.length_toDigits_pos).1 le_rfl

theorem ten_pow_natText_le {n : Nat} (nonzero : n ≠ 0) : 10 ^ ((natText n).length - 1) ≤ n := by
  by_cases single : (natText n).length ≤ 1
  · rw [Nat.sub_eq_zero_of_le single]
    exact Nat.one_le_iff_ne_zero.2 nonzero
  · by_contra small
    have := (Nat.length_toDigits_le_iff (b := 10) (by decide) (by omega)).2 (Nat.lt_of_not_le small)
    unfold natText at *
    omega

theorem unitsOf_bounds (f : Format) {s : Nat} (nonzero : s ≠ 0) (e : Int) :
    10 ^ ((natText s).length + e - 1) * 2 ^ f.unitExponent ≤ f.unitsOf s e ∧
      f.unitsOf s e < 10 ^ ((natText s).length + e) * 2 ^ f.unitExponent := by
  have low : (10 : ℚ) ^ ((natText s).length - 1) ≤ s := by exact_mod_cast ten_pow_natText_le nonzero
  have high : (s : ℚ) < 10 ^ (natText s).length := by exact_mod_cast lt_ten_pow_natText s
  have length_pos : 1 ≤ (natText s).length := Nat.length_toDigits_pos
  have ten : (10 : ℚ) ≠ 0 := by norm_num
  have shift_pos : (0 : ℚ) < 10 ^ e * 2 ^ f.unitExponent := by positivity
  unfold Format.unitsOf
  constructor
  · rw [show (natText s).length + e - 1 = ((natText s).length - 1 : Nat) + e by omega,
      zpow_add₀ ten, zpow_natCast, mul_assoc, mul_assoc]
    exact mul_le_mul_of_nonneg_right low shift_pos.le
  · rw [zpow_add₀ ten, zpow_natCast, mul_assoc, mul_assoc]
    exact mul_lt_mul_of_pos_right high shift_pos

theorem precise_double : 1 < double.precision := by decide

theorem limit_double : (double.limit : ℚ) = 2 ^ 1024 * 2 ^ double.unitExponent := by
  rw [← pow_add, Format.limit, twoTo_eq,
    show double.limitExponent = 1024 + double.unitExponent from rfl, Nat.cast_pow, Nat.cast_ofNat]

theorem two_pow_le_ten_pow {a b : Nat} (le : a ≤ 3 * b) : (2 : ℚ) ^ a ≤ 10 ^ b :=
  calc (2 : ℚ) ^ a ≤ 2 ^ (3 * b) := pow_le_pow_right₀ (by norm_num) le
    _ = (2 ^ 3) ^ b := pow_mul ..
    _ ≤ 10 ^ b := pow_le_pow_left₀ (by norm_num) (by norm_num) b

theorem isNearest_zero {q : ℚ} (nonneg : 0 ≤ q) (small : 2 * q < 1) : double.IsNearest q 0 := by
  apply Format.isNearest_of_within (by decide)
  have gap : double.gap 0 = 0 := by decide
  have significand : double.significand 0 = 0 := by decide
  refine ⟨⟨0, 0, by decide, rfl⟩, ?_, ?_, ?_⟩
  · rw [gap]
    norm_num
    exact small.le
  · have : (0 : ℚ) ≤ double.gapBelow 0 := Nat.cast_nonneg _
    push_cast
    linarith
  · rw [significand]
    exact fun _ => Even.zero

theorem limit_le_unitsOf {s : Nat} {e : Int} (nonzero : s ≠ 0)
    (far : farDigits < (natText s).length + e) : (double.limit : ℚ) ≤ double.unitsOf s e := by
  refine le_trans ?_ (unitsOf_bounds double nonzero e).1
  rw [limit_double]
  apply mul_le_mul_of_nonneg_right _ (by positivity)
  calc (2 : ℚ) ^ 1024 ≤ 10 ^ 1000 := two_pow_le_ten_pow (by decide)
    _ = 10 ^ (1000 : Int) := (zpow_natCast 10 1000).symm
    _ ≤ 10 ^ ((natText s).length + e - 1) :=
      zpow_le_zpow_right₀ (by norm_num) (by unfold farDigits at far; omega)

theorem unitsOf_lt_half {s b : Nat} {e : Int} (nonzero : s ≠ 0)
    (deep : double.unitExponent + 1 ≤ 3 * b) (far : (natText s).length + e ≤ -b) :
    2 * double.unitsOf s e < 1 := by
  have less := (unitsOf_bounds double nonzero e).2
  have power : (10 : ℚ) ^ ((natText s).length + e) ≤ (10 ^ b)⁻¹ := by
    rw [← zpow_natCast, ← zpow_neg]
    exact zpow_le_zpow_right₀ (by norm_num) far
  have scaled := mul_le_mul_of_nonneg_right power
    (show (0 : ℚ) ≤ 2 ^ double.unitExponent by positivity)
  have small : (10 ^ b)⁻¹ * (2 ^ double.unitExponent * 2) ≤ (1 : ℚ) :=
    calc (10 ^ b)⁻¹ * (2 ^ double.unitExponent * 2) ≤ (10 ^ b)⁻¹ * (10 : ℚ) ^ b := by
          rw [← pow_succ]
          exact mul_le_mul_of_nonneg_left (two_pow_le_ten_pow deep) (by positivity)
      _ = 1 := inv_mul_cancel₀ (by positivity)
  linarith

theorem isNearest_unitsOf (s : Nat) (e : Int) :
    double.IsNearest (double.unitsOf s e)
      (double.nearest (s * tenTo e.toNat * twoTo double.unitExponent) (tenTo (-e).toNat)) := by
  have scale : 0 < tenTo (-e).toNat := Nat.pow_pos (by decide)
  have within := Format.within_nearest precise_double
    (s * tenTo e.toNat * twoTo double.unitExponent) scale
  have exact : ((s * tenTo e.toNat * twoTo double.unitExponent : Nat) : ℚ) / tenTo (-e).toNat =
      double.unitsOf s e := by
    rw [Format.unitsOf, ← pow_toNat_div e]
    push_cast [tenTo_eq, twoTo_eq]
    ring
  rw [exact] at within
  exact Format.isNearest_of_within (by decide) within

-- A decimal far above the limit is not rounded at all.
theorem scaled_cases (s : Nat) (e : Int) :
    double.scaled s e = double.limit ∧ (double.limit : ℚ) ≤ double.unitsOf s e ∨
      double.IsNearest (double.unitsOf s e) (double.scaled s e) := by
  unfold Format.scaled
  simp only
  split_ifs with zero above below
  · right
    rw [zero, Format.unitsOf_zero]
    exact isNearest_zero le_rfl (by norm_num)
  · exact .inl ⟨rfl, limit_le_unitsOf zero above⟩
  · exact .inr (isNearest_zero (Format.unitsOf_nonneg ..)
      (unitsOf_lt_half (b := 1001) zero (by decide) (by unfold farDigits at below; omega)))
  · exact .inr (isNearest_unitsOf s e)

theorem scaled_eq_of_isNearest {s : Nat} {e : Int} {u : Nat}
    (nearest : double.IsNearest (double.unitsOf s e) u) (finite : u < double.limit) :
    double.scaled s e = u := by
  rcases scaled_cases s e with ⟨-, far⟩ | isNearest
  · have := nearest.le_of_le (Format.representable_limit (by decide)) far
    exact absurd finite (Nat.not_lt.2 this)
  · exact isNearest.unique (by decide) nearest

theorem round_eq_finite_iff {n : Numeral} {negative : Bool} {u : Nat} :
    n.round double = .finite negative u ↔
      negative = n.negative ∧
        double.IsNearest (double.unitsOf n.significand n.exponent) u ∧ u < double.limit := by
  unfold Numeral.round Format.ofUnits
  constructor
  · intro rounded
    split at rounded
    · next finite =>
      obtain ⟨rfl, rfl⟩ := Binary.finite.inj rounded
      rcases scaled_cases n.significand n.exponent with ⟨limit, -⟩ | isNearest
      · omega
      · exact ⟨rfl, isNearest, finite⟩
    · cases rounded
  · rintro ⟨rfl, nearest, finite⟩
    rw [scaled_eq_of_isNearest nearest finite, if_pos finite]

def Numeral.Overflows (n : Numeral) : Prop :=
  ∃ u, double.IsNearest (double.unitsOf n.significand n.exponent) u ∧ double.limit ≤ u

theorem round_cases (n : Numeral) :
    (∃ u, n.round double = .finite n.negative u) ∨ n.round double = .infinite n.negative := by
  unfold Numeral.round Format.ofUnits
  split
  · exact .inl ⟨_, rfl⟩
  · exact .inr rfl

theorem round_eq_infinite_iff {n : Numeral} {negative : Bool} :
    n.round double = .infinite negative ↔ negative = n.negative ∧ n.Overflows := by
  rcases round_cases n with ⟨u, rounded⟩ | rounded
  · obtain ⟨-, nearest, finite⟩ := round_eq_finite_iff.1 rounded
    have stays : ¬n.Overflows := by
      rintro ⟨u', nearest', limit⟩
      rw [nearest.unique (by decide) nearest'] at finite
      exact absurd finite (Nat.not_lt.2 limit)
    simp [rounded, stays]
  · have overflows : n.Overflows := by
      have nearest := isNearest_unitsOf n.significand n.exponent
      refine ⟨_, nearest, Nat.le_of_not_lt fun finite => ?_⟩
      rw [round_eq_finite_iff.2 ⟨rfl, nearest, finite⟩] at rounded
      cases rounded
    simp [rounded, overflows, eq_comm]

/-- The double is the one nearest to the numeral; one that rounds to no finite double has none. -/
def Numeral.IsDouble (n : Numeral) (x : Float) : Prop :=
  ∃ u, double.IsNearest (double.unitsOf n.significand n.exponent) u ∧ u < double.limit ∧
    x = toFloat (.finite n.negative u)

end ViewQuery.Decimal
