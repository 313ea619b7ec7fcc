import Mathlib
import ViewQuery.Proofs.Decimal.Grid

set_option autoImplicit false

open Float.Model Float.Model.UnpackedFloat

namespace ViewQuery.Decimal

theorem toBitVec_ofBitVec (b : BitVec 1) : (Sign.ofBitVec b).toBitVec = b := by
  unfold Sign.ofBitVec
  split
  · next zero => rw [zero, Sign.toBitVec]
  · next nonzero =>
    have := b.isLt
    apply BitVec.eq_of_toNat_eq
    have : b.toNat ≠ 0 := fun zero => nonzero (BitVec.eq_of_toNat_eq zero)
    simp only [Sign.toBitVec, BitVec.toNat_ofNat]
    omega

theorem packComponents_fields (b : BitVec Format.binary64.numBits) :
    packComponents .binary64 (Sign.ofBitVec (unpackSign b)) (unpackExponent b)
      (unpackMantissa b) = b := by
  unfold packComponents
  rw [toBitVec_ofBitVec]
  apply BitVec.eq_of_getLsbD_eq
  intro i hi
  have inside : i < 64 := hi
  simp only [BitVec.getLsbD_append, unpackSign, unpackExponent, unpackMantissa,
    BitVec.getLsbD_cast, BitVec.getLsbD_extractLsb]
  split_ifs with fraction exponent
  all_goals rw [decide_eq_true (by omega), Bool.true_and]; congr 1; omega

theorem toNat_hiddenBit (m : BitVec 52) : (1#1 ++ m).toNat = 2 ^ 52 + m.toNat := by
  rw [BitVec.toNat_append, ← Nat.shiftLeft_add_eq_or_of_lt m.isLt]
  rfl

theorem pack_unpack {b : BitVec Format.binary64.numBits} (valid : Format.binary64.Valid b) :
    UnpackedFloat.pack .binary64 (UnpackedFloat.unpack .binary64 b) = b := by
  have fields := packComponents_fields b
  unfold UnpackedFloat.unpack
  simp only
  split_ifs with full zero noExponent noMantissa
  · rw [full, zero] at fields
    exact fields
  · exact (valid.eq_packedNaN full zero).symm
  · rw [noExponent, noMantissa] at fields
    exact fields
  · have small := (unpackMantissa b).isLt
    have log : (unpackMantissa b).toNat.log2 + 1 ≠ Format.binary64.mantissaBits := by
      have := (Nat.log2_lt (n := (unpackMantissa b).toNat) (k := 52) (by
        intro zero
        exact noMantissa (BitVec.eq_of_toNat_eq zero))).2 small
      change _ + 1 ≠ 53
      omega
    have biased : ((unpackExponent b).toNat - ((Format.binary64.exponentBias : Int) + (52 : Nat)) + 1 +
        Format.binary64.exponentBias + (52 : Nat)).toNat = 1 := by
      rw [noExponent]
      rfl
    simp only [UnpackedFloat.pack, biased, log, if_false]
    rw [if_neg (by decide), BitVec.ofNat_toNat, BitVec.setWidth_eq, ← noExponent]
    exact fields
  · have small := (unpackMantissa b).isLt
    have hidden := toNat_hiddenBit (unpackMantissa b)
    have log : (1#1 ++ unpackMantissa b).toNat.log2 + 1 = Format.binary64.mantissaBits := by
      rw [(Nat.log2_eq_iff (k := 52) (by omega)).2 ⟨by omega, by rw [hidden]; omega⟩]
      rfl
    have biased : ((unpackExponent b).toNat - ((Format.binary64.exponentBias : Int) + (52 : Nat)) +
        Format.binary64.exponentBias + (52 : Nat)).toNat = (unpackExponent b).toNat := by
      omega
    have notFull : ¬ 2 ^ Format.binary64.exponentBits ≤ (unpackExponent b).toNat + 1 := by
      intro le
      have exponentSmall := (unpackExponent b).isLt
      apply full
      apply BitVec.eq_of_toNat_eq
      change _ = 2047
      change 2048 ≤ _ at le
      change _ < 2048 at exponentSmall
      omega
    have fraction : BitVec.ofNat 52 (1#1 ++ unpackMantissa b).toNat = unpackMantissa b := by
      apply BitVec.eq_of_toNat_eq
      rw [BitVec.toNat_ofNat, hidden, Nat.add_mod_left, Nat.mod_eq_of_lt small]
    simp only [UnpackedFloat.pack, biased, log, notFull, if_true, if_false]
    rw [fraction, BitVec.ofNat_toNat, BitVec.setWidth_eq]
    exact fields

theorem ofBits_toBits (x : Float) : Float.ofBits x.toBits = x := by
  obtain ⟨⟨bits, valid⟩⟩ := x
  have packed := pack_unpack valid
  simp only [Float.ofBits, Float.toBits, Float.Model.ofBits, Float.Model.pack, packed]

theorem word_fields (n : Nat) (word : n < 2 ^ 64) :
    n = (decide (twoTo 63 ≤ n)).toNat * 2 ^ 63 + n / 2 ^ 52 % 2 ^ 11 * 2 ^ 52 + n % 2 ^ 52 := by
  by_cases negative : twoTo 63 ≤ n
  all_goals
    simp only [negative, decide_true, decide_false, Bool.toNat_true, Bool.toNat_false]
    simp only [twoTo_eq] at negative
    omega

theorem gap_of_significand {m k : Nat} (low : 2 ^ 52 ≤ m) (high : m < 2 ^ 53) :
    double.gap (m * 2 ^ k) = k :=
  Format.gap_eq_of_bounds (by decide)
    (by
      rw [show double.precision + k - 1 = 52 + k by simp [double], Nat.pow_add]
      exact Nat.mul_le_mul_right _ low)
    (by
      rw [Nat.pow_add]
      exact Nat.mul_lt_mul_of_pos_right high (Nat.two_pow_pos k))

theorem mul_two_pow_lt {m k p j : Nat} (small : m < 2 ^ p) (low : k ≤ j) :
    m * 2 ^ k < 2 ^ (p + j) :=
  calc m * 2 ^ k ≤ m * 2 ^ j := Nat.mul_le_mul_left m (Nat.pow_le_pow_right (by decide) low)
    _ < 2 ^ p * 2 ^ j := Nat.mul_lt_mul_of_pos_right small (Nat.two_pow_pos j)
    _ = 2 ^ (p + j) := (Nat.pow_add ..).symm

theorem finite_of_significand {m k j : Nat} (small : m < 2 ^ 53) (low : k ≤ j)
    (top : 53 + j = double.limitExponent) :
    double.Representable (m * 2 ^ k) ∧ m * 2 ^ k < double.limit := by
  refine ⟨⟨m, k, small, rfl⟩, ?_⟩
  rw [Format.limit, twoTo_eq, ← top]
  exact mul_two_pow_lt small low

theorem ofBits_finite {n u : Nat} {negative : Bool} (word : n < 2 ^ 64)
    (read : ofBits n = .finite negative u) :
    toBits (.finite negative u) = n ∧ double.Representable u ∧ u < double.limit := by
  have fields := word_fields n word
  have fraction_lt : n % 2 ^ 52 < 2 ^ 52 := Nat.mod_lt _ (by decide)
  have exponent_lt : n / 2 ^ 52 % 2 ^ 11 < 2 ^ 11 := Nat.mod_lt _ (by decide)
  dsimp only [ofBits] at read
  split at read
  · split at read <;> cases read
  · next notFull =>
    simp only [twoTo_eq] at notFull
    split at read
    · next zero =>
      simp only [twoTo_eq] at zero
      obtain ⟨rfl, units⟩ := Binary.finite.inj read
      rw [twoTo_eq] at units
      have small : u < 2 ^ 53 := by omega
      have gap : double.gap u = 0 := Nat.le_zero.1 (Format.gap_le_of_lt (by decide) small)
      have finite := finite_of_significand (k := 0) (j := 2045) small (by decide) rfl
      rw [Nat.pow_zero, Nat.mul_one] at finite
      refine ⟨?_, finite⟩
      simp only [toBits, magnitudeBits, gap, twoTo_eq, Nat.pow_zero, Nat.div_one]
      simp only [twoTo_eq] at fields
      omega
    · next normal =>
      simp only [twoTo_eq] at normal
      obtain ⟨rfl, units⟩ := Binary.finite.inj read
      simp only [twoTo_eq] at units
      obtain ⟨m, significand⟩ : ∃ m, 2 ^ 52 + n % 2 ^ 52 = m := ⟨_, rfl⟩
      obtain ⟨k, exponent⟩ : ∃ k, n / 2 ^ 52 % 2 ^ 11 - 1 = k := ⟨_, rfl⟩
      rw [significand, exponent] at units
      subst units
      refine ⟨?_, finite_of_significand (j := 2045) (by omega) (by omega) rfl⟩
      have gap := gap_of_significand (m := m) (k := k) (by omega) (by omega)
      simp only [toBits, magnitudeBits, gap, twoTo_eq, Nat.mul_div_cancel _ (Nat.two_pow_pos _)]
      simp only [twoTo_eq] at fields
      omega

theorem toFloat_ofFloat {x : Float} {negative : Bool} {u : Nat}
    (finite : ofFloat x = .finite negative u) : toFloat (.finite negative u) = x := by
  have bits := (ofBits_finite x.toBits.toNat_lt finite).1
  rw [toFloat, bits, UInt64.ofNat_toNat, ofBits_toBits]

theorem significand_bounds {u : Nat} (below : u < double.limit) :
    double.significand u < 2 ^ 53 ∧ (double.gap u ≠ 0 → 2 ^ 52 ≤ double.significand u) ∧
      double.gap u ≤ 2045 := by
  refine ⟨?_, fun wide => ?_, ?_⟩
  · rw [Format.significand, Nat.div_lt_iff_lt_mul (Nat.two_pow_pos _), ← Nat.pow_add]
    exact Format.lt_two_pow_gap (f := double) u
  · rw [Format.significand, Nat.le_div_iff_mul_le (Nat.two_pow_pos _), ← Nat.pow_add,
      show 52 + double.gap u = double.precision + double.gap u - 1 by simp [double]]
    exact Format.two_pow_le_of_gap (by decide) wide
  · rw [Format.limit, twoTo_eq,
      show double.limitExponent = double.precision + 2045 from rfl] at below
    exact Format.gap_le_of_lt (by decide) below

-- A significand with the hidden bit carries into the exponent field.
theorem toBits_fields {u : Nat} (negative : Bool) (below : u < double.limit) :
    toBits (.finite negative u) < 2 ^ 64 ∧
      toBits (.finite negative u) / 2 ^ 52 % 2 ^ 11 =
        double.gap u + double.significand u / 2 ^ 52 ∧
      toBits (.finite negative u) % 2 ^ 52 = double.significand u % 2 ^ 52 ∧
      decide (twoTo 63 ≤ toBits (.finite negative u)) = negative := by
  obtain ⟨small, -, low⟩ := significand_bounds below
  have bits : toBits (.finite negative u) =
      negative.toNat * 2 ^ 63 + (double.gap u * 2 ^ 52 + double.significand u) := rfl
  have sign : negative.toNat ≤ 1 := Bool.toNat_le negative
  rw [bits, twoTo_eq]
  generalize double.gap u = k at *
  generalize double.significand u = m at *
  refine ⟨by omega, by omega, by omega, ?_⟩
  cases negative
  · simp only [Bool.toNat_false, Nat.zero_mul, Nat.zero_add, decide_eq_false_iff_not, Nat.not_le]
    omega
  · simp

theorem ofBits_toBits_finite {u : Nat} (negative : Bool) (fits : double.Representable u)
    (below : u < double.limit) : ofBits (toBits (.finite negative u)) = .finite negative u := by
  obtain ⟨small, full, low⟩ := significand_bounds below
  obtain ⟨-, exponent, fraction, sign⟩ := toBits_fields negative below
  have value := Format.significand_mul (f := double) (by decide) fits
  simp only [ofBits, sign]
  simp only [twoTo_eq, exponent, fraction]
  generalize double.gap u = k at *
  generalize double.significand u = m at *
  rw [if_neg (by omega)]
  by_cases subnormal : m < 2 ^ 52
  · obtain rfl : k = 0 := by
      by_contra wide
      exact absurd (full wide) (Nat.not_le.2 subnormal)
    rw [Nat.pow_zero, Nat.mul_one] at value
    rw [if_pos (by omega), Nat.mod_eq_of_lt subnormal, value]
  · rw [if_neg (by omega), show 2 ^ 52 + m % 2 ^ 52 = m by omega,
      show k + m / 2 ^ 52 - 1 = k by omega, value]

theorem toBits_ofBits {n : Nat} (word : n < 2 ^ 64) (notFull : n / 2 ^ 52 % 2 ^ 11 ≠ 2047) :
    (Float.ofBits (UInt64.ofNat n)).toBits.toNat = n := by
  have same : (UInt64.ofNat n).toNat = n := UInt64.toNat_ofNat_of_lt' word
  have valid : Format.binary64.Valid (UInt64.ofNat n).toBitVec := by
    constructor
    intro full
    have exponent : n / 2 ^ 52 % 2 ^ 11 = 2047 := by
      have := congrArg BitVec.toNat full
      simpa [unpackExponent, Nat.shiftRight_eq_div_pow, same] using this
    exact absurd exponent notFull
  have kept : (Float.ofBits (UInt64.ofNat n)).toBits = UInt64.ofNat n := by
    simp only [Float.ofBits, Float.toBits, Float.Model.ofBits, Float.Model.pack, pack_unpack valid]
  rw [kept, same]

theorem ofFloat_toFloat {u : Nat} (negative : Bool) (fits : double.Representable u)
    (below : u < double.limit) : ofFloat (toFloat (.finite negative u)) = .finite negative u := by
  obtain ⟨small, -, low⟩ := significand_bounds below
  obtain ⟨word, exponent, -, -⟩ := toBits_fields negative below
  rw [ofFloat, toFloat, toBits_ofBits word (by omega), ofBits_toBits_finite negative fits below]

end ViewQuery.Decimal
