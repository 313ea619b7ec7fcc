import Mathlib
import ViewQuery.Proofs.Decimal.Grid

set_option autoImplicit false

namespace ViewQuery.Decimal

namespace Format

structure IsNearest (f : Format) (q : ℚ) (u : Nat) : Prop where
  representable : f.Representable u
  nearest : ∀ v, f.Representable v → |q - u| ≤ |q - v|
  even : ∀ v, f.Representable v → v ≠ u → |q - v| = |q - u| → Even (f.significand u)

structure Within (f : Format) (q : ℚ) (u : Nat) : Prop where
  representable : f.Representable u
  above : 2 * q ≤ 2 * u + 2 ^ f.gap u
  below : 2 * u ≤ 2 * q + f.gapBelow u
  even : 2 * q = 2 * u + 2 ^ f.gap u ∨ 2 * u = 2 * q + f.gapBelow u → Even (f.significand u)

variable {f : Format}

theorem abs_sub_le_iff_of_lt {q a b : ℚ} (lt : a < b) : |q - a| ≤ |q - b| ↔ 2 * q ≤ a + b := by
  rw [← sq_le_sq]
  constructor <;> intro h <;> nlinarith

theorem abs_sub_le_iff_of_gt {q a b : ℚ} (lt : b < a) : |q - a| ≤ |q - b| ↔ a + b ≤ 2 * q := by
  rw [← sq_le_sq]
  constructor <;> intro h <;> nlinarith

theorem abs_sub_eq_iff_of_ne {q a b : ℚ} (ne : a ≠ b) : |q - a| = |q - b| ↔ 2 * q = a + b := by
  rw [← sq_eq_sq_iff_abs_eq_abs]
  constructor
  · intro same
    apply mul_left_cancel₀ (sub_ne_zero.2 ne)
    linarith
  · intro middle
    have : q = (a + b) / 2 := by linarith
    subst this
    ring

theorem isNearest_of_within {q : ℚ} {u : Nat} (precise : 0 < f.precision) (within : f.Within q u) :
    f.IsNearest q u := by
  have above := within.above
  have below := within.below
  have up (v : Nat) (fits : f.Representable v) (lt : u < v) : (u : ℚ) + 2 ^ f.gap u ≤ v := by
    exact_mod_cast add_gap_le precise within.representable fits lt
  have down (v : Nat) (fits : f.Representable v) (lt : v < u) : (v : ℚ) + f.gapBelow u ≤ u := by
    exact_mod_cast add_gapBelow_le precise fits within.representable lt
  refine ⟨within.representable, ?_, ?_⟩
  · intro v fits
    rcases lt_trichotomy u v with lt | rfl | lt
    · rw [abs_sub_le_iff_of_lt (by exact_mod_cast lt)]
      linarith [up v fits lt]
    · rfl
    · rw [abs_sub_le_iff_of_gt (by exact_mod_cast lt)]
      linarith [down v fits lt]
  · intro v fits ne tie
    rw [abs_sub_eq_iff_of_ne (by exact_mod_cast ne)] at tie
    apply within.even
    rcases lt_or_gt_of_ne ne with lt | lt
    · right
      linarith [down v fits lt]
    · left
      linarith [up v fits lt]

theorem next_of_even {u : Nat} (precise : 0 < f.precision) (fits : f.Representable u)
    (even : Even (f.significand u)) :
    f.Representable (u + 2 ^ f.gap u) ∧ f.significand (u + 2 ^ f.gap u) = f.significand u + 1 := by
  have value := significand_mul precise fits
  have small : f.significand u < 2 ^ f.precision := by
    rw [significand, Nat.div_lt_iff_lt_mul (Nat.two_pow_pos _), ← Nat.pow_add]
    exact lt_two_pow_gap u
  have room : f.significand u + 1 < 2 ^ f.precision := by
    have evenPower : Even (2 ^ f.precision) := (even_two).pow_of_ne_zero precise.ne'
    rcases Nat.lt_or_eq_of_le (Nat.succ_le_of_lt small) with lt | eq
    · exact lt
    · rw [← eq, Nat.succ_eq_add_one, Nat.even_add_one] at evenPower
      exact absurd even evenPower
  have next : u + 2 ^ f.gap u = (f.significand u + 1) * 2 ^ f.gap u := by
    rw [Nat.add_mul, value, Nat.one_mul]
  have sameGap : f.gap (u + 2 ^ f.gap u) = f.gap u := by
    apply le_antisymm
    · apply gap_le_of_lt precise
      rw [next, Nat.pow_add]
      exact Nat.mul_lt_mul_of_pos_right room (Nat.two_pow_pos _)
    · exact gap_mono precise (Nat.le_add_right _ _)
  refine ⟨⟨_, _, room, next⟩, ?_⟩
  rw [significand, sameGap, next, Nat.mul_div_cancel _ (Nat.two_pow_pos _)]

theorem IsNearest.not_lt {q : ℚ} {u v : Nat} (precise : 0 < f.precision) (left : f.IsNearest q u)
    (right : f.IsNearest q v) : ¬ u < v := by
  intro lt
  have apart : (u : ℚ) ≠ v := by exact_mod_cast lt.ne
  have tie := le_antisymm (left.nearest v right.representable) (right.nearest u left.representable)
  have middle := (abs_sub_eq_iff_of_ne apart).1 tie
  -- Two nearest magnitudes are neighbours, and of neighbours only one has an even significand.
  have evenLeft := left.even v right.representable lt.ne' tie.symm
  have evenRight := right.even u left.representable lt.ne tie
  obtain ⟨nextFits, nextSignificand⟩ := next_of_even precise left.representable evenLeft
  have adjacent : u + 2 ^ f.gap u = v := by
    apply le_antisymm (add_gap_le precise left.representable right.representable lt)
    have closer := left.nearest _ nextFits
    have after : (u : ℚ) < (u + 2 ^ f.gap u : Nat) := by
      exact_mod_cast Nat.lt_add_of_pos_right (Nat.two_pow_pos _)
    rw [abs_sub_le_iff_of_lt after, middle] at closer
    have : (v : ℚ) ≤ (u + 2 ^ f.gap u : Nat) := by linarith
    exact_mod_cast this
  rw [← adjacent, nextSignificand, Nat.even_add_one] at evenRight
  exact evenRight evenLeft

theorem IsNearest.unique {q : ℚ} {u v : Nat} (precise : 0 < f.precision) (left : f.IsNearest q u)
    (right : f.IsNearest q v) : u = v :=
  le_antisymm (Nat.le_of_not_lt (right.not_lt precise left))
    (Nat.le_of_not_lt (left.not_lt precise right))

theorem IsNearest.le_of_le {q : ℚ} {u v : Nat} (nearest : f.IsNearest q u)
    (fits : f.Representable v) (le : v ≤ q) : v ≤ u := by
  by_contra above
  have lt : (u : ℚ) < v := by exact_mod_cast Nat.lt_of_not_le above
  have closer := nearest.nearest v fits
  rw [abs_sub_le_iff_of_lt lt] at closer
  linarith

theorem IsNearest.le_of_ge {q : ℚ} {u v : Nat} (nearest : f.IsNearest q u)
    (fits : f.Representable v) (le : q ≤ v) : u ≤ v := by
  by_contra below
  have lt : (v : ℚ) < u := by exact_mod_cast Nat.lt_of_not_le below
  have closer := nearest.nearest v fits
  rw [abs_sub_le_iff_of_gt lt] at closer
  linarith

end Format

theorem roundHalfEven_bounds (num : Nat) {den : Nat} (positive : 0 < den) :
    2 * num ≤ 2 * (roundHalfEven num den * den) + den ∧
      2 * (roundHalfEven num den * den) ≤ 2 * num + den ∧
      (2 * num = 2 * (roundHalfEven num den * den) + den ∨
        2 * (roundHalfEven num den * den) = 2 * num + den → Even (roundHalfEven num den)) := by
  have split := Nat.div_add_mod num den
  have small := Nat.mod_lt num positive
  rw [Nat.mul_comm] at split
  simp only [roundHalfEven]
  split_ifs with low high
  · refine ⟨by omega, by omega, by omega⟩
  · rw [Nat.add_mul, Nat.one_mul]
    refine ⟨by omega, by omega, by omega⟩
  · rcases Nat.mod_two_eq_zero_or_one (num / den) with even | odd
    · rw [even, Nat.add_zero]
      exact ⟨by omega, by omega, fun _ => Nat.even_iff.2 even⟩
    · rw [odd, Nat.add_mul, Nat.one_mul]
      refine ⟨by omega, by omega, fun _ => ?_⟩
      rw [Nat.even_add_one, Nat.not_even_iff]
      exact odd

theorem le_roundHalfEven {num den least : Nat} (positive : 0 < den) (le : least * den ≤ num) :
    least ≤ roundHalfEven num den := by
  have := (roundHalfEven_bounds num positive).1
  by_contra above
  have := Nat.mul_le_mul_right den (Nat.succ_le_of_lt (Nat.lt_of_not_le above))
  rw [Nat.succ_mul] at this
  omega

theorem roundHalfEven_le {num den greatest : Nat} (positive : 0 < den) (le : num ≤ greatest * den) :
    roundHalfEven num den ≤ greatest := by
  have := (roundHalfEven_bounds num positive).2.1
  by_contra below
  have := Nat.mul_le_mul_right den (Nat.succ_le_of_lt (Nat.lt_of_not_le below))
  rw [Nat.succ_mul] at this
  omega

namespace Format

variable {f : Format}

-- `Within` for a quotient, without division.
theorem within_of_mul {num den u : Nat} (positive : 0 < den) (representable : f.Representable u)
    (above : 2 * num ≤ 2 * (u * den) + 2 ^ f.gap u * den)
    (below : 2 * (u * den) ≤ 2 * num + f.gapBelow u * den)
    (even : 2 * num = 2 * (u * den) + 2 ^ f.gap u * den ∨
      2 * (u * den) = 2 * num + f.gapBelow u * den → Even (f.significand u)) :
    f.Within ((num : ℚ) / den) u := by
  have den_pos : (0 : ℚ) < den := by exact_mod_cast positive
  have cancel : (num : ℚ) / den * den = num := div_mul_cancel₀ _ den_pos.ne'
  refine ⟨representable, ?_, ?_, ?_⟩
  · apply le_of_mul_le_mul_right _ den_pos
    have : (2 * num : ℚ) ≤ 2 * (u * den) + 2 ^ f.gap u * den := by exact_mod_cast above
    linarith
  · apply le_of_mul_le_mul_right _ den_pos
    have : (2 * (u * den) : ℚ) ≤ 2 * num + f.gapBelow u * den := by exact_mod_cast below
    linarith
  · intro tie
    apply even
    refine tie.imp (fun high => ?_) (fun low => ?_)
    · have : (2 * num : ℚ) = 2 * (u * den) + 2 ^ f.gap u * den := by
        linear_combination (den : ℚ) * high - 2 * cancel
      exact_mod_cast this
    · have : (2 * (u * den) : ℚ) = 2 * num + f.gapBelow u * den := by
        linear_combination (den : ℚ) * low + 2 * cancel
      exact_mod_cast this

theorem gap_mul_two_pow {r k : Nat} (precise : 0 < f.precision) (small : r < 2 ^ f.precision)
    (full : k ≠ 0 → 2 ^ (f.precision - 1) ≤ r) : f.gap (r * 2 ^ k) = k := by
  by_cases zero : k = 0
  · subst zero
    exact Nat.le_zero.1 (gap_le_of_lt precise (by simpa using small))
  · apply gap_eq_of_bounds precise
    · rw [show f.precision + k - 1 = f.precision - 1 + k by omega, Nat.pow_add]
      exact Nat.mul_le_mul_right _ (full zero)
    · rw [Nat.pow_add]
      exact Nat.mul_lt_mul_of_pos_right small (Nat.two_pow_pos k)

-- `r` is the quotient in steps of `2 ^ k`, rounded; the quotient itself has the gap `k`.
structure Rounds (f : Format) (num den r k : Nat) : Prop where
  quotient : k ≠ 0 → 2 ^ (f.precision - 1) * 2 ^ k * den ≤ num
  least : k ≠ 0 → 2 ^ (f.precision - 1) ≤ r
  most : r ≤ 2 ^ f.precision
  above : 2 * num ≤ 2 * (r * 2 ^ k * den) + 2 ^ k * den
  below : 2 * (r * 2 ^ k * den) ≤ 2 * num + 2 ^ k * den
  even : 2 * num = 2 * (r * 2 ^ k * den) + 2 ^ k * den ∨
    2 * (r * 2 ^ k * den) = 2 * num + 2 ^ k * den → Even r

theorem exists_rounds (precise : 0 < f.precision) (num : Nat) {den : Nat} (positive : 0 < den) :
    ∃ r k, f.nearest num den = r * 2 ^ k ∧ f.Rounds num den r k := by
  obtain ⟨k, gap⟩ : ∃ k, f.gap (num / den) = k := ⟨_, rfl⟩
  obtain ⟨r, rounded⟩ : ∃ r, roundHalfEven num (den * 2 ^ k) = r := ⟨_, rfl⟩
  have step_pos : 0 < den * 2 ^ k := Nat.mul_pos positive (Nat.two_pow_pos k)
  have quotient (wide : k ≠ 0) : 2 ^ (f.precision - 1) * 2 ^ k * den ≤ num := by
    have le := (Nat.le_div_iff_mul_le positive).1
      (two_pow_le_of_gap (f := f) (u := num / den) precise (by rwa [gap]))
    rwa [gap, show f.precision + k - 1 = f.precision - 1 + k by omega, Nat.pow_add] at le
  obtain ⟨above, below, even⟩ := roundHalfEven_bounds num step_pos
  rw [rounded, show r * (den * 2 ^ k) = r * 2 ^ k * den by ring, Nat.mul_comm den]
    at above below even
  refine ⟨r, k, by simp only [nearest, twoTo_eq, gap, rounded],
    ⟨quotient, fun wide => ?_, ?_, above, below, even⟩⟩
  · rw [← rounded]
    apply le_roundHalfEven step_pos
    calc 2 ^ (f.precision - 1) * (den * 2 ^ k) = 2 ^ (f.precision - 1) * 2 ^ k * den := by ring
      _ ≤ num := quotient wide
  · have less := (Nat.div_lt_iff_lt_mul positive).1 (lt_two_pow_gap (f := f) (num / den))
    rw [gap] at less
    rw [← rounded]
    apply roundHalfEven_le step_pos
    calc num ≤ 2 ^ (f.precision + k) * den := less.le
      _ = 2 ^ f.precision * (den * 2 ^ k) := by ring

namespace Rounds

variable {num den r k : Nat}

theorem le_of_narrowBelow (rounds : f.Rounds num den r k) (precise : 0 < f.precision)
    (gap : f.gap (r * 2 ^ k) = k) (narrow : f.narrowBelow (r * 2 ^ k)) :
    r * 2 ^ k * den ≤ num := by
  obtain ⟨wide, power⟩ := narrowBelow_iff.1 narrow
  rw [gap] at wide power
  have le := rounds.quotient wide
  rwa [← Nat.pow_add, show f.precision - 1 + k = f.precision + k - 1 by omega, ← power] at le

theorem within_of_lt (rounds : f.Rounds num den r k) (precise : 0 < f.precision)
    (positive : 0 < den) (small : r < 2 ^ f.precision) :
    f.Within ((num : ℚ) / den) (r * 2 ^ k) := by
  have gap : f.gap (r * 2 ^ k) = k := gap_mul_two_pow precise small rounds.least
  have significand : f.significand (r * 2 ^ k) = r := by
    rw [Format.significand, gap, Nat.mul_div_cancel _ (Nat.two_pow_pos k)]
  have fits : f.Representable (r * 2 ^ k) := ⟨r, k, small, rfl⟩
  have above : 2 * num ≤ 2 * (r * 2 ^ k * den) + 2 ^ f.gap (r * 2 ^ k) * den := by
    rw [gap]
    exact rounds.above
  by_cases narrow : f.narrowBelow (r * 2 ^ k)
  -- The quotient is no smaller than the power of two, so the gap below does not matter.
  · have le := rounds.le_of_narrowBelow precise gap narrow
    have below_pos : 0 < f.gapBelow (r * 2 ^ k) * den := by
      rw [gapBelow, if_pos narrow]
      exact Nat.mul_pos (Nat.two_pow_pos _) positive
    apply within_of_mul positive fits above
    · omega
    · rw [gap, significand]
      rintro (high | low)
      · exact rounds.even (.inl high)
      · omega
  · have gapBelow : f.gapBelow (r * 2 ^ k) = 2 ^ k := by rw [Format.gapBelow, if_neg narrow, gap]
    apply within_of_mul positive fits above
    · rw [gapBelow]
      exact rounds.below
    · rw [gapBelow, gap, significand]
      exact rounds.even

-- The next power of two has a gap twice as wide above but not below.
theorem within_of_carry (rounds : f.Rounds num den r k) (precise : 1 < f.precision)
    (positive : 0 < den) (carry : r = 2 ^ f.precision) :
    f.Within ((num : ℚ) / den) (r * 2 ^ k) := by
  have power : r * 2 ^ k = 2 ^ (f.precision - 1) * 2 ^ (k + 1) := by
    rw [carry, ← Nat.pow_add, ← Nat.pow_add]
    congr 1
    omega
  have fits : 2 ^ (f.precision - 1) < 2 ^ f.precision :=
    Nat.pow_lt_pow_right (by decide) (by omega)
  have gap : f.gap (r * 2 ^ k) = k + 1 := by
    rw [power]
    exact gap_mul_two_pow (by omega) fits fun _ => le_rfl
  have significand : f.significand (r * 2 ^ k) = 2 ^ (f.precision - 1) := by
    rw [Format.significand, gap, power, Nat.mul_div_cancel _ (Nat.two_pow_pos _)]
  have narrow : f.narrowBelow (r * 2 ^ k) := by
    rw [narrowBelow_iff, gap, power, ← Nat.pow_add]
    exact ⟨by omega, by congr 1; omega⟩
  have gapBelow : f.gapBelow (r * 2 ^ k) = 2 ^ k := by
    rw [Format.gapBelow, if_pos narrow, gap, Nat.add_sub_cancel]
  have above := rounds.above
  have gap_pos : 0 < 2 ^ k * den := Nat.mul_pos (Nat.two_pow_pos k) positive
  apply within_of_mul positive ⟨_, _, fits, power⟩
  · rw [gap, Nat.pow_succ]
    linarith
  · rw [gapBelow]
    exact rounds.below
  · rw [significand]
    exact fun _ => even_two.pow_of_ne_zero (by omega)

end Rounds

theorem within_nearest (precise : 1 < f.precision) (num : Nat) {den : Nat} (positive : 0 < den) :
    f.Within ((num : ℚ) / den) (f.nearest num den) := by
  have precise' : 0 < f.precision := by omega
  obtain ⟨r, k, value, rounds⟩ := exists_rounds precise' num positive
  rw [value]
  rcases rounds.most.lt_or_eq with small | carry
  · exact rounds.within_of_lt precise' positive small
  · exact rounds.within_of_carry precise positive carry

end Format

end ViewQuery.Decimal
