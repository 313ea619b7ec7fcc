import Mathlib
import ViewQuery.Proofs.Decimal.Value

set_option autoImplicit false

namespace ViewQuery.Decimal

variable {f : Format}

def Digits.units (f : Format) (d : Digits) : ℚ := f.unitsOf d.digits d.exponent

namespace Format

theorem compareQuarters_iff (d : Digits) (n : Nat) :
    (f.compareQuarters d n = .lt ↔ 4 * d.units f < n) ∧
      (f.compareQuarters d n = .eq ↔ 4 * d.units f = n) ∧
      (f.compareQuarters d n = .gt ↔ n < 4 * d.units f) := by
  have scale : (0 : ℚ) < 10 ^ (-d.exponent).toNat := by positivity
  have left : 4 * d.units f * 10 ^ (-d.exponent).toNat =
      (d.digits * tenTo d.exponent.toNat * twoTo (f.unitExponent + 2) : Nat) := by
    unfold Digits.units unitsOf
    rw [← pow_toNat_div]
    push_cast [tenTo_eq, twoTo_eq]
    field_simp
    ring
  have right : (n : ℚ) * 10 ^ (-d.exponent).toNat = (n * tenTo (-d.exponent).toNat : Nat) := by
    push_cast [tenTo_eq]
    rfl
  have lt : 4 * d.units f < n ↔ _ := (mul_lt_mul_iff_of_pos_right scale).symm
  have eq : 4 * d.units f = n ↔ _ := (mul_left_inj' scale.ne').symm
  have gt : n < 4 * d.units f ↔ _ := (mul_lt_mul_iff_of_pos_right scale).symm
  rw [lt, eq, gt, left, right, Nat.cast_lt, Nat.cast_inj, Nat.cast_lt]
  exact ⟨Nat.compare_eq_lt, Nat.compare_eq_eq, Nat.compare_eq_gt⟩

theorem two_mul_gapBelow {u : Nat} :
    2 * f.gapBelow u = (if f.narrowBelow u then 1 else 2) * twoTo (f.gap u) := by
  unfold gapBelow
  split
  · next narrow =>
    have wide := (narrowBelow_iff.1 narrow).1
    rw [← Nat.pow_succ', Nat.succ_eq_add_one, Nat.sub_one_add_one wide, Nat.one_mul, twoTo_eq]
  · rfl

theorem leastQuarters_add {u : Nat} (precise : 0 < f.precision) (fits : f.Representable u)
    (nonzero : u ≠ 0) : f.leastQuarters u + 2 * f.gapBelow u = 4 * u := by
  have gap_le := Nat.le_of_dvd (Nat.pos_of_ne_zero nonzero) (dvd_of_representable precise fits)
  have below_le := gapBelow_le (f := f) u
  unfold leastQuarters
  rw [← two_mul_gapBelow]
  omega

theorem within_of_readsBack {u : Nat} {d : Digits} (precise : 0 < f.precision)
    (fits : f.Representable u) (nonzero : u ≠ 0) (reads : f.readsBack u d) :
    f.Within (d.units f) u := by
  have least : (f.leastQuarters u : ℚ) + 2 * f.gapBelow u = 4 * u := by
    exact_mod_cast leastQuarters_add precise fits nonzero
  have greatest : (f.greatestQuarters u : ℚ) = 4 * u + 2 * 2 ^ f.gap u := by
    simp [greatestQuarters]
  obtain ⟨-, lowEq, lowGt⟩ := compareQuarters_iff (f := f) d (f.leastQuarters u)
  obtain ⟨highLt, highEq, -⟩ := compareQuarters_iff (f := f) d (f.greatestQuarters u)
  simp only [readsBack, Bool.and_eq_true, Bool.or_eq_true, decide_eq_true_eq, lowEq, lowGt, highLt,
    highEq] at reads
  obtain ⟨low, high⟩ := reads
  have even : u / twoTo (f.gap u) % 2 = 0 → Even (f.significand u) := Nat.even_iff.2
  refine ⟨fits, ?_, ?_, ?_⟩
  · rcases high with lt | ⟨-, eq⟩ <;> linarith
  · rcases low with gt | ⟨-, eq⟩ <;> linarith
  · rintro (above | below)
    · rcases high with lt | ⟨isEven, -⟩
      · linarith
      · exact even isEven
    · rcases low with gt | ⟨isEven, -⟩
      · linarith
      · exact even isEven

theorem readsBack_of_choose {tie : Tie} {u : Nat} {e : Int} {d : Digits}
    (chosen : f.choose tie u e = some d) : f.readsBack u d := by
  dsimp only [choose] at chosen
  split at chosen
  · next low high =>
    split at chosen
    · cases chosen
      exact low
    · cases chosen
      exact high
    · split at chosen
      · cases chosen
        exact high
      · cases chosen
        exact low
  · next low _ =>
    cases chosen
    exact low
  · next _ high =>
    cases chosen
    exact high
  · cases chosen

end Format

theorem Digits.units_strip (n : Nat) (d : Digits) : (d.strip n).units f = d.units f := by
  induction n generalizing d with
  | zero => rfl
  | succ n ih =>
    unfold Digits.strip
    split
    · next divides =>
      rw [ih]
      have tens := Nat.div_add_mod d.digits 10
      rw [divides.2, Nat.add_zero, Nat.mul_comm] at tens
      have shift := f.unitsOf_mul_pow (d.digits / 10) 1 (d.exponent + 1)
      rw [Nat.pow_one, tens] at shift
      unfold Digits.units
      rw [← shift]
      simp
    · rfl

theorem Digits.strip_ne_zero {n : Nat} {d : Digits} (nonzero : d.digits ≠ 0) :
    (d.strip n).digits ≠ 0 := by
  induction n generalizing d with
  | zero => exact nonzero
  | succ n ih =>
    unfold Digits.strip
    split
    · apply ih
      change d.digits / 10 ≠ 0
      omega
    · exact nonzero

namespace Format

theorem isNearest_self {u : Nat} (fits : f.Representable u) : f.IsNearest u u := by
  refine ⟨fits, fun v _ => by simp, ?_⟩
  intro v _ ne same
  rw [sub_self, abs_zero, abs_eq_zero, sub_eq_zero] at same
  exact absurd (by exact_mod_cast same.symm) ne

theorem IsNearest.eq_zero {u : Nat} (nearest : f.IsNearest 0 u) : u = 0 := by
  have closer := nearest.nearest 0 ⟨0, 0, Nat.two_pow_pos _, by simp⟩
  simpa using closer

theorem digits_ne_zero {u : Nat} {d : Digits} (nonzero : u ≠ 0)
    (nearest : f.IsNearest (d.units f) u) : d.digits ≠ 0 := by
  intro zero
  rw [Digits.units, zero, unitsOf_zero] at nearest
  exact nonzero nearest.eq_zero

theorem exact_units (u : Nat) :
    Digits.units f ⟨u * Nat.pow 5 f.unitExponent, -f.unitExponent⟩ = u := by
  unfold Digits.units unitsOf
  rw [zpow_neg, zpow_natCast, show (10 : ℚ) = 5 * 2 by norm_num, mul_pow]
  push_cast
  field_simp
  simp

theorem shortest_isNearest {u : Nat} (tie : Tie) (precise : 0 < f.precision)
    (fits : f.Representable u) (nonzero : u ≠ 0) :
    f.IsNearest ((f.shortest tie u).units f) u ∧ (f.shortest tie u).digits ≠ 0 := by
  unfold shortest
  simp only
  split
  · next d found =>
    obtain ⟨n, -, chosen⟩ := List.exists_of_findSome?_eq_some found
    have nearest := isNearest_of_within precise
      (within_of_readsBack precise fits nonzero (readsBack_of_choose chosen))
    rw [Digits.units_strip]
    exact ⟨nearest, Digits.strip_ne_zero (digits_ne_zero nonzero nearest)⟩
  -- Without shorter digits that read back, the exact ones do.
  · have nearest :
        f.IsNearest (Digits.units f ⟨u * Nat.pow 5 f.unitExponent, -f.unitExponent⟩) u := by
      rw [exact_units]
      exact isNearest_self fits
    exact ⟨nearest, digits_ne_zero nonzero nearest⟩

end Format

end ViewQuery.Decimal
