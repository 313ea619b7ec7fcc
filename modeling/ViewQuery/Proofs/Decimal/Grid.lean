import Mathlib
import ViewQuery.Decimal.Shortest

set_option autoImplicit false

namespace ViewQuery.Decimal

@[simp] theorem twoTo_eq (n : Nat) : twoTo n = 2 ^ n := rfl

@[simp] theorem tenTo_eq (n : Nat) : tenTo n = 10 ^ n := rfl

namespace Format

def Representable (f : Format) (u : Nat) : Prop :=
  ∃ m k, m < 2 ^ f.precision ∧ u = m * 2 ^ k

def significand (f : Format) (u : Nat) : Nat := u / 2 ^ f.gap u

-- The distance to the next smaller magnitude is at least this.
def gapBelow (f : Format) (u : Nat) : Nat :=
  if f.narrowBelow u then 2 ^ (f.gap u - 1) else 2 ^ f.gap u

variable {f : Format}

theorem lt_two_pow_gap (u : Nat) : u < 2 ^ (f.precision + f.gap u) :=
  calc u < 2 ^ (u.log2 + 1) := Nat.lt_log2_self
    _ ≤ 2 ^ (f.precision + f.gap u) := Nat.pow_le_pow_right (by decide) (by unfold gap; omega)

theorem log2_of_gap {u : Nat} (wide : f.gap u ≠ 0) : u.log2 = f.precision + f.gap u - 1 := by
  unfold gap at *
  omega

theorem two_pow_le_of_gap {u : Nat} (precise : 0 < f.precision) (wide : f.gap u ≠ 0) :
    2 ^ (f.precision + f.gap u - 1) ≤ u := by
  have nonzero : u ≠ 0 := by
    rintro rfl
    simp [gap, Nat.log2_zero] at wide
    omega
  rw [← log2_of_gap wide]
  exact Nat.log2_self_le nonzero

theorem gap_le_of_lt {u k : Nat} (precise : 0 < f.precision) (small : u < 2 ^ (f.precision + k)) :
    f.gap u ≤ k := by
  by_cases zero : u = 0
  · subst zero
    simp [gap, Nat.log2_zero]
    omega
  · have := (Nat.log2_lt zero).2 small
    unfold gap
    omega

theorem gap_eq_of_bounds {u k : Nat} (precise : 0 < f.precision)
    (low : 2 ^ (f.precision + k - 1) ≤ u) (high : u < 2 ^ (f.precision + k)) : f.gap u = k := by
  have nonzero : u ≠ 0 := by
    have := Nat.two_pow_pos (f.precision + k - 1)
    omega
  have log := (Nat.log2_eq_iff (k := f.precision + k - 1) nonzero).2
    ⟨low, by rwa [show f.precision + k - 1 + 1 = f.precision + k by omega]⟩
  unfold gap
  omega

theorem gap_mono {u v : Nat} (precise : 0 < f.precision) (le : u ≤ v) : f.gap u ≤ f.gap v :=
  gap_le_of_lt precise (le.trans_lt (lt_two_pow_gap v))

theorem dvd_of_representable {u : Nat} (precise : 0 < f.precision) (fits : f.Representable u) :
    2 ^ f.gap u ∣ u := by
  obtain ⟨m, k, small, rfl⟩ := fits
  have : f.gap (m * 2 ^ k) ≤ k := gap_le_of_lt precise (by
    rw [Nat.pow_add]
    exact Nat.mul_lt_mul_of_pos_right small (Nat.two_pow_pos k))
  exact (Nat.pow_dvd_pow 2 this).mul_left m

theorem significand_mul {u : Nat} (precise : 0 < f.precision) (fits : f.Representable u) :
    f.significand u * 2 ^ f.gap u = u :=
  Nat.div_mul_cancel (dvd_of_representable precise fits)

theorem representable_two_pow (precise : 0 < f.precision) (k : Nat) : f.Representable (2 ^ k) :=
  ⟨1, k, Nat.one_lt_two_pow precise.ne', by simp⟩

theorem representable_limit (precise : 0 < f.precision) : f.Representable f.limit :=
  representable_two_pow precise _

theorem add_le_of_dvd {d u v : Nat} (left : d ∣ u) (right : d ∣ v) (lt : u < v) : u + d ≤ v := by
  have := Nat.le_of_dvd (by omega) (Nat.dvd_sub right left)
  omega

theorem add_gap_le {u v : Nat} (precise : 0 < f.precision) (left : f.Representable u)
    (right : f.Representable v) (lt : u < v) : u + 2 ^ f.gap u ≤ v := by
  have wider := Nat.pow_dvd_pow 2 (gap_mono precise lt.le : f.gap u ≤ f.gap v)
  exact add_le_of_dvd (dvd_of_representable precise left)
    (wider.trans (dvd_of_representable precise right)) lt

theorem narrowBelow_iff {u : Nat} :
    f.narrowBelow u ↔ f.gap u ≠ 0 ∧ u = 2 ^ (f.precision + f.gap u - 1) := by
  have unfolded : f.narrowBelow u ↔ f.gap u ≠ 0 ∧ u = 2 ^ u.log2 := by
    simp only [narrowBelow, Bool.and_eq_true, decide_eq_true_eq]
    rfl
  rw [unfolded]
  constructor
  · rintro ⟨wide, power⟩
    exact ⟨wide, by rwa [log2_of_gap wide] at power⟩
  · rintro ⟨wide, power⟩
    exact ⟨wide, by rwa [log2_of_gap wide]⟩

theorem gapBelow_le (u : Nat) : f.gapBelow u ≤ 2 ^ f.gap u := by
  unfold gapBelow
  split
  · exact Nat.pow_le_pow_right (by decide) (by omega)
  · exact le_rfl

-- Below a power of two the gap is half as wide, and further down the distance is a binade at least.
theorem add_half_gap_le {u v : Nat} (precise : 0 < f.precision) (fits : f.Representable v)
    (power : u = 2 ^ (f.precision + f.gap u - 1)) (lt : v < u) (lower : f.gap v < f.gap u) :
    v + 2 ^ (f.gap u - 1) ≤ u := by
  rcases (Nat.le_sub_one_of_lt lower).eq_or_lt with next | further
  · refine add_le_of_dvd ?_ ?_ lt
    · rw [← next]
      exact dvd_of_representable precise fits
    · rw [power]
      exact Nat.pow_dvd_pow 2 (by rw [← power]; omega)
  · have below : v < 2 ^ (f.precision + f.gap u - 2) :=
      (lt_two_pow_gap (f := f) v).trans_le (Nat.pow_le_pow_right (by decide) (by omega))
    have half : 2 ^ (f.gap u - 1) ≤ 2 ^ (f.precision + f.gap u - 2) :=
      Nat.pow_le_pow_right (by decide) (by omega)
    have double : 2 ^ (f.precision + f.gap u - 1) = 2 * 2 ^ (f.precision + f.gap u - 2) := by
      rw [← Nat.pow_succ']
      congr 1
      omega
    omega

theorem add_gapBelow_le {u v : Nat} (precise : 0 < f.precision) (left : f.Representable v)
    (right : f.Representable u) (lt : v < u) : v + f.gapBelow u ≤ u := by
  rcases (gap_mono (f := f) precise lt.le).eq_or_lt with same | lower
  · have step := add_gap_le precise left right lt
    rw [same] at step
    exact (Nat.add_le_add_left (gapBelow_le u) v).trans step
  · have wide : f.gap u ≠ 0 := by omega
    by_cases narrow : f.narrowBelow u
    · rw [gapBelow, if_pos narrow]
      exact add_half_gap_le precise left (narrowBelow_iff.1 narrow).2 lt lower
    · rw [gapBelow, if_neg narrow]
      have start := two_pow_le_of_gap precise wide
      have apart : 2 ^ (f.precision + f.gap u - 1) ≠ u := fun power =>
        narrow (narrowBelow_iff.2 ⟨wide, power.symm⟩)
      have above := add_le_of_dvd (Nat.pow_dvd_pow 2 (by omega))
        (dvd_of_representable precise right) (lt_of_le_of_ne start apart)
      have below : v < 2 ^ (f.precision + f.gap u - 1) :=
        (lt_two_pow_gap (f := f) v).trans_le (Nat.pow_le_pow_right (by decide) (by omega))
      omega

end Format

end ViewQuery.Decimal
