import Mathlib.Data.List.Basic
import ViewQuery.Text.Alphanumeric
import ViewQuery.Text.LowerCase

set_option autoImplicit false

namespace ViewQuery.Text

section runs

-- A run holds its first and last capital, the step between them and the way to the small letters.
variable {r q : Nat × Nat × Nat × Int} {n : Nat}

def IsIn (r : Nat × Nat × Nat × Int) (n : Nat) : Prop :=
  r.1 ≤ n ∧ n ≤ r.2.1 ∧ (n - r.1) % r.2.2.1 = 0

def smallOf (r : Nat × Nat × Nat × Int) (n : Nat) : Nat := (n + r.2.2.2).toNat

def withinRange (low high : Nat) : Bool :=
  alphanumericRanges.any fun a => a.1.ble low && high.ble a.2

-- One run of capitals lies in several ranges, between which nothing is assigned.
def hasAlphanumericCapitals (r : Nat × Nat × Nat × Int) : Bool :=
  withinRange r.1 r.2.1 ||
    (r.2.2.1.beq 2 && (List.range' r.1 ((r.2.1 - r.1) / 2 + 1) 2).all fun n => withinRange n n)

-- Small letters in ASCII are told by their own rule.
def hasAlphanumericSmalls (r : Nat × Nat × Nat × Int) : Bool :=
  ((128).ble (smallOf r r.1) && withinRange (smallOf r r.1) (smallOf r r.2.1)) ||
    ((97).ble (smallOf r r.1) && (smallOf r r.2.1).ble 122)

def apart (r q : Nat × Nat × Nat × Int) : Bool :=
  (smallOf r r.2.1).blt q.1 || q.2.1.blt (smallOf r r.1) ||
    (q.2.2.1.beq 2 && (r.2.2.1.beq 2 || r.1.beq r.2.1) &&
      ((smallOf r r.1 - q.1) % 2).beq 1)

theorem runs_capitals : lowerRuns.all hasAlphanumericCapitals = true := by decide +kernel

theorem runs_smalls : lowerRuns.all hasAlphanumericSmalls = true := by decide +kernel

theorem runs_apart : (lowerRuns.all fun r => lowerRuns.all (apart r)) = true := by decide +kernel

-- The small letters are characters, and the dotted capital I is none of them.
theorem runs_valid : (lowerRuns.all fun r => 0 ≤ r.1 + r.2.2.2 &&
    ((smallOf r r.2.1).blt 0x130 || (0x130).blt (smallOf r r.1)) &&
    ((smallOf r r.2.1).blt 0xd800 || (0xdfff).blt (smallOf r r.1)) &&
    (smallOf r r.2.1).blt 0x110000) = true := by decide +kernel

theorem inRanges_of_within {low high : Nat} {c : Char} (within : withinRange low high = true)
    (above : low ≤ c.toNat) (below : c.toNat ≤ high) :
    inRanges alphanumericRanges c = true := by
  obtain ⟨a, member, covers⟩ := List.any_eq_true.1 within
  have bounds : a.1 ≤ low ∧ high ≤ a.2 := by simpa using covers
  exact inRanges_eq_true.2 ⟨a, member, by omega, by omega⟩

theorem inRanges_of_isIn (member : r ∈ lowerRuns) {c : Char} (capital : IsIn r c.toNat) :
    inRanges alphanumericRanges c = true := by
  have covered := List.all_eq_true.1 runs_capitals r member
  obtain ⟨above, below, step⟩ := capital
  rw [hasAlphanumericCapitals, Bool.or_eq_true, Bool.and_eq_true, List.all_eq_true] at covered
  rcases covered with within | ⟨two, single⟩
  · exact inRanges_of_within within above below
  · have two : r.2.2.1 = 2 := Nat.eq_of_beq_eq_true two
    rw [two] at step
    apply inRanges_of_within (single c.toNat ?_) (Nat.le_refl _) (Nat.le_refl _)
    rw [List.mem_range']
    exact ⟨(c.toNat - r.1) / 2, by omega, by omega⟩

theorem smallOf_bounds (member : r ∈ lowerRuns) (capital : IsIn r n) :
    smallOf r r.1 ≤ smallOf r n ∧ smallOf r n ≤ smallOf r r.2.1 ∧
      smallOf r n - smallOf r r.1 = n - r.1 := by
  have valid := List.all_eq_true.1 runs_valid r member
  obtain ⟨above, below, -⟩ := capital
  simp only [Bool.and_eq_true, decide_eq_true_eq] at valid
  simp only [smallOf]
  omega

theorem not_isIn_smallOf (member : r ∈ lowerRuns) (member' : q ∈ lowerRuns) (capital : IsIn r n) :
    ¬ IsIn q (smallOf r n) := by
  have separate := List.all_eq_true.1 (List.all_eq_true.1 runs_apart r member) q member'
  have bounds := smallOf_bounds member capital
  obtain ⟨above, below, step⟩ := capital
  simp only [apart, Bool.or_eq_true, Bool.and_eq_true, Nat.beq_eq, Nat.blt_eq] at separate
  intro ⟨above', below', step'⟩
  rcases separate with (low | high) | ⟨⟨two, uneven⟩, odd⟩
  · omega
  · omega
  · rw [two] at step'
    rcases uneven with two' | single
    · rw [two'] at step
      omega
    · omega

theorem toNat_smallOf (member : r ∈ lowerRuns) (capital : IsIn r n) :
    (Char.ofNat (smallOf r n)).toNat = smallOf r n := by
  have valid := List.all_eq_true.1 runs_valid r member
  have bounds := smallOf_bounds member capital
  simp only [Bool.and_eq_true, Bool.or_eq_true, Nat.blt_eq] at valid
  have isChar : (smallOf r n).isValidChar := by
    simp only [Nat.isValidChar]
    omega
  rw [Char.ofNat, dif_pos isChar]
  rfl

theorem isAlphanumeric_of_inRanges {c : Char} (wide : 128 ≤ c.toNat)
    (within : inRanges alphanumericRanges c = true) : isAlphanumeric c = true := by
  rw [isAlphanumeric, if_neg (by omega), within]

theorem isAlphanumeric_smallOf (member : r ∈ lowerRuns) (capital : IsIn r n) :
    isAlphanumeric (Char.ofNat (smallOf r n)) = true := by
  have covered := List.all_eq_true.1 runs_smalls r member
  have bounds := smallOf_bounds member capital
  have code := toNat_smallOf member capital
  simp only [hasAlphanumericSmalls, Bool.or_eq_true, Bool.and_eq_true, Nat.ble_eq] at covered
  rcases covered with ⟨wide, within⟩ | ⟨above, below⟩
  · exact isAlphanumeric_of_inRanges (by omega)
      (inRanges_of_within within (by omega) (by omega))
  · have small : ∀ k < 123, 97 ≤ k → isAlphanumeric (Char.ofNat k) = true := by decide
    exact small _ (by omega) (by omega)

end runs

section characters

variable {c d : Char}

def IsLowered (c : Char) : Prop := lowerChar c = [c]

instance : Decidable (IsLowered c) := inferInstanceAs (Decidable (_ = _))

theorem lowerChar_wide (wide : 128 ≤ c.toNat) (undotted : c ≠ 'İ') :
    IsLowered c ∨ ∃ r ∈ lowerRuns, IsIn r c.toNat ∧
      lowerChar c = [Char.ofNat (smallOf r c.toNat)] := by
  have other : c.toNat ≠ 0x130 := fun same => undotted (by rw [← Char.ofNat_toNat c, same])
  simp only [IsLowered, lowerChar, if_neg (Nat.not_lt.2 wide), if_neg other]
  split
  · next r found =>
    have capital := List.find?_some found
    simp only [Bool.and_eq_true, decide_eq_true_eq] at capital
    exact .inr ⟨r, List.mem_of_find?_eq_some found, ⟨capital.1.1, capital.1.2, capital.2⟩, rfl⟩
  · exact .inl rfl

theorem isLowered_of_no_run (none : ∀ r ∈ lowerRuns, ¬ IsIn r c.toNat) (undotted : c ≠ 'İ') :
    IsLowered c := by
  by_cases wide : 128 ≤ c.toNat
  · rcases lowerChar_wide wide undotted with lowered | ⟨r, member, capital, -⟩
    · exact lowered
    · exact absurd capital (none r member)
  · have ascii : ∀ k < 128, ¬ (0x41 ≤ k ∧ k ≤ 0x5a) → IsLowered (Char.ofNat k) := by decide
    have noCapital : ¬ (0x41 ≤ c.toNat ∧ c.toNat ≤ 0x5a) := fun capital =>
      none (0x41, 0x5a, 1, 32) (.head _) ⟨capital.1, capital.2, Nat.mod_one _⟩
    rw [← Char.ofNat_toNat c]
    exact ascii c.toNat (by omega) noCapital

theorem IsLowered.ne_sigma (lowered : IsLowered c) : c ≠ 'Σ' := by
  rintro rfl
  exact absurd lowered (by decide +kernel)

theorem lowerChar_of_undotted (undotted : c ≠ 'İ') :
    IsLowered c ∨ isAlphanumeric c ∧ ∃ d, lowerChar c = [d] ∧ isAlphanumeric d ∧ IsLowered d := by
  by_cases wide : 128 ≤ c.toNat
  · rcases lowerChar_wide wide undotted with lowered | ⟨r, member, capital, small⟩
    · exact .inl lowered
    · have code := toNat_smallOf member capital
      refine .inr ⟨isAlphanumeric_of_inRanges wide (inRanges_of_isIn member capital), _, small,
        isAlphanumeric_smallOf member capital, isLowered_of_no_run ?_ ?_⟩
      · intro q member'
        rw [code]
        exact not_isIn_smallOf member member' capital
      · intro dotted
        have valid := List.all_eq_true.1 runs_valid r member
        have bounds := smallOf_bounds member capital
        have dot : smallOf r c.toNat = 0x130 := by rw [← code, dotted]; rfl
        simp only [Bool.and_eq_true, Bool.or_eq_true, Nat.blt_eq] at valid
        omega
  · have ascii : ∀ k < 128, lowerChar (Char.ofNat k) = [Char.ofNat k] ∨
        isAlphanumeric (Char.ofNat k) ∧ isAlphanumeric (Char.ofNat k).toLower ∧
          lowerChar (Char.ofNat k) = [(Char.ofNat k).toLower] ∧
          lowerChar (Char.ofNat k).toLower = [(Char.ofNat k).toLower] := by decide
    have small := ascii c.toNat (by omega)
    rw [Char.ofNat_toNat] at small
    rcases small with lowered | ⟨letter, letter', small, lowered⟩
    · exact .inl lowered
    · exact .inr ⟨letter, _, small, letter', lowered⟩

end characters

section texts

variable {before before' after after' cs w : List Char} {c d : Char}

-- A capital sigma between these ends a word; `before` is given nearest first.
def isFinal (before rest : List Char) : Bool := casedNext before && !casedNext rest

def lowerAt (before : List Char) (c : Char) (rest : List Char) : List Char :=
  if c = 'Σ' then if isFinal before rest then ['ς'] else ['σ'] else lowerChar c

theorem lowerFrom_cons :
    lowerFrom before (c :: cs) = lowerAt before c cs ++ lowerFrom (c :: before) cs := rfl

theorem isLowered_of_mem_lowerAt (member : d ∈ lowerAt before c cs) : IsLowered d := by
  by_cases sigma : c = 'Σ'
  · have smalls : IsLowered 'ς' ∧ IsLowered 'σ' := by decide +kernel
    rw [lowerAt, if_pos sigma] at member
    split at member
    · exact List.mem_singleton.1 member ▸ smalls.1
    · exact List.mem_singleton.1 member ▸ smalls.2
  rw [lowerAt, if_neg sigma] at member
  by_cases dotted : c = 'İ'
  · have both : (lowerChar 'İ').all (IsLowered ·) = true := by decide +kernel
    exact of_decide_eq_true (List.all_eq_true.1 both d (dotted ▸ member))
  · rcases lowerChar_of_undotted dotted with lowered | ⟨-, e, small, -, lowered⟩
    · rw [lowered, List.mem_singleton] at member
      exact member ▸ lowered
    · rw [small, List.mem_singleton] at member
      exact member ▸ lowered

theorem lowerAt_of_undotted (undotted : c ≠ 'İ') (before cs : List Char) :
    ∃ d, lowerAt before c cs = [d] ∧ isAlphanumeric d = isAlphanumeric c := by
  by_cases sigma : c = 'Σ'
  · have letters : isAlphanumeric 'Σ' ∧ isAlphanumeric 'ς' ∧ isAlphanumeric 'σ' := by
      decide +kernel
    rw [lowerAt, if_pos sigma, sigma, letters.1]
    split
    · exact ⟨_, rfl, letters.2.1⟩
    · exact ⟨_, rfl, letters.2.2⟩
  rw [lowerAt, if_neg sigma]
  rcases lowerChar_of_undotted undotted with lowered | ⟨letter, d, small, letter', -⟩
  · exact ⟨c, lowered, rfl⟩
  · exact ⟨d, small, letter'.trans letter.symm⟩

theorem lowerAt_of_not_alphanumeric (separator : isAlphanumeric c = false) :
    lowerAt before c cs = [c] := by
  have letters : isAlphanumeric 'Σ' ∧ isAlphanumeric 'İ' := by decide +kernel
  have undotted : c ≠ 'İ' := by
    rintro rfl
    rw [letters.2] at separator
    cases separator
  have other : c ≠ 'Σ' := by
    rintro rfl
    rw [letters.1] at separator
    cases separator
  rw [lowerAt, if_neg other]
  rcases lowerChar_of_undotted undotted with lowered | ⟨letter, -⟩
  · exact lowered
  · rw [letter] at separator
    cases separator

def lowerBetween (before : List Char) : List Char → List Char → List Char
  | [], _ => []
  | c :: w, after => lowerAt before c (w ++ after) ++ lowerBetween (c :: before) w after

theorem lowerFrom_append :
    lowerFrom before (w ++ after) =
      lowerBetween before w after ++ lowerFrom (w.reverse ++ before) after := by
  induction w generalizing before with
  | nil => rfl
  | cons c w ih =>
    rw [List.cons_append, lowerFrom_cons, ih, lowerBetween, List.reverse_cons, List.append_assoc,
      List.append_assoc, List.singleton_append]

theorem lowerBetween_nil : lowerBetween before w [] = lowerFrom before w := by
  induction w generalizing before with
  | nil => rfl
  | cons c w ih => rw [lowerBetween, lowerFrom_cons, ih, List.append_nil]

theorem map_isAlphanumeric_lowerBetween (undotted : 'İ' ∉ w) :
    (lowerBetween before w after).map isAlphanumeric = w.map isAlphanumeric := by
  induction w generalizing before with
  | nil => rfl
  | cons c w ih =>
    rw [List.mem_cons, not_or] at undotted
    obtain ⟨d, here, same⟩ := lowerAt_of_undotted (Ne.symm undotted.1) before (w ++ after)
    rw [lowerBetween, here, List.singleton_append, List.map_cons, List.map_cons, same,
      ih undotted.2]

theorem map_isAlphanumeric_lowerFrom (undotted : 'İ' ∉ cs) :
    (lowerFrom before cs).map isAlphanumeric = cs.map isAlphanumeric := by
  rw [← lowerBetween_nil, map_isAlphanumeric_lowerBetween undotted]

theorem isLowered_of_mem_lowerFrom (member : d ∈ lowerFrom before cs) : IsLowered d := by
  induction cs generalizing before with
  | nil => cases member
  | cons c cs ih =>
    rw [lowerFrom_cons, List.mem_append] at member
    exact member.elim isLowered_of_mem_lowerAt ih

theorem lowerFrom_of_isLowered (lowered : ∀ c ∈ cs, IsLowered c) : lowerFrom before cs = cs := by
  induction cs generalizing before with
  | nil => rfl
  | cons c cs ih =>
    have first : IsLowered c := lowered c (.head _)
    rw [lowerFrom_cons, lowerAt, if_neg first.ne_sigma, first,
      ih fun d member => lowered d (.tail _ member), List.singleton_append]

theorem lowerBetween_eq_iff :
    lowerBetween before w after = lowerBetween before' w after' ↔
      ∀ past rest, w = past ++ 'Σ' :: rest →
        isFinal (past.reverse ++ before) (rest ++ after) =
          isFinal (past.reverse ++ before') (rest ++ after') := by
  induction w generalizing before before' with
  | nil => simp [lowerBetween]
  | cons c w ih =>
    have here : lowerAt before c (w ++ after) = lowerAt before' c (w ++ after') ↔
        (c = 'Σ' → isFinal before (w ++ after) = isFinal before' (w ++ after')) := by
      by_cases sigma : c = 'Σ'
      · simp only [lowerAt, if_pos sigma]
        cases isFinal before (w ++ after) <;> cases isFinal before' (w ++ after') <;>
          simp [sigma]
      · simp [lowerAt, sigma]
    have sizes : (lowerAt before c (w ++ after)).length =
        (lowerAt before' c (w ++ after')).length := by
      simp only [lowerAt]
      grind
    have apart : lowerBetween before (c :: w) after = lowerBetween before' (c :: w) after' ↔
        lowerAt before c (w ++ after) = lowerAt before' c (w ++ after') ∧
          lowerBetween (c :: before) w after = lowerBetween (c :: before') w after' :=
      ⟨fun same => List.append_inj same sizes, fun ⟨first, later⟩ => by
        rw [lowerBetween, lowerBetween, first, later]⟩
    rw [apart, here, ih]
    constructor
    · intro ⟨first, later⟩ past rest split
      cases past with
      | nil =>
        obtain ⟨rfl, rfl⟩ := List.cons.inj split
        exact first rfl
      | cons d past =>
        obtain ⟨rfl, rfl⟩ := List.cons.inj split
        simpa using later past rest rfl
    · intro alike
      refine ⟨fun sigma => alike [] w (by rw [sigma, List.nil_append]), fun past rest split => ?_⟩
      simpa using alike (c :: past) rest (by rw [split, List.cons_append])

end texts

def lowered (s : String) : String := String.ofList (lower s.toList)

end ViewQuery.Text
