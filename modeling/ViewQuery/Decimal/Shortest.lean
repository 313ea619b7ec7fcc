import ViewQuery.Decimal.Numeral

set_option autoImplicit false

namespace ViewQuery.Decimal

structure Digits where
  digits : Nat
  exponent : Int
  deriving DecidableEq

inductive Tie where
  | up
  | even
  deriving DecidableEq

namespace Format

def compareQuarters (f : Format) (d : Digits) (quarters : Nat) : Ordering :=
  compare (d.digits * tenTo d.exponent.toNat * twoTo (f.unitExponent + 2))
    (quarters * tenTo (-d.exponent).toNat)

-- Just above a power of two the gap below is half the gap above.
def narrowBelow (f : Format) (units : Nat) : Bool :=
  f.gap units ≠ 0 && units = twoTo units.log2

def leastQuarters (f : Format) (units : Nat) : Nat :=
  4 * units - (if f.narrowBelow units then 1 else 2) * twoTo (f.gap units)

def greatestQuarters (f : Format) (units : Nat) : Nat :=
  4 * units + 2 * twoTo (f.gap units)

/-- The decimal lies among the reals that round to the magnitude, whose ends belong to it when its
significand is even. -/
def readsBack (f : Format) (units : Nat) (d : Digits) : Bool :=
  let even := units / twoTo (f.gap units) % 2 = 0
  let low := f.compareQuarters d (f.leastQuarters units)
  let high := f.compareQuarters d (f.greatestQuarters units)
  (low = .gt || even && low = .eq) && (high = .lt || even && high = .eq)

def gridFloor (f : Format) (units : Nat) (exponent : Int) : Nat :=
  units * tenTo (-exponent).toNat / (twoTo f.unitExponent * tenTo exponent.toNat)

-- The first estimate is at most one too small.
-- The number of digits before the point, or minus the zeros after it.
def scale (f : Format) (units : Nat) : Int :=
  let binary : Int := (units.log2 : Int) - f.unitExponent
  let estimate := binary * 30103 / 100000
  if f.gridFloor units (estimate + 1) ≠ 0 then estimate + 2
  else if f.gridFloor units estimate ≠ 0 then estimate + 1
  else estimate

def choose (f : Format) (tie : Tie) (units : Nat) (exponent : Int) : Option Digits :=
  let low : Digits := ⟨f.gridFloor units exponent, exponent⟩
  let high : Digits := ⟨low.digits + 1, exponent⟩
  match f.readsBack units low, f.readsBack units high with
  | true, true =>
    -- Twice the magnitude against the sum of the two neighbours.
    match f.compareQuarters ⟨2 * low.digits + 1, exponent⟩ (8 * units) with
    | .gt => some low
    | .lt => some high
    | .eq => some (if tie = .up ∨ low.digits % 2 = 1 then high else low)
  | true, false => some low
  | false, true => some high
  | false, false => none

end Format

def Digits.strip : Nat → Digits → Digits
  | 0, d => d
  | n + 1, d =>
    if d.digits ≠ 0 ∧ d.digits % 10 = 0 then strip n ⟨d.digits / 10, d.exponent + 1⟩ else d

-- Seventeen digits always suffice; the exact value stands in for an empty search.
-- On each grid only the two neighbours of the magnitude can read back if any point does.
def Format.shortest (f : Format) (tie : Tie) (units : Nat) : Digits :=
  let k := f.scale units
  let found := (List.range 17).findSome? fun (n : Nat) => f.choose tie units (k - 1 - n)
  match found with
  | some d => d.strip 20
  | none => ⟨units * Nat.pow 5 f.unitExponent, -f.unitExponent⟩

end ViewQuery.Decimal
