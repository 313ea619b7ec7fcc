/-!
Binary floating-point values as whole numbers of the smallest positive value of their format.

A finite magnitude is a natural number of units, so rounding and comparing are exact arithmetic on
naturals. `Format.nearest` rounds a quotient; `ofFloat` and `toFloat` move between the bits of a
`Float` and its sign and units.
-/

set_option autoImplicit false

namespace ViewQuery.Decimal

def twoTo (n : Nat) : Nat := Nat.pow 2 n

def tenTo (n : Nat) : Nat := Nat.pow 10 n

structure Format where
  precision : Nat
  -- one unit is `2 ^ -unitExponent`
  unitExponent : Nat
  -- finite magnitudes stay below `2 ^ limitExponent` units
  limitExponent : Nat
  deriving DecidableEq

def double : Format := ⟨53, 1074, 2098⟩
def single : Format := ⟨24, 149, 277⟩

inductive Binary where
  | nan
  | infinite (negative : Bool)
  | finite (negative : Bool) (units : Nat)
  deriving DecidableEq

def Binary.isFinite : Binary → Bool
  | .finite _ _ => true
  | _ => false

def roundHalfEven (num den : Nat) : Nat :=
  let whole := num / den
  let rest := num % den
  if 2 * rest < den then whole
  else if den < 2 * rest then whole + 1
  else whole + whole % 2

namespace Format

/-- The gap above a magnitude is `2 ^ gap` units. -/
def gap (f : Format) (units : Nat) : Nat :=
  units.log2 + 1 - f.precision

/-- The magnitude nearest to `num / den` units, a tie to the even significand. -/
def nearest (f : Format) (num den : Nat) : Nat :=
  let k := f.gap (num / den)
  roundHalfEven num (den * twoTo k) * twoTo k

def limit (f : Format) : Nat :=
  twoTo f.limitExponent

def ofUnits (f : Format) (negative : Bool) (units : Nat) : Binary :=
  if units < f.limit then .finite negative units else .infinite negative

def ofNat (f : Format) (n : Nat) : Binary :=
  f.ofUnits false (f.nearest (n * twoTo f.unitExponent) 1)

def ofInt (f : Format) (n : Int) : Binary :=
  f.ofUnits (n < 0) (f.nearest (n.natAbs * twoTo f.unitExponent) 1)

def convert (f g : Format) : Binary → Binary
  | .finite negative units =>
    g.ofUnits negative (g.nearest (units * twoTo g.unitExponent) (twoTo f.unitExponent))
  | other => other

end Format

-- The fields of a word are its sign, eleven bits of exponent and fifty-two of fraction.
def ofBits (bits : Nat) : Binary :=
  let negative : Bool := decide (twoTo 63 ≤ bits)
  let exponent := bits / twoTo 52 % twoTo 11
  let fraction := bits % twoTo 52
  if exponent = 2047 then
    if fraction = 0 then .infinite negative else .nan
  else if exponent = 0 then .finite negative fraction
  else .finite negative ((twoTo 52 + fraction) * twoTo (exponent - 1))

def magnitudeBits (units : Nat) : Nat :=
  let k := double.gap units
  k * twoTo 52 + units / twoTo k

def toBits : Binary → Nat
  | .nan => 0x7ff8000000000000
  | .infinite negative => negative.toNat * twoTo 63 + 2047 * twoTo 52
  | .finite negative units => negative.toNat * twoTo 63 + magnitudeBits units

def ofFloat (x : Float) : Binary :=
  ofBits x.toBits.toNat

def toFloat (x : Binary) : Float :=
  Float.ofBits (UInt64.ofNat (toBits x))

end ViewQuery.Decimal
