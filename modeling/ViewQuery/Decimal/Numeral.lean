import ViewQuery.Decimal.Binary

set_option autoImplicit false

namespace ViewQuery.Decimal

def isDigit (c : Char) : Bool := '0' ≤ c && c ≤ '9'

def digitValue (c : Char) : Nat := c.toNat - '0'.toNat

def digitsValue (cs : List Char) : Nat :=
  cs.foldl (fun n c => 10 * n + digitValue c) 0

def natText (n : Nat) : List Char := Nat.toDigits 10 n

def intText : Int → List Char
  | .ofNat n => natText n
  | .negSucc n => '-' :: natText (n + 1)

-- A magnitude this far outside the range of every format is settled without a large power.
def farDigits : Int := 1000

-- `significand * 10 ^ exponent` in units of the format, rounded once.
def Format.scaled (f : Format) (significand : Nat) (exponent : Int) : Nat :=
  let leading : Int := (natText significand).length + exponent
  if significand = 0 then 0
  else if farDigits < leading then f.limit
  else if leading < -farDigits then 0
  else
    f.nearest (significand * tenTo exponent.toNat * twoTo f.unitExponent) (tenTo (-exponent).toNat)

structure Numeral where
  negative : Bool
  significand : Nat
  exponent : Int
  deriving DecidableEq

def Numeral.round (f : Format) (n : Numeral) : Binary :=
  f.ofUnits n.negative (f.scaled n.significand n.exponent)

def digits (cs : List Char) : List Char × List Char :=
  (cs.takeWhile isDigit, cs.dropWhile isDigit)

def sign : List Char → Bool × List Char
  | '-' :: cs => (true, cs)
  | '+' :: cs => (false, cs)
  | cs => (false, cs)

def exponentMark (c : Char) : Bool := c = 'e' || c = 'E'

def exponent? : List Char → Option Int
  | [] => some 0
  | c :: cs =>
    let (negative, rest) := sign cs
    let value : Int := digitsValue rest
    if exponentMark c && rest.all isDigit && !rest.isEmpty then
      some (if negative then -value else value)
    else none

def unsigned? (negative : Bool) (cs : List Char) : Option Numeral :=
  let (whole, rest) := digits cs
  let (fraction, tail) :=
    match rest with
    | '.' :: r => digits r
    | r => ([], r)
  if whole.isEmpty && fraction.isEmpty then none
  else
    (exponent? tail).map fun e =>
      ⟨negative, digitsValue (whole ++ fraction), e - fraction.length⟩

def numeral? (cs : List Char) : Option Numeral :=
  let (negative, rest) := sign cs
  unsigned? negative rest

-- A numeral or, in any case of letters, `inf`, `infinity` or `nan`.
def ofText? (f : Format) (cs : List Char) : Option Binary :=
  match numeral? cs with
  | some n => some (n.round f)
  | none =>
    let (negative, rest) := sign cs
    let word := String.ofList (rest.map Char.toLower)
    if word = "inf" ∨ word = "infinity" then some (.infinite negative)
    else if word = "nan" then some .nan
    else none

def word64? (cs : List Char) : Option Nat :=
  let body := match cs with
    | '+' :: r => r
    | r => r
  let n := digitsValue body
  if body.all isDigit && !body.isEmpty && decide (n < twoTo 64) then some n else none

end ViewQuery.Decimal
