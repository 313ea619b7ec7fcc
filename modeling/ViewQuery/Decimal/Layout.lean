import ViewQuery.Decimal.Shortest

set_option autoImplicit false

namespace ViewQuery.Decimal

structure Layout where
  tie : Tie
  -- Positional when the number of digits before the point, or minus the zeros after it, is inside.
  leastScale : Int
  greatestScale : Int
  -- Whether an exponent that is not negative carries a plus sign.
  signedExponent : Bool
  nan : List Char
  infinity : List Char
  minusInfinity : List Char

def zeros (n : Nat) : List Char := List.replicate n '0'

def exponentText (l : Layout) (e : Int) : List Char :=
  if e < 0 then intText e
  else if l.signedExponent then '+' :: intText e
  else intText e

def positional (cs : List Char) (scale : Int) : List Char :=
  if scale ≤ 0 then '0' :: '.' :: (zeros (-scale).toNat ++ cs)
  else if (cs.length : Int) ≤ scale then cs ++ zeros (scale.toNat - cs.length) ++ ['.', '0']
  else cs.take scale.toNat ++ '.' :: cs.drop scale.toNat

def scientific (l : Layout) (cs : List Char) (scale : Int) : List Char :=
  let fraction := cs.drop 1
  cs.take 1 ++ (if fraction.isEmpty then [] else '.' :: fraction)
    ++ 'e' :: exponentText l (scale - 1)

def Layout.unsigned (l : Layout) (d : Digits) : List Char :=
  let cs := natText d.digits
  let scale : Int := cs.length + d.exponent
  if d.digits = 0 then ['0', '.', '0']
  else if l.leastScale ≤ scale ∧ scale ≤ l.greatestScale then positional cs scale
  else scientific l cs scale

def Layout.text (l : Layout) (f : Format) : Binary → List Char
  | .nan => l.nan
  | .infinite true => l.minusInfinity
  | .infinite false => l.infinity
  | .finite negative units =>
    let body := if units = 0 then l.unsigned ⟨0, 0⟩ else l.unsigned (f.shortest l.tie units)
    if negative then '-' :: body else body

end ViewQuery.Decimal
