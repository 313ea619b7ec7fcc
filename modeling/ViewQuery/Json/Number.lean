import ViewQuery.Json.Reading

set_option autoImplicit false

namespace ViewQuery.Json.Read

open Decimal (digits digitsValue double toFloat twoTo)

inductive Number where
  | int (n : Int)
  | float (x : Float)
  deriving DecidableEq

def Number.toJson : Number → Json
  | .int n => .int n
  | .float x => .float x

-- Appends digits while the value stays below `2 ^ 64`, and gives the digits left over.
-- Digits beyond 64 bits are cut off, so a long fraction can miss the nearest double by a little.
def extend (n : Nat) : List Char → Nat × List Char
  | [] => (n, [])
  | d :: ds =>
    let next := 10 * n + Decimal.digitValue d
    if next < twoTo 64 then extend next ds else (n, d :: ds)

def powerOfTen (e : Nat) : Float := toFloat (double.ofUnits false (double.scaled 1 e))

def isInfinite (x : Float) : Bool :=
  match Decimal.ofFloat x with
  | .infinite _ => true
  | _ => false

-- Three rounds bring any exponent within reach of the powers, or the value to zero.
def scaleBy : Nat → Float → Int → Option Float
  | 0, x, _ => some x
  | n + 1, x, e =>
    if e.natAbs ≤ 308 then
      if e < 0 then some (x / powerOfTen e.natAbs)
      else
        let y := x * powerOfTen e.natAbs
        if isInfinite y then none else some y
    else if x == 0 then some x
    else if 0 < e then none
    else scaleBy n (x / powerOfTen 308) (e + 308)

def floatOf? (negative : Bool) (significand : Nat) (e : Int) : Option Float :=
  (scaleBy 4 (toFloat (double.ofNat significand)) e).map fun x => if negative then -x else x

def float (negative : Bool) (significand : Nat) (e : Int) (rest : List Char) : Reading Number :=
  match floatOf? negative significand e with
  | some x => .ok (.float x, rest)
  | none => .error (.after .numberOutOfRange rest)

def greatestExponent : Nat := twoTo 31 - 1

def overLimit (limit : Nat) (n : Nat) : List Char → Option (List Char)
  | [] => none
  | d :: ds =>
    let next := 10 * n + Decimal.digitValue d
    if next ≤ limit then overLimit limit next ds else some ds

def exponent (negative : Bool) (significand : Nat) (start : Int) (cs : List Char) :
    Reading Number :=
  let (down, cs) := match cs with
    | '+' :: r => (false, r)
    | '-' :: r => (true, r)
    | r => (false, r)
  let (ds, rest) := digits cs
  if ds.isEmpty then
    .error (if rest.isEmpty then .after .valueMissing rest else .upon .numberInvalid rest)
  else
    match overLimit greatestExponent 0 ds with
    | some unread =>
      if significand ≠ 0 ∧ !down then .error (.after .numberOutOfRange (unread ++ rest))
      else .ok (.float (if negative then -0.0 else 0.0), rest)
    | none =>
      let e : Int := digitsValue ds
      float negative significand (if down then start - e else start + e) rest

-- What follows the whole digits; `start` counts those that were dropped.
def fractional (negative : Bool) (significand : Nat) (start : Int) (cs : List Char) :
    Reading Number :=
  match cs with
  | '.' :: cs =>
    let (ds, rest) := digits cs
    let (significand, left) := extend significand ds
    let start := start - (ds.length - left.length)
    if ds.isEmpty then
      .error (if rest.isEmpty then .after .valueMissing rest else .upon .numberInvalid rest)
    else
      match rest with
      | c :: r =>
        if Decimal.exponentMark c then exponent negative significand start r
        else float negative significand start rest
      | [] => float negative significand start rest
  | c :: r =>
    if Decimal.exponentMark c then exponent negative significand start r
    else float negative significand start cs
  | [] => float negative significand start cs

def startsFraction : List Char → Bool
  | c :: _ => c = '.' || Decimal.exponentMark c
  | [] => false

-- Zero with a minus sign is a float.
def whole (negative : Bool) (n : Nat) : Number :=
  if negative then
    if n = 0 ∨ twoTo 63 < n then .float (-toFloat (double.ofNat n)) else .int (-n)
  else .int n

def unsigned (negative : Bool) (cs : List Char) : Reading Number :=
  match cs with
  | [] => .error (.after .valueMissing [])
  | '0' :: rest =>
    if (digits rest).1.isEmpty then
      if startsFraction rest then fractional negative 0 0 rest
      else .ok (whole negative 0, rest)
    else .error (.upon .numberInvalid rest)
  | _ =>
    let (ds, rest) := digits cs
    if ds.isEmpty then .error (.upon .numberInvalid cs)
    else
      let (n, left) := extend 0 ds
      if left.isEmpty && !startsFraction rest then .ok (whole negative n, rest)
      else fractional negative n left.length rest

def number (cs : List Char) : Reading Number :=
  match cs with
  | '-' :: rest => unsigned true rest
  | _ => unsigned false cs

def skipExponent (cs : List Char) : Reading Unit :=
  let cs := match cs with
    | '+' :: r => r
    | '-' :: r => r
    | r => r
  let (ds, rest) := digits cs
  if ds.isEmpty then .error (.upon .numberInvalid rest) else .ok ((), rest)

def skipFraction (cs : List Char) : Reading Unit :=
  match cs with
  | '.' :: cs =>
    let (ds, rest) := digits cs
    if ds.isEmpty then .error (.upon .numberInvalid rest)
    else
      match rest with
      | c :: r => if Decimal.exponentMark c then skipExponent r else .ok ((), rest)
      | [] => .ok ((), rest)
  | c :: r => if Decimal.exponentMark c then skipExponent r else .ok ((), cs)
  | [] => .ok ((), [])

def skipNumber (cs : List Char) : Reading Unit :=
  let cs := match cs with
    | '-' :: r => r
    | r => r
  match cs with
  | '0' :: rest =>
    if (digits rest).1.isEmpty then skipFraction rest else .error (.upon .numberInvalid rest)
  | _ =>
    let (ds, rest) := digits cs
    if ds.isEmpty then .error (.upon .numberInvalid cs) else skipFraction rest

end ViewQuery.Json.Read
