import ViewQuery.Decimal.Layout
import ViewQuery.Text.Quoted
import ViewQuery.Yaml.Scalar

set_option autoImplicit false

namespace ViewQuery.Yaml

open Decimal (Binary)

def isNull (s : String) : Bool := s ∈ ["", "null", "Null", "NULL", "~"]

def bool? (s : String) : Option Bool :=
  if s ∈ ["true", "True", "TRUE"] then some true
  else if s ∈ ["false", "False", "FALSE"] then some false
  else none

def digit? (base : Nat) (c : Char) : Option Nat := (hexDigit? c).filter (· < base)

def digitsIn? (base : Nat) (cs : List Char) : Option Nat :=
  if cs.isEmpty then none
  else cs.foldlM (fun n c => (digit? base c).map (base * n + ·)) 0

def hasNeedlessZero (cs : List Char) : Bool :=
  1 < cs.length && cs.head? = some '0' && cs.all Decimal.isDigit

def magnitude? : List Char → Option Nat
  | '0' :: 'x' :: cs => digitsIn? 16 cs
  | '0' :: 'o' :: cs => digitsIn? 8 cs
  | '0' :: 'b' :: cs => digitsIn? 2 cs
  | cs => if hasNeedlessZero cs then none else digitsIn? 10 cs

def withoutPlus : List Char → List Char
  | '+' :: cs => cs
  | cs => cs

def unsigned? (s : String) : Option Nat := magnitude? (withoutPlus s.toList)

def negated? (s : String) : Option Nat :=
  match s.toList with
  | '-' :: cs => magnitude? cs
  | _ => none

def startsSigned : List Char → Bool
  | '+' :: '+' :: _ => true
  | '+' :: '-' :: _ => true
  | _ => false

def float? (s : String) : Option Binary :=
  let unsigned := String.ofList (withoutPlus s.toList)
  if startsSigned s.toList then none
  else if unsigned ∈ [".inf", ".Inf", ".INF"] then some (.infinite false)
  else if s ∈ ["-.inf", "-.Inf", "-.INF"] then some (.infinite true)
  else if s ∈ [".nan", ".NaN", ".NAN"] then some .nan
  else (Decimal.ofText? Decimal.double unsigned.toList).filter Binary.isFinite

def shownFloat : Decimal.Layout where
  tie := .up
  leastScale := -400
  greatestScale := 400
  signedExponent := false
  nan := "NaN".toList
  infinity := "inf".toList
  minusInfinity := "-inf".toList

open Text (ticked)

def shownInt (n : Int) : String := "integer " ++ ticked (toString n)

def shownString (s : String) : String := "string " ++ Text.quoted s

def shownWhole? (s : String) : Option String :=
  match unsigned? s, negated? s with
  | some n, _ =>
    if n < Decimal.twoTo 64 then some (shownInt n)
    else if n < Decimal.twoTo 128 then some (shownInt n ++ " as u128")
    else none
  | _, some n =>
    if n ≤ Decimal.twoTo 63 then some (shownInt (-n))
    else if n ≤ Decimal.twoTo 127 then some (shownInt (-n) ++ " as i128")
    else none
  | _, _ => none

def shownPlain (s : String) : String :=
  if isNull s then "unit value"
  else
    match bool? s, shownWhole? s, float? s with
    | some true, _, _ => "boolean " ++ ticked "true"
    | some false, _, _ => "boolean " ++ ticked "false"
    | none, some shown, _ => shown
    | none, none, some x =>
      if hasNeedlessZero (Decimal.sign s.toList).2 then shownString s
      else "floating point " ++ ticked (String.ofList (shownFloat.text Decimal.double x))
    | none, none, none => shownString s

end ViewQuery.Yaml
