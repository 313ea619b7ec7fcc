import ViewQuery.Json.Basic

set_option autoImplicit false

namespace ViewQuery

open Decimal

inductive Literal where
  | bool (b : Bool)
  | int (n : Int64)
  | float (x : Float)
  | str (s : String)
  deriving DecidableEq

inductive ParamType where
  | int
  | float
  | str
  | bool
  deriving DecidableEq

def ParamType.name : ParamType → String
  | .int => "int"
  | .float => "float"
  | .str => "str"
  | .bool => "bool"

def ParamType.ofName? (s : String) : Option ParamType :=
  [ParamType.int, .float, .str, .bool].find? fun t => t.name = s

@[simp] theorem ParamType.ofName?_name (t : ParamType) : ofName? t.name = some t := by
  cases t <;> rfl

namespace Literal

def type : Literal → ParamType
  | .bool _ => .bool
  | .int _ => .int
  | .float _ => .float
  | .str _ => .str

def asStr? : Literal → Option String
  | .str s => some s
  | _ => none

def asInt? : Literal → Option Int64
  | .int n => some n
  | _ => none

def asBool? : Literal → Option Bool
  | .bool b => some b
  | _ => none

def widen (n : Int64) : Float := toFloat (double.ofInt n.toInt)

def asFloat? : Literal → Option Float
  | .float x => some x
  | .int n => some (widen n)
  | _ => none

-- Positional from `1e-4` up to below `1e16`, always with a fraction; an exponent has no plus.
def floatLayout : Layout where
  tie := .up
  leastScale := -3
  greatestScale := 16
  signedExponent := false
  nan := "NaN".toList
  infinity := "inf".toList
  minusInfinity := "-inf".toList

def floatText (x : Float) : List Char := floatLayout.text double (ofFloat x)

def escapeChar (c : Char) : List Char :=
  if c = '\'' then ['\\', '\'']
  else if c = '\\' then ['\\', '\\']
  else if c = '\n' then ['\\', 'n']
  else if c = '\t' then ['\\', 't']
  else if c = '\r' then ['\\', 'r']
  else [c]

def chars : Literal → List Char
  | .bool true => "True".toList
  | .bool false => "False".toList
  | .int n => intText n.toInt
  | .float x => floatText x
  | .str s => '\'' :: s.toList.flatMap escapeChar ++ ['\'']

def text (l : Literal) : String := String.ofList l.chars

def toJson : Literal → Json
  | .bool b => .bool b
  | .int n => .int n.toInt
  | .float x => .float x
  | .str s => .str s

def sameValue : Literal → Literal → Bool
  | .float x, .float y => x == y
  | a, b => a = b

end Literal

end ViewQuery
