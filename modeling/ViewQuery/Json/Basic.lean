import ViewQuery.Decimal.Layout

set_option autoImplicit false

namespace ViewQuery

inductive Json where
  | null
  | bool (b : Bool)
  | int (n : Int)
  | float (x : Float)
  | str (s : String)
  | arr (items : List Json)
  | obj (fields : List (String × Json))

namespace Json

open Decimal

-- Positional from `1e-5` up to below `1e16`; an exponent carries its sign.
def numberLayout : Layout where
  tie := .even
  leastScale := -4
  greatestScale := 16
  signedExponent := true
  nan := "null".toList
  infinity := "null".toList
  minusInfinity := "null".toList

def floatText (x : Float) : List Char := numberLayout.text double (ofFloat x)

def hexDigit (n : Nat) : Char := Nat.digitChar (n % 16)

def escapeChar (c : Char) : List Char :=
  if c = '"' then ['\\', '"']
  else if c = '\\' then ['\\', '\\']
  else if 32 ≤ c.toNat then [c]
  else if c = '\n' then ['\\', 'n']
  else if c = '\t' then ['\\', 't']
  else if c = '\r' then ['\\', 'r']
  else if c = '\x08' then ['\\', 'b']
  else if c = '\x0c' then ['\\', 'f']
  else ['\\', 'u', '0', '0', hexDigit (c.toNat / 16), hexDigit c.toNat]

def stringText (s : String) : List Char :=
  '"' :: s.toList.flatMap escapeChar ++ ['"']

def openBrace : Char := '\x7b'
def closeBrace : Char := '\x7d'

mutual

def chars : Json → List Char
  | .null => "null".toList
  | .bool true => "true".toList
  | .bool false => "false".toList
  | .int n => intText n
  | .float x => floatText x
  | .str s => stringText s
  | .arr items => '[' :: itemsChars items ++ [']']
  | .obj fields => openBrace :: fieldsChars fields ++ [closeBrace]

def itemsChars : List Json → List Char
  | [] => []
  | [j] => j.chars
  | j :: rest => j.chars ++ ',' :: itemsChars rest

def fieldsChars : List (String × Json) → List Char
  | [] => []
  | [(k, j)] => stringText k ++ ':' :: j.chars
  | (k, j) :: rest => stringText k ++ ':' :: j.chars ++ ',' :: fieldsChars rest

end

def compact (j : Json) : String := String.ofList j.chars

def newline (depth : Nat) : List Char := '\n' :: List.replicate (2 * depth) ' '

mutual

def prettyChars (depth : Nat) : Json → List Char
  | .arr [] => ['[', ']']
  | .arr (j :: rest) =>
    '[' :: newline (depth + 1) ++ j.prettyChars (depth + 1) ++ prettyItems (depth + 1) rest
      ++ newline depth ++ [']']
  | .obj [] => [openBrace, closeBrace]
  | .obj ((k, j) :: rest) =>
    openBrace :: newline (depth + 1) ++ stringText k ++ ':' :: ' ' :: j.prettyChars (depth + 1)
      ++ prettyFields (depth + 1) rest ++ newline depth ++ [closeBrace]
  | .null => chars .null
  | .bool b => chars (.bool b)
  | .int n => chars (.int n)
  | .float x => chars (.float x)
  | .str s => chars (.str s)

def prettyItems (depth : Nat) : List Json → List Char
  | [] => []
  | j :: rest => ',' :: newline depth ++ j.prettyChars depth ++ prettyItems depth rest

def prettyFields (depth : Nat) : List (String × Json) → List Char
  | [] => []
  | (k, j) :: rest =>
    ',' :: newline depth ++ stringText k ++ ':' :: ' ' :: j.prettyChars depth
      ++ prettyFields depth rest

end

def pretty (j : Json) : String := String.ofList (j.prettyChars 0)

def optionalField {α : Type} (name : String) (encode : α → Json) (x : Option α) :
    List (String × Json) :=
  match x with
  | none => []
  | some a => [(name, encode a)]

end Json

end ViewQuery
