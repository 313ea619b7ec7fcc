import ViewQuery.Call

set_option autoImplicit false

namespace ViewQuery.Grammar

open Decimal (digits digitsValue isDigit)

def isWordStart (c : Char) : Bool := c.isAlpha || c = '_'

def isWordChar (c : Char) : Bool := c.isAlphanum || c = '_'

theorem isWordChar_of_isWordStart {c : Char} (h : isWordStart c) : isWordChar c := by
  simp only [isWordStart, isWordChar, Char.isAlphanum, Bool.or_eq_true] at *
  exact h.imp Or.inl id

def startsWord : List Char → Bool
  | c :: _ => isWordChar c
  | [] => false

def isSpace (c : Char) : Bool := c = ' ' || c = '\t' || c = '\r'

def isLayout (c : Char) : Bool := isSpace c || c = '\n'

def skipSpace (cs : List Char) : List Char := cs.dropWhile isSpace

def skipLayout (cs : List Char) : List Char := cs.dropWhile isLayout

def word? : List Char → Option (List Char × List Char)
  | c :: cs =>
    if isWordStart c then some (c :: cs.takeWhile isWordChar, cs.dropWhile isWordChar) else none
  | [] => none

def keywords : List (List Char) :=
  ["and".toList, "or".toList, "not".toList, "True".toList, "False".toList]

def isKeyword (w : List Char) : Bool := keywords.any fun k => k = w

def name? (cs : List Char) : Option (List Char × List Char) :=
  match word? cs with
  | some (w, rest) => if isKeyword w then none else some (w, rest)
  | none => none

def keyword? (keyword : List Char) (cs : List Char) : Option (List Char) :=
  match word? cs with
  | some (w, rest) => if w = keyword then some rest else none
  | none => none

inductive Lexeme where
  | float (spelling : List Char)
  | int (spelling : List Char)
  | bool (b : Bool)
  | str (body : List Char)
  deriving DecidableEq

def minus : List Char → List Char × List Char
  | '-' :: cs => (['-'], cs)
  | cs => ([], cs)

def fraction? : List Char → Option (List Char × List Char)
  | '.' :: cs =>
    let (ds, rest) := digits cs
    if ds.isEmpty then none else some ('.' :: ds, rest)
  | _ => none

def exponentSign : List Char → List Char × List Char
  | '+' :: cs => (['+'], cs)
  | '-' :: cs => (['-'], cs)
  | cs => ([], cs)

def exponent? : List Char → Option (List Char × List Char)
  | c :: cs =>
    let (s, cs) := exponentSign cs
    let (ds, rest) := digits cs
    if Decimal.exponentMark c && !ds.isEmpty then some (c :: s ++ ds, rest) else none
  | [] => none

def floatTail? (cs : List Char) : Option (List Char × List Char) :=
  match fraction? cs with
  | some (f, rest) =>
    match exponent? rest with
    | some (e, rest) => some (f ++ e, rest)
    | none => some (f, rest)
  | none => exponent? cs

def float? (cs : List Char) : Option (Lexeme × List Char) :=
  let (m, cs) := minus cs
  let (ds, cs) := digits cs
  if ds.isEmpty then none
  else
    match floatTail? cs with
    | some (tail, rest) => if startsWord rest then none else some (.float (m ++ ds ++ tail), rest)
    | none => none

def wholeDigits (cs : List Char) : List Char × List Char :=
  match cs with
  | '0' :: _ => (cs.takeWhile (· = '0'), cs.dropWhile (· = '0'))
  | _ => digits cs

def startsPoint : List Char → Bool
  | '.' :: _ => true
  | _ => false

def int? (cs : List Char) : Option (Lexeme × List Char) :=
  let (m, cs) := minus cs
  let (ds, rest) := wholeDigits cs
  if ds.isEmpty || startsWord rest || startsPoint rest then none else some (.int (m ++ ds), rest)

def boolean? (cs : List Char) : Option (Lexeme × List Char) :=
  match keyword? "True".toList cs with
  | some rest => some (.bool true, rest)
  | none =>
    match keyword? "False".toList cs with
    | some rest => some (.bool false, rest)
    | none => none

def unescape? (c : Char) : Option Char :=
  if c = 'n' then some '\n'
  else if c = 't' then some '\t'
  else if c = 'r' then some '\r'
  else if c = '\\' ∨ c = '\'' ∨ c = '"' then some c
  else none

def body? (quote : Char) : List Char → Option (List Char × List Char)
  | [] => none
  | '\\' :: c :: cs =>
    match unescape? c with
    | some d => (body? quote cs).map fun r => (d :: r.1, r.2)
    | none => none
  | c :: cs =>
    if c = quote then some ([], cs)
    else if c = '\\' ∨ c = '\n' ∨ c = '\r' then none
    else (body? quote cs).map fun r => (c :: r.1, r.2)

def str? : List Char → Option (Lexeme × List Char)
  | c :: cs =>
    if c = '\'' ∨ c = '"' then (body? c cs).map fun r => (.str r.1, r.2) else none
  | [] => none

def literal? (cs : List Char) : Option (Lexeme × List Char) :=
  float? cs <|> int? cs <|> boolean? cs <|> str? cs

inductive LiteralFault where
  | tooLarge
  | tooSmall
  | notFinite
  deriving DecidableEq

def LiteralFault.reason : LiteralFault → String
  | .tooLarge => "number too large to fit in target type"
  | .tooSmall => "number too small to fit in target type"
  | .notFinite => "out of range"

structure InvalidLiteral where
  spelling : List Char
  fault : LiteralFault
  deriving DecidableEq

def InvalidLiteral.message (e : InvalidLiteral) : String :=
  "Invalid literal " ++ String.ofList e.spelling ++ ": " ++ e.fault.reason

def intValue (spelling : List Char) : Int :=
  match minus spelling with
  | ([], ds) => digitsValue ds
  | (_, ds) => -(digitsValue ds : Int)

def floatValue (spelling : List Char) : Decimal.Binary :=
  (Decimal.ofText? Decimal.double spelling).getD .nan

def Lexeme.value : Lexeme → Except InvalidLiteral Literal
  | .bool b => .ok (.bool b)
  | .str body => .ok (.str (String.ofList body))
  | .int spelling =>
    let n := intValue spelling
    if Int64.maxValue.toInt < n then .error ⟨spelling, .tooLarge⟩
    else if n < Int64.minValue.toInt then .error ⟨spelling, .tooSmall⟩
    else .ok (.int (Int64.ofInt n))
  | .float spelling =>
    let x := floatValue spelling
    if x.isFinite then .ok (.float (Decimal.toFloat x)) else .error ⟨spelling, .notFinite⟩

end ViewQuery.Grammar
