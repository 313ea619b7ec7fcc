import ViewQuery.Grammar.ReadError

set_option autoImplicit false

namespace ViewQuery

namespace Grammar

open Decimal (digitValue isDigit sign)

inductive Rule where
  | whole (role : Role)
  | call
  | name
  | args
  | literal
  | float
  | int
  | boolean
  | string
  | singleBody
  | doubleBody
  | conjunction
  | endOfText
  deriving DecidableEq

def Rule.label : Rule → String
  | .whole .filter => "filters"
  | .whole .action => "actions"
  | .call => "call"
  | .name => "ident"
  | .args => "args"
  | .literal => "literal"
  | .float => "float"
  | .int => "int"
  | .boolean => "boolean"
  | .string => "string"
  | .singleBody => "sq_inner"
  | .doubleBody => "dq_inner"
  | .conjunction => "kw_and"
  | .endOfText => "EOI"

structure Node where
  rule : Rule
  text : List Char
  inner : List Node

inductive TreeError where
  -- the tree is none that the grammar makes
  | malformed (what : String)
  | literal (spelling : List Char) (reason : String)
  deriving DecidableEq

namespace TreeError

def message : TreeError → String
  | .malformed what => "Syntax error: " ++ what
  | .literal spelling reason => "Invalid literal " ++ String.ofList spelling ++ ": " ++ reason

def ofInvalid (e : InvalidLiteral) : TreeError := .literal e.spelling e.fault.reason

end TreeError

-- The range is checked at each digit, before the next one is looked at.
def int64Digits (negative : Bool) (n : Int) : List Char → Except String Int64
  | [] => .ok (Int64.ofInt n)
  | c :: cs =>
    if isDigit c then
      let next := if negative then 10 * n - digitValue c else 10 * n + digitValue c
      if Int64.maxValue.toInt < next then .error LiteralFault.tooLarge.reason
      else if next < Int64.minValue.toInt then .error LiteralFault.tooSmall.reason
      else int64Digits negative next cs
    else .error "invalid digit found in string"

def int64 (cs : List Char) : Except String Int64 :=
  let (negative, ds) := sign cs
  if cs.isEmpty then .error "cannot parse integer from empty string"
  else if ds.isEmpty then .error "invalid digit found in string"
  else int64Digits negative 0 ds

def float64 (cs : List Char) : Except String Float :=
  if cs.isEmpty then .error "cannot parse float from empty string"
  else
    match Decimal.ofText? Decimal.double cs with
    | none => .error "invalid float literal"
    | some x => if x.isFinite then .ok (Decimal.toFloat x) else .error LiteralFault.notFinite.reason

section

-- What a backslash at the end of a body is decoded to.
variable (broken : List Char)

def unescape : List Char → List Char
  | [] => []
  | ['\\'] => broken
  | '\\' :: c :: cs => (unescape? c).getD c :: unescape cs
  | c :: cs => c :: unescape cs

def Node.literal (n : Node) : Except TreeError Literal :=
  match n.inner with
  | [] => .error (.malformed "Empty literal")
  | value :: _ =>
    match value.rule with
    | .int => ((int64 value.text).map .int).mapError (.literal value.text)
    | .float => ((float64 value.text).map .float).mapError (.literal value.text)
    | .boolean => .ok (.bool (value.text = "True".toList))
    | .string =>
      let body := match value.inner with
        | [] => []
        | body :: _ => body.text
      .ok (.str (String.ofList (unescape broken body)))
    | other => .error (.malformed ("Invalid literal: " ++ other.label))

def Node.call (n : Node) : Except TreeError Call :=
  match n.inner with
  | [] => .error (.malformed "Call without a name")
  | name :: rest =>
    match rest with
    | [] => .ok ⟨String.ofList name.text, []⟩
    | args :: _ =>
      (args.inner.mapM (Node.literal broken)).map fun values => ⟨String.ofList name.text, values⟩

def readTrees (role : Role) (trees : List Node) : Except TreeError Expression :=
  match trees with
  | [] => .error (.malformed "Empty input")
  | root :: _ =>
    ((root.inner.filter fun n => n.rule = .call).mapM (Node.call broken)).map fun calls =>
      ⟨role, calls⟩

end

end Grammar

-- The expression of the first tree. A backslash at the end of a body stands for itself.
def Expression.ofTrees (role : Role) (trees : List Grammar.Node) :
    Except Grammar.TreeError Expression :=
  Grammar.readTrees ['\\'] role trees

end ViewQuery
