import ViewQuery.Call
import ViewQuery.Json.Kept
import ViewQuery.Json.Record
import ViewQuery.Json.Value

set_option autoImplicit false

namespace ViewQuery

open Json Json.Read

namespace Literal

def ofJson? : Json → Option Literal
  | .bool b => some (.bool b)
  | .int n =>
    if Int64.minValue.toInt ≤ n ∧ n ≤ Int64.maxValue.toInt then some (.int (Int64.ofInt n))
    else some (.float (Decimal.toFloat (Decimal.double.ofInt n)))
  | .float x => some (.float x)
  | .str s => some (.str s)
  | _ => none

def kept : Kept Literal := fun j =>
  match ofJson? j with
  | some l => .ok l
  | none => .error (.noVariant "Value")

def reader : Reader Literal := fun depth cs =>
  match value depth cs with
  | .error e => .error e
  | .ok (j, rest) =>
    match kept j with
    | .ok l => .ok (l, rest)
    | .error m => .error (.unplaced m rest)

end Literal

namespace Call

def shape {R : Type → Type} [Functor R] (name : R String) (args : R (List Literal)) :
    Shape R Call where
  name := "Call"
  fields :=
    [ .of "name" name fun c x => { c with name := x },
      .of "args" args fun c x => { c with args := x } ]
  default := ⟨"", []⟩

def reader : Reader Call := record (shape string (list Literal.reader))

def kept : Kept Call := Kept.record (shape Kept.string (Kept.list Literal.kept))

end Call

namespace Expression

-- What is known of an expression after some of its fields.
inductive Partial where
  | nothing
  | typed (role : Role)
  | kept (calls : Json)
  | complete (e : Expression)

def typeReader : Reader Role := fun depth cs =>
  (variant ["Conjunction", "Sequence"] depth cs).map fun r =>
    ((ofTypeName? r.1).getD .filter, r.2)

def withType (p : Partial) : Reader Partial := fun depth cs =>
  match typeReader depth cs with
  | .error e => .error e
  | .ok (role, rest) =>
    match p with
    | .kept j =>
      match Kept.list Call.kept j with
      | .ok calls => .ok (.complete ⟨role, calls⟩, rest)
      | .error m => .error (.unplaced m rest)
    | _ => .ok (.typed role, rest)

def withCalls (p : Partial) : Reader Partial := fun depth cs =>
  match p with
  | .typed role => (list Call.reader depth cs).map fun r => (.complete ⟨role, r.1⟩, r.2)
  | _ => (value depth cs).map fun r => (.kept r.1, r.2)

def typeField : Field Reader Partial := ⟨"type", true, withType⟩

def callsField : Field Reader Partial := ⟨"calls", true, withCalls⟩

def shape : Shape Reader Partial where
  name := "ParsedExpression"
  tagged := true
  fields := [typeField, callsField]
  default := .nothing

def reader : Reader Expression := fun depth cs =>
  match record shape depth cs with
  | .error e => .error e
  | .ok (.complete e, rest) => .ok (e, rest)
  | .ok (_, rest) => .error (.mismatch (.fieldMissing "type") rest)

end Expression

end ViewQuery
