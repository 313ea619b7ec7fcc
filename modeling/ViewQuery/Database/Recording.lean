import ViewQuery.Database
import ViewQuery.Json.Value

set_option autoImplicit false

namespace ViewQuery

open Decimal

namespace Json

def field? (name : String) : Json → Option Json
  | .obj fields => (fields.find? fun f => f.1 = name).map Prod.snd
  | _ => none

def items : Json → List Json
  | .arr xs => xs
  | _ => []

def asStr? : Json → Option String
  | .str s => some s
  | _ => none

end Json

namespace Recording

def textAt (name : String) (j : Json) : String := ((j.field? name).bind Json.asStr?).getD ""

def itemsAt (name : String) (j : Json) : List Json := ((j.field? name).map Json.items).getD []

def integer (cs : List Char) : Int :=
  let (negative, digits) := sign cs
  if negative then -digitsValue digits else digitsValue digits

def hexDigit (c : Char) : Nat :=
  if isDigit c then digitValue c else c.toLower.toNat - 'a'.toNat + 10

def octets : List Char → List UInt8
  | a :: b :: rest => UInt8.ofNat (16 * hexDigit a + hexDigit b) :: octets rest
  | _ => []

def integerTypes : List (String × IntegerType) :=
  [("tinyint", .tinyInt), ("smallint", .smallInt), ("int", .int), ("bigint", .bigInt),
    ("hugeint", .hugeInt), ("utinyint", .unsignedTinyInt), ("usmallint", .unsignedSmallInt),
    ("uint", .unsignedInt), ("ubigint", .unsignedBigInt), ("uhugeint", .unsignedHugeInt)]

def cell (j : Json) : Cell :=
  let type := textAt "t" j
  let v := textAt "v" j
  match integerTypes.find? fun t => t.1 = type with
  | some (_, t) => .integer t (integer v.toList)
  | none =>
    if type = "boolean" then
      .boolean (match j.field? "v" with
        | some (.bool b) => b
        | _ => false)
    else if type = "float" then .float ((ofText? single v.toList).getD .nan)
    else if type = "double" then .double ((ofText? double v.toList).getD .nan)
    else if type = "text" then .text v.toUTF8.toList
    else if type = "text_hex" then .text (octets v.toList)
    else if type = "blob_hex" then .blob (octets v.toList)
    else if type = "date" then .date
    else .null

def row (j : Json) : Fetch := .row (j.items.map cell)

-- The rows before a fault, and the fault if that many rows there are.
def withFault (rows : List Fetch) (j : Json) : List Fetch :=
  match j.field? "row_error" with
  | some fault =>
    match fault.field? "after" with
    | some (.int (.ofNat n)) =>
      if n ≤ rows.length then rows.take n ++ [.fault (textAt "message" fault)] else rows
    | _ => rows
  | none => rows

def answer (j : Json) : Recorded :=
  match j.field? "error", j.field? "query_error" with
  | some (.str message), _ => .refused message
  | _, some (.str message) => .failed message
  | _, _ =>
    .table ((itemsAt "columns" j).filterMap Json.asStr?) (withFault ((itemsAt "rows" j).map row) j)

def read (source : String) : List Recorded :=
  match Json.Read.text Json.Read.value source with
  | .ok j => j.items.map answer
  | .error _ => []

end Recording

end ViewQuery
