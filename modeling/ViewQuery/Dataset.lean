import ViewQuery.Json.Record
import ViewQuery.Text.Blank
import ViewQuery.Text.Octets

set_option autoImplicit false

namespace ViewQuery

open Json.Read

structure Example where
  question : Option String
  view : Option String
  filters : String
  actions : String
  groundTruth : Option String
  deriving DecidableEq

namespace Example

def blank : Example := ⟨none, none, "", "", none⟩

def toJson (e : Example) : Json :=
  .obj (Json.optionalField "question" .str e.question ++ Json.optionalField "view" .str e.view
    ++ [("iql_filters", .str e.filters), ("iql_actions", .str e.actions)]
    ++ Json.optionalField "ground_truth" .str e.groundTruth)

def shape : Shape Reader Example where
  name := "EvaluationRecord"
  fields :=
    [ (Field.of "question" (optional string) fun e x => { e with question := x }).orDefault,
      (Field.of "view" (optional string) fun e x => { e with view := x }).orDefault,
      (Field.of "iql_filters" string fun e x => { e with filters := x }).orDefault,
      (Field.of "iql_actions" string fun e x => { e with actions := x }).orDefault,
      (Field.of "ground_truth" (optional string) fun e x => { e with groundTruth := x }).orDefault ]
  default := blank

end Example

inductive DatasetError where
  | notUtf8
  | invalidRecord (line : Nat) (e : Json.Error)
  deriving DecidableEq

namespace Dataset

def lineFeed : UInt8 := 10
def carriageReturn : UInt8 := 13

def withoutReturn (line : List UInt8) : List UInt8 :=
  if line.getLast? = some carriageReturn then line.dropLast else line

-- The lines after a line of which some octets were read, latest first.
def linesFrom (current : List UInt8) : List UInt8 → List (List UInt8)
  | [] => if current.isEmpty then [] else [current.reverse]
  | b :: bs =>
    if b = lineFeed then withoutReturn current.reverse :: linesFrom [] bs
    else linesFrom (b :: current) bs

def lines (bs : List UInt8) : List (List UInt8) := linesFrom [] bs

def record? (number : Nat) (line : List UInt8) : Except DatasetError (Option Example) :=
  match Text.decode? line with
  | none => .error .notUtf8
  | some cs =>
    if cs.all Text.isBlank then .ok none
    else
      match whole? (record Example.shape) cs with
      | .ok e => .ok (some e)
      | .error e => .error (.invalidRecord number e)

def records (number : Nat) : List (List UInt8) → Except DatasetError (List Example)
  | [] => .ok []
  | line :: rest =>
    match record? number line with
    | .error e => .error e
    | .ok found => (records (number + 1) rest).map (found.toList ++ ·)

def read (bs : List UInt8) : Except DatasetError (List Example) := records 1 (lines bs)

def line (e : Example) : String := e.toJson.compact ++ "\n"

def text (es : List Example) : String := String.join (es.map line)

end Dataset

end ViewQuery
