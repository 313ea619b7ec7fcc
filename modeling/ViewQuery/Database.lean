import ViewQuery.Catalog
import ViewQuery.Database.Cell
import ViewQuery.Sql.Select

set_option autoImplicit false

namespace ViewQuery

inductive Fetch where
  | row (cells : List Cell)
  | fault (message : String)
  deriving DecidableEq

inductive Recorded where
  | refused (message : String)
  | failed (message : String)
  | table (columns : List String) (fetches : List Fetch)
  deriving DecidableEq

-- Recorded answers are given one after the other, whatever is asked.
structure Database where
  -- the next answer first
  recorded : List Recorded
  -- why settings cannot be changed, if so
  settingFault : Option String
  -- latest first
  received : List String
  deriving DecidableEq

inductive ExecutionError where
  | database (message : String)
  | tooManyRows (limit : Nat)
  deriving DecidableEq

def ExecutionError.message : ExecutionError → String
  | .database message => "Database error: " ++ message
  | .tooManyRows limit => "Budget exceeded: Max rows (" ++ toString limit ++ ") exceeded"

structure Budget where
  rows : Option Nat
  megabytes : Option Nat
  deriving DecidableEq

def Budget.unlimited : Budget := ⟨none, none⟩

abbrev Row := List Cell

structure Table where
  columns : List String
  rows : List Row
  deriving DecidableEq

def Table.toJson (t : Table) : Json :=
  .obj [("columns", .arr (t.columns.map Json.str)),
    ("rows", .arr (t.rows.map fun r => .arr (r.map Cell.toJson))),
    ("row_count", .int t.rows.length)]

namespace Database

def ofRecorded (recorded : List Recorded) : Database := ⟨recorded, none, []⟩

def statements (d : Database) : List String := d.received.reverse

def receive (d : Database) (sql : String) : Database := { d with received := sql :: d.received }

def exhausted : Recorded := .refused "no scripted result"

def ask (d : Database) (sql : String) : Recorded × Database :=
  match d.recorded with
  | [] => (exhausted, d.receive sql)
  | answer :: rest => (answer, { d.receive sql with recorded := rest })

def memoryStatement (megabytes : Nat) : String :=
  "SET memory_limit = '" ++ toString megabytes ++ "MB'"

def limitMemory (d : Database) : Option Nat → Except ExecutionError Unit × Database
  | none => (.ok (), d)
  | some megabytes =>
    let result := match d.settingFault with
      | some message => .error (.database message)
      | none => .ok ()
    (result, d.receive (memoryStatement megabytes))

def readRow (columns : Nat) (cells : List Cell) : Except ExecutionError Row :=
  if cells.length < columns then
    .error (.database ("Invalid column index: " ++ toString cells.length))
  else .ok (cells.take columns)

-- Reads rows, given the number of rows so far. What was not read is given back.
def readRows (columns : Nat) (limit : Option Nat) (sofar : Nat) :
    List Fetch → Except ExecutionError (List Row) × List Fetch
  | [] => (.ok [], [])
  | .fault message :: rest => (.error (.database message), rest)
  | .row cells :: rest =>
    match limit.filter (· ≤ sofar) with
    | some n => (.error (.tooManyRows n), rest)
    | none =>
      match readRow columns cells with
      | .error e => (.error e, rest)
      | .ok row =>
        let (result, unread) := readRows columns limit (sofar + 1) rest
        (result.map (row :: ·), unread)

def execute (d : Database) (sql : String) (budget : Budget) :
    Except ExecutionError Table × Database :=
  match d.limitMemory budget.megabytes with
  | (.error e, d) => (.error e, d)
  | (.ok _, d) =>
    match d.ask sql with
    | (.refused message, d) => (.error (.database message), d)
    | (.failed message, d) => (.error (.database message), d)
    | (.table columns fetches, d) =>
      ((readRows columns.length budget.rows 0 fetches).1.map fun rows => ⟨columns, rows⟩, d)

def firstText (columns : List String) (cells : List Cell) : Except ExecutionError String :=
  match columns, cells with
  | column :: _, cell :: _ => (cell.toText 0 column).mapError .database
  | _, _ => .error (.database "Invalid column index: 0")

def firstTexts (columns : List String) : List Fetch → Except ExecutionError (List String)
  | [] => .ok []
  | .fault message :: _ => .error (.database message)
  | .row cells :: rest =>
    match firstText columns cells with
    | .error e => .error e
    | .ok s => (firstTexts columns rest).map (s :: ·)

def valuesQuery (table column : String) : Sql.Select :=
  let c := Sql.Expr.ofName column
  (((Sql.Select.ofTable table).makeDistinct.column c).filter (.not (.isNull c))).orderBy c false

def values (d : Database) (table column : String) :
    Except ExecutionError (List String) × Database :=
  match d.ask (valuesQuery table column).text with
  | (.refused message, d) => (.error (.database message), d)
  | (.failed message, d) => (.error (.database message), d)
  | (.table columns fetches, d) => (firstTexts columns fetches, d)

def catalog (d : Database) (table column : String) : Except ExecutionError Catalog × Database :=
  let (values, d) := d.values table column
  (values.map Catalog.ofList, d)

end Database

end ViewQuery
