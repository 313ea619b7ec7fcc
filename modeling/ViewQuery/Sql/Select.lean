import ViewQuery.Sql.Expr

set_option autoImplicit false

namespace ViewQuery.Sql

open Decimal (natText)

structure Projection where
  expr : Expr
  label : Option String

structure SortKey where
  expr : Expr
  descending : Bool

mutual

inductive Source where
  -- a table goes by its own name; no call gives it another
  | table (name : String)
  | subquery (query : Select) (label : String)

structure Select where
  distinct : Bool
  -- none stands for all columns
  projections : List Projection
  source : Option Source
  predicates : List Expr
  sortKeys : List SortKey
  limit : Option Nat
  offset : Option Nat

end

namespace Select

def empty : Select := ⟨false, [], none, [], [], none, none⟩

mutual

def depth : Select → Nat
  | ⟨_, _, source, _, _, _, _⟩ =>
    match source with
    | some s => sourceDepth s
    | none => 0

def sourceDepth : Source → Nat
  | .table _ => 0
  | .subquery q _ => q.depth + 1

end

def isLimited (q : Select) : Bool := q.limit.isSome || q.offset.isSome

def fromTable (q : Select) (name : String) : Select := { q with source := some (.table name) }

def ofTable (name : String) : Select := empty.fromTable name

def column (q : Select) (e : Expr) : Select :=
  { q with projections := q.projections ++ [⟨e, none⟩] }

def columnAs (q : Select) (e : Expr) (label : String) : Select :=
  { q with projections := q.projections ++ [⟨e, some label⟩] }

def makeDistinct (q : Select) : Select := { q with distinct := true }

def labelFor (depth : Nat) : String := String.ofList ('q' :: natText depth)

-- What comes after a limit or an offset applies to the rows that these left.
def wrap (q : Select) : Select :=
  { empty with source := some (.subquery q (labelFor (q.depth + 1))) }

def settled (q : Select) : Select := if q.isLimited then q.wrap else q

def filterAll (q : Select) (predicates : List Expr) : Select :=
  if predicates.isEmpty then q
  else
    let q := q.settled
    { q with predicates := q.predicates ++ predicates }

def filter (q : Select) (predicate : Expr) : Select := q.filterAll [predicate]

def orderBy (q : Select) (e : Expr) (descending : Bool) : Select :=
  let q := q.settled
  { q with sortKeys := q.sortKeys ++ [⟨e, descending⟩] }

def limitTo (q : Select) (n : Nat) : Select :=
  { q with limit := some (match q.limit with
    | some m => min m n
    | none => n) }

def skip (q : Select) (n : Nat) : Select :=
  let q := q.settled
  { q with offset := some n }

def projectionChars (p : Projection) : List Char :=
  match p.label with
  | some a => p.expr.chars ++ " AS ".toList ++ nameChars a
  | none => p.expr.chars

def projectionsChars (ps : List Projection) : List Char :=
  if ps.isEmpty then ['*'] else joinWith [',', ' '] (ps.map projectionChars)

def whereChars (predicates : List Expr) : List Char :=
  if predicates.isEmpty then []
  else " WHERE ".toList ++ joinWith " AND ".toList (Expr.itemsChars .and predicates)

def sortKeyChars (k : SortKey) : List Char :=
  Expr.placed .and k.expr k.expr.chars ++ (if k.descending then " DESC".toList else [])

def orderChars (keys : List SortKey) : List Char :=
  if keys.isEmpty then [] else " ORDER BY ".toList ++ joinWith [',', ' '] (keys.map sortKeyChars)

def countChars (word : String) : Option Nat → List Char
  | some n => word.toList ++ natText n
  | none => []

mutual

def chars : Select → List Char
  | ⟨distinct, projections, source, predicates, sortKeys, limit, offset⟩ =>
    "SELECT ".toList ++ (if distinct then "DISTINCT ".toList else [])
      ++ projectionsChars projections
      ++ (match source with
        | some s => " FROM ".toList ++ sourceChars s
        | none => [])
      ++ whereChars predicates ++ orderChars sortKeys ++ countChars " LIMIT " limit
      ++ countChars " OFFSET " offset

def sourceChars : Source → List Char
  | .table name => nameChars name
  | .subquery q label => inBrackets q.chars ++ " AS ".toList ++ nameChars label

end

def text (q : Select) : String := String.ofList q.chars

end Select

end ViewQuery.Sql
