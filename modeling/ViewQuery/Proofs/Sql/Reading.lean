import ViewQuery.Proofs.Sql.Identities

set_option autoImplicit false

namespace ViewQuery.Sql

abbrev Reader (α : Type) := StateT (List Token) Option α

namespace Reader

variable {α : Type}

def accept (t : Token) : Reader Bool
  | [] => some (false, [])
  | t' :: ts => if t' = t then some (true, ts) else some (false, t' :: ts)

def expect (t : Token) : Reader Unit
  | [] => none
  | t' :: ts => if t' = t then some ((), ts) else none

def name : Reader String
  | .name s :: ts => some (s, ts)
  | _ => none

def count : Reader Nat
  | .count n :: ts => some (n, ts)
  | _ => none

def separated (separator : Token) (part : Reader α) : Nat → Reader (List α)
  | 0 => fun _ => none
  | n + 1 => do
    let a ← part
    if ← accept separator then
      let as ← separated separator part n
      return a :: as
    else return [a]

def listed (part : Reader α) : Reader (List α) := fun ts => separated .comma part ts.length ts

section expressions

variable (fuel : Nat) (inner : Reader Expr)

def operand : Reader Expr
  | .word .NULL :: ts => some (.null, ts)
  | .literal l :: ts => some (.literal l, ts)
  | .name t :: .dot :: .name c :: ts => some (.column ⟨some t, c⟩, ts)
  | .name c :: ts => some (.column ⟨none, c⟩, ts)
  | .opening :: ts =>
    match inner ts with
    | some (e, .closing :: ts) => some (e, ts)
    | _ => none
  | _ => none

def items : Reader (List Expr)
  | .closing :: ts => some ([], ts)
  | ts =>
    match separated .comma inner fuel ts with
    | some (es, .closing :: ts) => some (es, ts)
    | _ => none

def predicateOf (e : Expr) : Reader Expr
  | .comparison op :: ts => (Expr.compare op e <$> operand inner) ts
  | .word .LIKE :: ts => ((Expr.like e · false) <$> operand inner) ts
  | .word .ILIKE :: ts => ((Expr.like e · true) <$> operand inner) ts
  | .word .IN :: .opening :: ts => (Expr.inList e <$> items fuel inner) ts
  | .word .IS :: .word .NULL :: ts => some (.isNull e, ts)
  | ts => some (e, ts)

def predicate : Reader Expr := operand inner >>= predicateOf fuel inner

def negation : Reader Expr
  | .word .NOT :: ts => (negation ts).map fun r => (.not r.1, r.2)
  | ts => predicate fuel inner ts

def conjunction : Reader Expr :=
  Expr.conjunction <$> separated (.word .AND) (negation fuel inner) fuel

def disjunction : Reader Expr :=
  Expr.disjunction <$> separated (.word .OR) (conjunction fuel inner) fuel

def level : Binding → Reader Expr
  | .or => disjunction fuel inner
  | .and => conjunction fuel inner
  | .not => negation fuel inner
  | .predicate => predicate fuel inner
  | .atom => operand inner

end expressions

def bounded : Nat → Reader Expr
  | 0 => fun _ => none
  | n + 1 => level n (bounded n) .or

def expression : Reader Expr := fun ts => bounded (ts.length + 1) ts

def projection : Reader Projection := do
  let e ← expression
  if ← accept (.word .AS) then
    let a ← name
    return ⟨e, some a⟩
  else return ⟨e, none⟩

def projections : Reader (List Projection) := do
  if ← accept .star then return [] else listed projection

def sortKey : Reader SortKey := do
  let e ← expression
  let descending ← accept (.word .DESC)
  return ⟨e, descending⟩

def sortKeys : Reader (List SortKey) := do
  expect (.word .BY)
  listed sortKey

def clause (w : Word) (r : Reader α) : Reader (Option α) := do
  if ← accept (.word w) then some <$> r else return none

def source (query : Reader Select) : Reader Source
  | .name s :: ts => some (.table s, ts)
  | .opening :: ts =>
    match query ts with
    | some (q, .closing :: .word .AS :: .name label :: ts) => some (.subquery q label, ts)
    | _ => none
  | _ => none

def conditions : Expr → List Expr
  | .and items => items
  | e => [e]

def query : Nat → Reader Select
  | 0 => fun _ => none
  | n + 1 => do
    expect (.word .SELECT)
    let distinct ← accept (.word .DISTINCT)
    let projections ← projections
    let source ← clause .FROM (source (query n))
    let condition ← clause .WHERE expression
    let keys ← clause .ORDER sortKeys
    let limit ← clause .LIMIT count
    let offset ← clause .OFFSET count
    return ⟨distinct, projections, source, condition.elim [] conditions, keys.getD [], limit,
      offset⟩

def all (r : Reader α) (ts : List Token) : Option α :=
  match r ts with
  | some (a, []) => some a
  | _ => none

end Reader

def Expr.read (ts : List Token) : Option Expr := Reader.expression.all ts

def Select.read (ts : List Token) : Option Select := (Reader.query ts.length).all ts

end ViewQuery.Sql
