import ViewQuery.QueryError
import ViewQuery.View
import ViewQuery.Text.Digest

set_option autoImplicit false

namespace ViewQuery

structure CheckedCall where
  operation : Operation
  args : List Literal
  deriving DecidableEq

namespace CheckedCall

def name (c : CheckedCall) : String := c.operation.name

def call (c : CheckedCall) : Call := ⟨c.name, c.args⟩

def text (c : CheckedCall) : String := c.call.text

end CheckedCall

structure CheckedQuery where
  filters : List CheckedCall
  actions : List CheckedCall
  deriving DecidableEq

namespace CheckedQuery

def empty : CheckedQuery := ⟨[], []⟩

def toJson (q : CheckedQuery) : Json :=
  .obj [("filters", .arr (q.filters.map fun c => c.call.toJson)),
    ("actions", .arr (q.actions.map fun c => c.call.toJson))]

def fingerprint (q : CheckedQuery) : String :=
  Text.Digest.sha256 q.toJson.compact.toUTF8.toList

end CheckedQuery

inductive Stop (ε : Type) where
  | error (e : ε)
  | crash
  deriving DecidableEq

structure Validator where
  -- the latest registration of a name comes first
  resolvers : List (String × Resolver)
  timeLimit : Nat
  resolves : Bool

namespace Validator

def default : Validator := ⟨[], 10000, true⟩

def withResolver (v : Validator) (name : String) (r : Resolver) : Validator :=
  { v with resolvers := (name, r) :: v.resolvers }

def resolver? (v : Validator) (name : String) : Option Resolver :=
  (v.resolvers.find? fun r => r.1 = name).map Prod.snd

-- The literal as a value of the type; only integers become something else.
def coerce? : ParamType → Literal → Option Literal
  | .int, .int n => some (.int n)
  | .float, .float x => some (.float x)
  | .float, .int n => some (.float (Literal.widen n))
  | .str, .str s => some (.str s)
  | .bool, .bool b => some (.bool b)
  | _, _ => none

theorem type_of_coerce? {t : ParamType} {l l' : Literal} (h : coerce? t l = some l') :
    l'.type = t := by
  cases t <;> cases l <;> simp_all [coerce?] <;> subst h <;> rfl

variable (v : Validator)

def resolve (name param hint raw : String) : Except (Stop QueryError) String :=
  let unresolved (reason : Unresolved) : Stop QueryError :=
    .error (.unresolved name param raw reason)
  match v.resolver? hint with
  | none => .error (unresolved (.noResolver hint))
  | some r =>
    match (r raw).within v.timeLimit with
    | none => .error .crash
    | some (.ok value) => .ok value
    | some (.error reason) => .error (unresolved reason)

def checkArg (name : String) (p : Parameter) (l : Literal) : Except (Stop QueryError) Literal :=
  match coerce? p.type l with
  | none => .error (.error (.type name p.name p.type l))
  | some l =>
    match p.similarity, l with
    | some hint, .str raw =>
      if v.resolves then (v.resolve name p.name hint raw).map Literal.str else .ok l
    | _, _ => .ok l

def checkArgs (name : String) :
    List Parameter → List Literal → Except (Stop QueryError) (List Literal)
  | p :: ps, l :: ls =>
    match v.checkArg name p l with
    | .error e => .error e
    | .ok l => (checkArgs name ps ls).map (l :: ·)
  | _, _ => .ok []

def checkCall (role : Role) (ops : OperationSet) (c : Call) :
    Except (Stop QueryError) CheckedCall :=
  match ops.get? c.name with
  | none => .error (.error (.unsupported role c.name))
  | some o =>
    if c.args.length ≠ o.arity then .error (.error (.arity c.name o.arity c.args.length))
    else (v.checkArgs o.name o.params c.args).map fun args => ⟨o, args⟩

def checkCalls (role : Role) (ops : OperationSet) :
    List Call → Except (Stop QueryError) (List CheckedCall)
  | [] => .ok []
  | c :: cs =>
    match v.checkCall role ops c with
    | .error e => .error e
    | .ok c => (checkCalls role ops cs).map (c :: ·)

def check (role : Role) (source : String) (view : View) :
    Except (Stop QueryError) (List CheckedCall) :=
  match Expression.read role source with
  | .error e => .error (.error (.read e))
  | .ok e => v.checkCalls role (view.operations role) e.calls

def checkQuery (filters actions : String) (view : View) : Except (Stop QueryError) CheckedQuery :=
  match v.check .filter filters view with
  | .error e => .error e
  | .ok fs => (v.check .action actions view).map fun as => ⟨fs, as⟩

end Validator

end ViewQuery
