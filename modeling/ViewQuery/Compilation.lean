import ViewQuery.BoundView
import ViewQuery.Validation

set_option autoImplicit false

namespace ViewQuery

inductive CompileError where
  | query (e : QueryError)
  | unbound (view name : String)
  | invocation (name : String) (fault : InvocationFault)
  deriving DecidableEq

namespace CompileError

def kind : CompileError → ErrorKind
  | .query e => e.kind
  | .unbound _ _ => .runtimeInvocationFault
  | .invocation _ _ => .runtimeInvocationFault

def message : CompileError → String
  | .query e => e.message
  | .unbound view name =>
    "Operation " ++ name ++ " is exposed by view " ++ view ++ " but not bound"
  | .invocation name fault => "Operation " ++ name ++ " failed: " ++ fault.message

end CompileError

namespace BoundView

variable (b : BoundView)

def invocationError (c : CheckedCall) (f : InvocationFault) : CompileError :=
  .invocation c.name f

def condition (c : CheckedCall) : Except CompileError Sql.Expr :=
  match b.filter? c.name with
  | none => .error (.unbound b.view.name c.name)
  | some body => (body c.args).mapError (invocationError c)

def conditions : List CheckedCall → Except CompileError (List Sql.Expr)
  | [] => .ok []
  | c :: cs =>
    match b.condition c with
    | .error e => .error e
    | .ok p => (conditions cs).map (p :: ·)

def applyFilters (query : Sql.Select) (cs : List CheckedCall) : Except CompileError Sql.Select :=
  (b.conditions cs).map query.filterAll

def reshape (query : Sql.Select) (c : CheckedCall) : Except CompileError Sql.Select :=
  match b.action? c.name with
  | none => .error (.unbound b.view.name c.name)
  | some body => (body query c.args).mapError (invocationError c)

def applyActions : Sql.Select → List CheckedCall → Except CompileError Sql.Select
  | query, [] => .ok query
  | query, c :: cs =>
    match b.reshape query c with
    | .error e => .error e
    | .ok query => applyActions query cs

-- All conditions are added together, then the actions reshape the query from left to right.
def compile (q : CheckedQuery) : Except CompileError Sql.Select :=
  match b.applyFilters b.base q.filters with
  | .error e => .error e
  | .ok query => b.applyActions query q.actions

end BoundView

structure Runner where
  bound : BoundView
  validator : Validator
  query : Sql.Select
  checked : CheckedQuery

namespace Runner

def start (bound : BoundView) (validator : Validator) : Runner :=
  ⟨bound, validator, bound.base, .empty⟩

def checkText (r : Runner) (role : Role) (source : String) :
    Except (Stop CompileError) (List CheckedCall) :=
  match r.validator.check role source r.bound.view with
  | .ok cs => .ok cs
  | .error .crash => .error .crash
  | .error (.error e) => .error (.error (.query e))

def applyFilters (r : Runner) (source : String) : Except (Stop CompileError) Runner :=
  match r.checkText .filter source with
  | .error e => .error e
  | .ok cs =>
    match r.bound.applyFilters r.query cs with
    | .error e => .error (.error e)
    | .ok query =>
      .ok
        { r with
          query := query
          checked := { r.checked with filters := r.checked.filters ++ cs } }

def applyActions (r : Runner) (source : String) : Except (Stop CompileError) Runner :=
  match r.checkText .action source with
  | .error e => .error e
  | .ok cs =>
    match r.bound.applyActions r.query cs with
    | .error e => .error (.error e)
    | .ok query =>
      .ok
        { r with
          query := query
          checked := { r.checked with actions := r.checked.actions ++ cs } }

def apply (r : Runner) : Role → String → Except (Stop CompileError) Runner
  | .filter => r.applyFilters
  | .action => r.applyActions

end Runner

end ViewQuery
