import ViewQuery.Compilation

set_option autoImplicit false

namespace ViewQuery

def BoundView.transform (b : BoundView) (role : Role) (query : Sql.Select)
    (cs : List CheckedCall) : Except CompileError Sql.Select :=
  match role with
  | .filter => b.applyFilters query cs
  | .action => b.applyActions query cs

namespace CheckedQuery

def calls (q : CheckedQuery) : Role → List CheckedCall
  | .filter => q.filters
  | .action => q.actions

def extend (q : CheckedQuery) (cs : List CheckedCall) : Role → CheckedQuery
  | .filter => { q with filters := q.filters ++ cs }
  | .action => { q with actions := q.actions ++ cs }

end CheckedQuery

namespace Session

-- Nothing that was stored before an error is taken back.
def enter (role : Role) (source : String) : StateM Runner (Except (Stop CompileError) Unit) := do
  let r ← get
  match r.checkText role source with
  | .error e => return .error e
  | .ok cs =>
    match r.bound.transform role r.query cs with
    | .error e => return .error (.error e)
    | .ok query =>
      modify fun r => { r with query := query }
      modify fun r => { r with checked := r.checked.extend cs role }
      return .ok ()

def enterAll (texts : List (Role × String)) :
    StateM Runner (List (Except (Stop CompileError) Unit)) :=
  texts.mapM fun text => enter text.1 text.2

end Session

end ViewQuery
