import ViewQuery.Session

set_option autoImplicit false

namespace ViewQuery

namespace BoundView

def transformWith {m : Type → Type} [Monad m] (condition : CheckedCall → m Sql.Expr)
    (reshape : Sql.Select → CheckedCall → m Sql.Select) :
    Role → Sql.Select → List CheckedCall → m Sql.Select
  | .filter, query, cs => query.filterAll <$> cs.mapM condition
  | .action, query, cs => cs.foldlM reshape query

theorem conditions_eq_mapM (b : BoundView) (cs : List CheckedCall) :
    b.conditions cs = cs.mapM b.condition := by
  induction cs with
  | nil => rfl
  | cons c cs ih =>
    rw [conditions, List.mapM_cons, ih]
    cases b.condition c with
    | error e => rfl
    | ok p => cases cs.mapM b.condition <;> rfl

theorem applyActions_eq_foldlM (b : BoundView) (query : Sql.Select) (cs : List CheckedCall) :
    b.applyActions query cs = cs.foldlM b.reshape query := by
  induction cs generalizing query with
  | nil => rfl
  | cons c cs ih =>
    rw [applyActions, List.foldlM_cons]
    cases b.reshape query c with
    | error e => rfl
    | ok reshaped => exact ih reshaped

theorem transform_eq (b : BoundView) (role : Role) (query : Sql.Select) (cs : List CheckedCall) :
    b.transform role query cs = transformWith b.condition b.reshape role query cs := by
  cases role with
  | filter =>
    rw [transform, applyFilters, conditions_eq_mapM]
    rfl
  | action => exact b.applyActions_eq_foldlM query cs

theorem compile_eq_bind (b : BoundView) (q : CheckedQuery) :
    b.compile q = (b.transform .filter b.base q.filters).bind fun query =>
      b.transform .action query q.actions := by
  rw [compile, transform]
  cases b.applyFilters b.base q.filters <;> rfl

end BoundView

theorem Runner.apply_eq (r : Runner) (role : Role) (source : String) :
    r.apply role source =
      match r.checkText role source with
      | .error e => .error e
      | .ok cs =>
        match r.bound.transform role r.query cs with
        | .error e => .error (.error e)
        | .ok query => .ok { r with query := query, checked := r.checked.extend cs role } := by
  cases role <;> rfl

end ViewQuery
