import ViewQuery.Json.Sorted
import ViewQuery.Registry
import ViewQuery.Scoring

set_option autoImplicit false

namespace ViewQuery

def Example.viewName? (e : Example) (default : Option String) : Option String := e.view.or default

structure Evaluation where
  views : List (String × Counts)
  total : Counts
  deriving DecidableEq

namespace Evaluation

def empty : Evaluation := ⟨[], .zero⟩

def add (e : Evaluation) (name : String) (c : Counts) : Evaluation :=
  ⟨e.views ++ [(name, c)], e.total + c⟩

def countsFields (c : Counts) : List (String × Json) :=
  [("counts", c.toJson), ("metrics", (Rates.ofCounts c).toJson)]

def toJson (e : Evaluation) : Json :=
  Json.sorted (.obj (countsFields e.total
    ++ [("views", .obj (e.views.map fun g => (g.1, .obj (countsFields g.2))))]))

end Evaluation

inductive EvaluationError where
  | viewMissing
  | view (e : ViewError)
  deriving DecidableEq

def EvaluationError.message : EvaluationError → String
  | .viewMissing => "record without a view and no --view given"
  | .view e => e.message

def addToGroup (name : String) (e : Example) :
    List (String × List Example) → List (String × List Example)
  | [] => [(name, [e])]
  | (n, es) :: groups =>
    if name = n then (n, es ++ [e]) :: groups
    else if name < n then (name, [e]) :: (n, es) :: groups
    else (n, es) :: addToGroup name e groups

def group (default : Option String) (groups : List (String × List Example)) (e : Example) :
    Except EvaluationError (List (String × List Example)) :=
  match e.viewName? default with
  | some name => .ok (addToGroup name e groups)
  | none => .error .viewMissing

namespace Registry

variable (r : Registry) (v : Validator) (limit : Nat) (default : Option String)

def scoreGroup (scored : Evaluation) (g : String × List Example) :
    Except (Stop EvaluationError) Evaluation :=
  match r.get g.1 with
  | .error e => .error (.error (.view e))
  | .ok view =>
    match v.scoreConcurrently limit view g.2 with
    | some counts => .ok (scored.add g.1 counts)
    | none => .error .crash

def evaluate (es : List Example) : Except (Stop EvaluationError) Evaluation :=
  match es.foldlM (group default) [] with
  | .error e => .error (.error e)
  | .ok groups => groups.foldlM (r.scoreGroup v limit) .empty

end Registry

end ViewQuery
