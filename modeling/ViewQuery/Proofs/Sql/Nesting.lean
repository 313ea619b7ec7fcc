import ViewQuery.Proofs.Grammar.Printing
import ViewQuery.Proofs.Sql.Building

set_option autoImplicit false

namespace ViewQuery.Sql

namespace Select

def build (calls : List BuilderCall) : Select := calls.foldl BuilderCall.apply empty

mutual

def labels : Select → List String
  | ⟨_, _, source, _, _, _, _⟩ =>
    match source with
    | some s => sourceLabels s
    | none => []

def sourceLabels : Source → List String
  | .table _ => []
  | .subquery q label => q.labels ++ [label]

end

def Numbered (q : Select) : Prop := q.labels = (List.range q.depth).map fun i => labelFor (i + 1)

variable {q q' : Select}

theorem labels_eq (q : Select) : q.labels = q.source.elim [] sourceLabels := by
  obtain ⟨_, _, source, _, _, _, _⟩ := q
  cases source <;> rfl

theorem depth_eq (q : Select) : q.depth = q.source.elim 0 sourceDepth := by
  obtain ⟨_, _, source, _, _, _, _⟩ := q
  cases source <;> rfl

theorem Numbered.of_source (numbered : q.Numbered) (same : q'.source = q.source) :
    q'.Numbered := by
  rw [Numbered, labels_eq, depth_eq, same, ← labels_eq, ← depth_eq]
  exact numbered

theorem numbered_of_table {name : String} (reads : q.source = some (.table name)) : q.Numbered := by
  rw [Numbered, labels_eq, depth_eq, reads]
  rfl

theorem labels_wrap (q : Select) : q.wrap.labels = q.labels ++ [labelFor (q.depth + 1)] := rfl

theorem depth_wrap (q : Select) : q.wrap.depth = q.depth + 1 := rfl

theorem Numbered.wrap (numbered : q.Numbered) : q.wrap.Numbered := by
  rw [Numbered, labels_wrap, depth_wrap, numbered, List.range_succ, List.map_append]
  rfl

theorem Numbered.settled (numbered : q.Numbered) : q.settled.Numbered := by
  unfold Select.settled
  split
  · exact numbered.wrap
  · exact numbered

-- A call leaves the source alone, wraps the query or reads a table in its place.
theorem Numbered.act (numbered : q.Numbered) (op : BuilderOp) : (op.apply q).Numbered := by
  cases op with
  | filterAll predicates =>
    rw [BuilderOp.apply, Select.filterAll]
    split
    · exact numbered
    · exact numbered.settled.of_source rfl
  | orderBy e descending => exact numbered.settled.of_source rfl
  | limitTo n => exact numbered.of_source rfl
  | skip n => exact numbered.settled.of_source rfl
  | wrap => exact numbered.wrap

theorem Numbered.apply (numbered : q.Numbered) (call : BuilderCall) : (call.apply q).Numbered := by
  cases call with
  | fromTable name => exact numbered_of_table rfl
  | column e => exact numbered.of_source rfl
  | columnAs e label => exact numbered.of_source rfl
  | makeDistinct => exact numbered.of_source rfl
  | act op => exact numbered.act op

theorem Numbered.applyAll (numbered : q.Numbered) (calls : List BuilderCall) :
    (calls.foldl BuilderCall.apply q).Numbered := by
  induction calls generalizing q with
  | nil => exact numbered
  | cons call calls ih => exact ih (numbered.apply call)

theorem labelFor_eq (depth : Nat) : labelFor depth = "q" ++ toString depth := by
  apply String.toList_injective
  rw [labelFor, String.toList_ofList, String.toList_append]
  exact congrArg ('q' :: ·) (String.toList_ofList (l := Decimal.natText depth)).symm

theorem labelFor_injective : Function.Injective labelFor := by
  intro m n same
  have digits : Decimal.natText m = Decimal.natText n := by
    simpa [labelFor] using congrArg String.toList same
  rw [← Grammar.digitsValue_natText m, digits, Grammar.digitsValue_natText]

/-- However a query is built, its subqueries are labelled `q1`, `q2` and so on from the innermost to
the outermost. No label stands twice, and the depth of the query is their number. -/
theorem labels_build (calls : List BuilderCall) :
    let q := build calls
    q.labels = (List.range q.labels.length).map (fun i => "q" ++ toString (i + 1)) ∧
      q.labels.Nodup ∧ q.depth = q.labels.length := by
  intro q
  have numbered : q.Numbered := Numbered.applyAll (q := empty) rfl calls
  have count : q.depth = q.labels.length := by
    rw [show q.labels = _ from numbered, List.length_map, List.length_range]
  have different : Function.Injective fun i => labelFor (i + 1) :=
    labelFor_injective.comp (add_left_injective 1)
  refine ⟨?_, ?_, count⟩
  · rw [← count, show q.labels = _ from numbered]
    exact List.map_congr_left fun i _ => labelFor_eq (i + 1)
  · rw [show q.labels = _ from numbered]
    exact List.nodup_range.map different

-- A table read later takes the place of the subqueries so far.
example :
    let limited : List BuilderCall := [.fromTable "t", .act (.limitTo 3), .act (.skip 1)]
    let sorted : List BuilderCall := [.act (.orderBy (.ofName "a") false), .act .wrap]
    (build (limited ++ sorted)).labels = ["q1", "q2", "q3"] ∧
      (build (limited ++ sorted ++ [.fromTable "u", .act .wrap])).labels = ["q1"] := by
  decide +kernel

end Select

end ViewQuery.Sql
