import ViewQuery.Proofs.Sql.Building

set_option autoImplicit false

namespace ViewQuery.Sql

variable {t : String} {q : Select}

namespace Select

def ownColumns (q : Select) : List Column :=
  (q.projections.flatMap fun p => p.expr.columns) ++ q.predicates.flatMap Expr.columns ++
    q.sortKeys.flatMap fun k => k.expr.columns

mutual

def levels : Select → List Select
  | ⟨distinct, projections, source, predicates, sortKeys, limit, offset⟩ =>
    ⟨distinct, projections, source, predicates, sortKeys, limit, offset⟩ ::
      (match source with
      | some s => sourceLevels s
      | none => [])

def sourceLevels : Source → List Select
  | .table _ => []
  | .subquery q _ => q.levels

end

def OwnInScope (t : String) (q : Select) : Prop :=
  ∀ c ∈ q.ownColumns, c.table = some t → q.source = some (.table t)

/-- At every level the columns that name the table stand in a query that reads the table. -/
def InScope (t : String) (q : Select) : Prop := ∀ level ∈ q.levels, level.OwnInScope t

def Direct (t : String) (q : Select) : Prop := q.isLimited = false ∧ q.source = some (.table t)

end Select

namespace BuilderOp

def columns : BuilderOp → List Column
  | .filterAll predicates => predicates.flatMap Expr.columns
  | .orderBy e _ => e.columns
  | .limitTo _ => []
  | .skip _ => []
  | .wrap => []

def Mentions (t : String) (op : BuilderOp) : Prop := ∃ c ∈ op.columns, c.table = some t

-- Leaves a query without limit and offset as it is, but for predicates and sort keys.
def merges : BuilderOp → Bool
  | .filterAll _ => true
  | .orderBy _ _ => true
  | .limitTo _ => false
  | .skip _ => false
  | .wrap => false

end BuilderOp

namespace Select

theorem levels_eq (q : Select) : q.levels = q :: q.source.elim [] sourceLevels := by
  obtain ⟨_, _, source, _, _, _, _⟩ := q
  cases source <;> rfl

theorem inScope_wrap (q : Select) : q.wrap.InScope t ↔ q.InScope t := by
  have own : q.wrap.OwnInScope t := fun _ member => nomatch member
  rw [InScope, levels_eq, List.forall_mem_cons]
  exact and_iff_right own

theorem inScope_settled (q : Select) : q.settled.InScope t ↔ q.InScope t := by
  by_cases limited : q.isLimited
  · rw [settled, if_pos limited]
    exact q.inScope_wrap
  · rw [settled, if_neg limited]

theorem inScope_of_added {q' : Select} {added : List Column} (sameSource : q'.source = q.source)
    (columns : ∀ c, c ∈ q'.ownColumns ↔ c ∈ q.ownColumns ∨ c ∈ added) :
    q'.InScope t ↔
      q.InScope t ∧ ((∃ c ∈ added, c.table = some t) → q.source = some (.table t)) := by
  have own : q'.OwnInScope t ↔
      q.OwnInScope t ∧ ((∃ c ∈ added, c.table = some t) → q.source = some (.table t)) := by
    simp only [OwnInScope, columns, sameSource, or_imp, forall_and, forall_exists_index, and_imp]
  rw [InScope, InScope, levels_eq, levels_eq q, sameSource, List.forall_mem_cons,
    List.forall_mem_cons, own, and_right_comm]

theorem inScope_of_same {q' : Select} (sameSource : q'.source = q.source)
    (sameColumns : q'.ownColumns = q.ownColumns) : q'.InScope t ↔ q.InScope t := by
  have noneAdded : ∀ c, c ∈ q'.ownColumns ↔ c ∈ q.ownColumns ∨ c ∈ [] := by simp [sameColumns]
  simpa using inScope_of_added (t := t) sameSource noneAdded

theorem direct_settled : q.settled.source = some (.table t) ↔ q.Direct t := by
  by_cases limited : q.isLimited
  · simp [settled, Direct, limited, wrap]
  · simp [settled, Direct, limited]

theorem direct_of_settled {q' : Select} (sameSource : q'.source = q.settled.source)
    (sameLimits : q'.isLimited = q.settled.isLimited) : q'.Direct t ↔ q.Direct t := by
  rw [Direct, sameLimits, sameSource, isLimited_settled, direct_settled]
  exact and_iff_right rfl

end Select

namespace BuilderOp

theorem not_mentions {op : BuilderOp} (none : op.columns = []) : ¬ op.Mentions t := by
  simp [Mentions, none]

theorem inScope_apply (op : BuilderOp) :
    (op.apply q).InScope t ↔ q.InScope t ∧ (op.Mentions t → q.Direct t) := by
  rw [← Select.direct_settled]
  cases op with
  | filterAll predicates =>
    by_cases none : predicates = []
    · simp [none, apply, Select.filterAll, Mentions, columns]
    · rw [← q.inScope_settled, apply, Select.filterAll, if_neg (by simpa using none)]
      refine Select.inScope_of_added rfl fun c => ?_
      simp only [Select.ownColumns, List.flatMap_append, List.mem_append, columns]
      tauto
  | orderBy e descending =>
    rw [← q.inScope_settled, apply, Select.orderBy]
    refine Select.inScope_of_added rfl fun c => ?_
    simp only [Select.ownColumns, List.flatMap_append, List.flatMap_singleton, List.mem_append,
      columns, or_assoc]
  | limitTo n =>
    rw [and_iff_left fun mentions => absurd mentions (not_mentions rfl)]
    exact Select.inScope_of_same rfl rfl
  | skip n =>
    rw [and_iff_left fun mentions => absurd mentions (not_mentions rfl), ← q.inScope_settled]
    exact Select.inScope_of_same rfl rfl
  | wrap =>
    rw [and_iff_left fun mentions => absurd mentions (not_mentions rfl)]
    exact q.inScope_wrap

theorem direct_apply (op : BuilderOp) : (op.apply q).Direct t ↔ q.Direct t ∧ op.merges := by
  cases op with
  | filterAll predicates =>
    refine .trans ?_ (and_iff_left rfl).symm
    rw [apply, Select.filterAll]
    split
    · rfl
    · exact Select.direct_of_settled rfl rfl
  | orderBy e descending =>
    exact (Select.direct_of_settled rfl rfl).trans (and_iff_left rfl).symm
  | limitTo n => simp [apply, Select.limitTo, Select.Direct, Select.isLimited, merges]
  | skip n => simp [apply, Select.skip, Select.Direct, Select.isLimited, merges]
  | wrap => simp [apply, Select.wrap, Select.Direct, merges]

end BuilderOp

namespace Select

theorem inScope_run (q : Select) (ops : List BuilderOp) :
    (q.run ops).InScope t ↔
      q.InScope t ∧ (∀ op ∈ ops, op.Mentions t → q.Direct t) ∧
        ops.Pairwise fun earlier later => later.Mentions t → earlier.merges := by
  induction ops generalizing q with
  | nil => simp [run]
  | cons op ops ih =>
    have later : (∀ op' ∈ ops, op'.Mentions t → (op.apply q).Direct t) ↔
        (∀ op' ∈ ops, op'.Mentions t → q.Direct t) ∧
          ∀ op' ∈ ops, op'.Mentions t → op.merges := by
      simp only [BuilderOp.direct_apply, imp_and, forall_and]
    calc
      (q.run (op :: ops)).InScope t ↔ ((op.apply q).run ops).InScope t := Iff.rfl
      _ ↔ _ := ih (op.apply q)
      _ ↔ _ := by
        rw [later, op.inScope_apply, List.forall_mem_cons, List.pairwise_cons]
        tauto

/-- A query that is built on a table stays in scope if and only if each operation that names the
table comes before all limits, offsets and wrappings. -/
theorem inScope_run_fromTable (q : Select) (t : String) (ops : List BuilderOp) :
    ((q.fromTable t).run ops).InScope t ↔
      (∀ op ∈ ops, op.Mentions t → q.isLimited = false) ∧
        ops.Pairwise fun earlier later => later.Mentions t → earlier.merges := by
  have base : (q.fromTable t).InScope t := by
    intro level member
    obtain rfl := List.mem_singleton.1 (levels_eq (q.fromTable t) ▸ member)
    exact fun _ _ _ => rfl
  have direct : (q.fromTable t).Direct t ↔ q.isLimited = false := and_iff_left rfl
  simp only [inScope_run, base, direct, true_and]

-- The condition names the table beside the subquery.
theorem not_inScope_after_limit :
    let q := (Select.ofTable "t").run
      [.limitTo 3, .filterAll [.compare .gt (.column ⟨some "t", "a"⟩) (.literal (.int 1))]]
    q.text = "SELECT * FROM (SELECT * FROM t LIMIT 3) AS q1 WHERE t.a > 1" ∧ ¬ q.InScope "t" := by
  intro q
  refine ⟨by decide +kernel, fun inScope => ?_⟩
  have comesLate := ((Select.ofTable "t").inScope_run _).1 inScope
  have mentions : (BuilderOp.filterAll
      [.compare .gt (.column ⟨some "t", "a"⟩) (.literal (.int 1))]).Mentions "t" :=
    ⟨⟨some "t", "a"⟩, by simp [BuilderOp.columns, Expr.columns], rfl⟩
  exact Bool.false_ne_true ((List.pairwise_pair.1 comesLate.2.2) mentions)

end Select

end ViewQuery.Sql
