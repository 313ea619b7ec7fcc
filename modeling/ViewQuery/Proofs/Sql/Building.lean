import ViewQuery.Proofs.Sql.Meaning

set_option autoImplicit false

namespace ViewQuery.Sql

inductive BuilderOp where
  | filterAll (predicates : List Expr)
  | orderBy (e : Expr) (descending : Bool)
  | limitTo (n : Nat)
  | skip (n : Nat)
  | wrap

namespace BuilderOp

def apply (q : Select) : BuilderOp → Select
  | .filterAll predicates => q.filterAll predicates
  | .orderBy e descending => q.orderBy e descending
  | .limitTo n => q.limitTo n
  | .skip n => q.skip n
  | .wrap => q.wrap

-- The expressions of the operation read only selected columns, where they are put.
def Reads (q : Select) : BuilderOp → Prop
  | .filterAll predicates => ∀ p ∈ predicates, q.settled.Reads p
  | .orderBy e _ => q.settled.Reads e
  | .limitTo _ => True
  | .skip _ => True
  | .wrap => True

end BuilderOp

inductive BuilderCall where
  | fromTable (name : String)
  | column (e : Expr)
  | columnAs (e : Expr) (label : String)
  | makeDistinct
  | act (op : BuilderOp)

def BuilderCall.apply (q : Select) : BuilderCall → Select
  | .fromTable name => q.fromTable name
  | .column e => q.column e
  | .columnAs e label => q.columnAs e label
  | .makeDistinct => q.makeDistinct
  | .act op => op.apply q

namespace Select

def run (q : Select) (ops : List BuilderOp) : Select := ops.foldl BuilderOp.apply q

def RunReads : Select → List BuilderOp → Prop
  | _, [] => True
  | q, op :: ops => op.Reads q ∧ RunReads (op.apply q) ops

section plain

variable {q : Select}

theorem plain_wrap (q : Select) : q.wrap.Plain :=
  ⟨fun _ member => (nomatch member), fun _ member => (nomatch member)⟩

theorem Plain.settled (plain : q.Plain) : q.settled.Plain := by
  unfold Select.settled
  split
  · exact q.plain_wrap
  · exact plain

theorem isLimited_settled (q : Select) : q.settled.isLimited = false := by
  unfold Select.settled
  split
  · rfl
  · next unlimited => simpa using unlimited

theorem Plain.filterAll (plain : q.Plain) (predicates : List Expr) :
    (q.filterAll predicates).Plain := by
  unfold Select.filterAll
  split
  · exact plain
  · exact ⟨plain.settled.columns, plain.settled.sorted⟩

theorem Plain.orderBy (plain : q.Plain) {e : Expr} (reads : q.settled.Reads e)
    (descending : Bool) : (q.orderBy e descending).Plain := by
  refine ⟨plain.settled.columns, fun k member => ?_⟩
  rcases List.mem_append.1 member with old | new
  · exact plain.settled.sorted k old
  · obtain rfl := List.mem_singleton.1 new
    exact reads

theorem Plain.apply (plain : q.Plain) {op : BuilderOp} (reads : op.Reads q) :
    (op.apply q).Plain := by
  cases op with
  | filterAll predicates => exact plain.filterAll predicates
  | orderBy e descending => exact plain.orderBy reads descending
  | limitTo n => exact ⟨plain.columns, plain.sorted⟩
  | skip n => exact ⟨plain.settled.columns, plain.settled.sorted⟩
  | wrap => exact q.plain_wrap

theorem Plain.run (plain : q.Plain) {ops : List BuilderOp} (reads : q.RunReads ops) :
    (q.run ops).Plain := by
  induction ops generalizing q with
  | nil => exact plain
  | cons op ops ih => exact ih (plain.apply reads.1) reads.2

end plain

end Select

namespace Engine

variable {V : Type} [DecidableEq V] (E : Engine V) (tables : String → List (Row V)) {q : Select}

omit [DecidableEq V] in
theorem window_unlimited (unlimited : q.isLimited = false) (rows : List (Row V)) :
    window q.limit q.offset rows = rows := by
  simp only [Select.isLimited, Bool.or_eq_false_iff, Option.isSome_eq_false_iff,
    Option.isNone_iff_eq_none] at unlimited
  rw [unlimited.1, unlimited.2]
  rfl

theorem rows_unlimited (unlimited : q.isLimited = false) :
    E.rows tables q = E.ordered q (q.source.elim [[]] (E.sourceRows tables)) := by
  rw [rows_eq, select, window_unlimited unlimited]

theorem rows_wrap (q : Select) : E.rows tables q.wrap = E.rows tables q := by
  have all : (E.rows tables q).filter (fun r => E.holds q.wrap.scope r []) = E.rows tables q :=
    List.filter_eq_self.2 fun _ _ => rfl
  have same : (E.rows tables q).map (E.project q.wrap.scope []) = E.rows tables q :=
    List.map_id'' (fun _ => rfl) _
  have ordered : E.ordered q.wrap (E.rows tables q) = E.rows tables q := by
    change E.sortBy q.wrap.scope [] (((E.rows tables q).filter
      (fun r => E.holds q.wrap.scope r [])).map (E.project q.wrap.scope [])) = E.rows tables q
    rw [all, same, sortBy_nil]
  rw [rows_unlimited E tables rfl]
  exact ordered

theorem rows_settled (q : Select) : E.rows tables q.settled = E.rows tables q := by
  unfold Select.settled
  split
  · exact E.rows_wrap tables q
  · rfl

omit [DecidableEq V] in
theorem holds_project (plain : q.Plain) {predicates : List Expr}
    (reads : ∀ p ∈ predicates, q.Reads p) (r : Row V) :
    E.holds q.scope (E.project q.scope q.projections r) predicates =
      E.holds q.scope r predicates := by
  rw [Bool.eq_iff_iff, holds, holds, List.all_eq_true, List.all_eq_true]
  exact forall₂_congr fun p member => by rw [E.eval_project plain (reads p member)]

theorem ordered_filter (plain : q.Plain) {predicates : List Expr}
    (reads : ∀ p ∈ predicates, q.Reads p) (source : List (Row V)) :
    E.ordered { q with predicates := q.predicates ++ predicates } source =
      (E.ordered q source).filter fun r => E.holds q.scope r predicates := by
  have kept : (source.filter fun r => E.holds q.scope r (q.predicates ++ predicates)) =
      (source.filter fun r => E.holds q.scope r q.predicates).filter
        fun r => E.holds q.scope r predicates := by
    rw [List.filter_filter]
    simp only [holds_append, Bool.and_comm]
  have projected (rows : List (Row V)) :
      (rows.filter fun r => E.holds q.scope r predicates).map (E.project q.scope q.projections) =
        (rows.map (E.project q.scope q.projections)).filter
          fun r => E.holds q.scope r predicates := by
    rw [List.filter_map]
    congr 1
    exact List.filter_congr fun r _ => (E.holds_project plain reads r).symm
  calc
    E.ordered { q with predicates := q.predicates ++ predicates } source =
        E.sortBy q.scope q.sortKeys (unrepeated q.distinct
          ((source.filter fun r => E.holds q.scope r (q.predicates ++ predicates)).map
            (E.project q.scope q.projections))) := rfl
    _ = (E.ordered q source).filter fun r => E.holds q.scope r predicates := by
      rw [kept, projected, ← filter_unrepeated, ← filter_sortBy]
      rfl

theorem rows_filterAll (plain : q.Plain) {predicates : List Expr}
    (reads : ∀ p ∈ predicates, q.settled.Reads p) :
    E.rows tables (q.filterAll predicates) =
      (E.rows tables q).filter fun r => E.holds q.settled.scope r predicates := by
  unfold Select.filterAll
  split
  · next none =>
    rw [List.isEmpty_iff.1 none]
    exact (List.filter_eq_self.2 fun _ _ => rfl).symm
  -- The settled query has no limit that the merged predicates would come before.
  · have unlimited := q.isLimited_settled
    have merged := E.rows_unlimited tables
      (q := { q.settled with predicates := q.settled.predicates ++ predicates }) unlimited
    rw [← E.rows_settled tables q, rows_unlimited E tables unlimited]
    exact merged.trans (E.ordered_filter plain.settled reads _)

theorem rows_orderBy (q : Select) (e : Expr) (descending : Bool) :
    E.rows tables (q.orderBy e descending) =
      E.sortBy q.settled.scope (q.settled.sortKeys ++ [⟨e, descending⟩]) (E.rows tables q) := by
  have unlimited := q.isLimited_settled
  have merged := E.rows_unlimited tables
    (q := { q.settled with sortKeys := q.settled.sortKeys ++ [⟨e, descending⟩] }) unlimited
  rw [← E.rows_settled tables q, rows_unlimited E tables unlimited]
  exact merged.trans (E.sortBy_sortBy _ _ _ _).symm

theorem rows_limitTo (q : Select) (n : Nat) :
    E.rows tables (q.limitTo n) = (E.rows tables q).take n := by
  rw [rows_eq, rows_eq]
  change window (some _) q.offset (E.ordered q _) = (window q.limit q.offset (E.ordered q _)).take n
  cases q.limit with
  | none => rfl
  | some m =>
    simp only [window, List.take_take, Nat.min_comm]
    rfl

theorem rows_skip (q : Select) (n : Nat) :
    E.rows tables (q.skip n) = (E.rows tables q).drop n := by
  have unlimited := q.isLimited_settled
  rw [← E.rows_settled tables q, rows_unlimited E tables unlimited, rows_eq]
  simp only [Select.isLimited, Bool.or_eq_false_iff, Option.isSome_eq_false_iff,
    Option.isNone_iff_eq_none] at unlimited
  change window q.settled.limit (some n) (E.ordered q.settled _) = _
  rw [unlimited.1]
  rfl

/-- Each call of the builder transforms the rows of the query that was built so far. -/
theorem builder_acts_on_rows (plain : q.Plain) {ops : List BuilderOp} (reads : q.RunReads ops) :
    let built := q.run ops
    (∀ predicates, (∀ p ∈ predicates, built.settled.Reads p) →
      E.rows tables (built.filterAll predicates) =
        (E.rows tables built).filter fun r => E.holds built.settled.scope r predicates) ∧
    built.filterAll [] = built ∧
    (∀ n, E.rows tables (built.limitTo n) = (E.rows tables built).take n) ∧
    (∀ n, E.rows tables (built.skip n) = (E.rows tables built).drop n) ∧
    E.rows tables built.wrap = E.rows tables built ∧
    ∀ e descending, built.settled.Reads e →
      (E.rows tables (built.orderBy e descending)).Perm (E.rows tables built) ∧
      E.rows tables (built.orderBy e descending) =
        E.sortBy built.settled.scope
          (if built.isLimited ∨ built.sortKeys = [] then [⟨e, descending⟩]
          else built.sortKeys ++ [⟨e, descending⟩]) (E.rows tables built) := by
  intro built
  have builtPlain : built.Plain := plain.run reads
  refine ⟨fun _ readsAll => E.rows_filterAll tables builtPlain readsAll, rfl,
    E.rows_limitTo tables built, E.rows_skip tables built, E.rows_wrap tables built, ?_⟩
  intro e descending _
  have sorted := E.rows_orderBy tables built e descending
  refine ⟨sorted ▸ List.mergeSort_perm _ _, ?_⟩
  rw [sorted]
  congr 1
  unfold Select.settled
  by_cases limited : built.isLimited
  · simp [limited, Select.wrap, Select.empty]
  · by_cases unsorted : built.sortKeys = []
    · simp [limited, unsorted]
    · simp [limited, unsorted]

def integers : Engine (Option Int) where
  null := none
  literal
    | .int n => some n.toInt
    | .bool b => some b.toNat
    | _ => none
  compare op a b :=
    match a, b with
    | some m, some n =>
      let holds := match op with
        | .eq => decide (m = n)
        | .ne => decide (m ≠ n)
        | .lt => decide (m < n)
        | .le => decide (m ≤ n)
        | .gt => decide (n < m)
        | .ge => decide (n ≤ m)
      some holds.toNat
    | _, _ => none
  and items := if some 0 ∈ items then some 0 else if none ∈ items then none else some 1
  or items := if some 1 ∈ items then some 1 else if none ∈ items then none else some 0
  not a := a.map fun n => 1 - n
  inList a items :=
    if a = none ∧ items ≠ [] then none
    else if a ∈ items then some 1
    else if none ∈ items then none
    else some 0
  like _ _ _ := none
  isNull a := some a.isNone.toNat
  isTrue a := a = some 1
  atMost descending a b :=
    match a, b with
    | _, none => true
    | none, some _ => false
    | some m, some n => if descending then n ≤ m else m ≤ n
  atMost_trans descending a b c first second := by
    cases descending <;> cases a <;> cases b <;> cases c <;> simp at * <;> omega
  atMost_total descending a b := by
    cases descending <;> cases a <;> cases b <;> simp <;> omega

-- The three candidates with the most years, and those of them with two years or more.
theorem builder_acts_on_rows_limited :
    let candidates := ((Select.ofTable "candidates").column (.ofName "id")).column (.ofName "years")
    let tables := fun _ =>
      [[("id", some 1), ("years", some 1)], [("id", some 2), ("years", some 5)],
        [("id", some 3), ("years", none)], [("id", some 4), ("years", some 2)]]
    let experienced := Expr.compare .ge (.ofName "years") (.literal (.int 2))
    let top := (candidates.orderBy (.ofName "years") true).limitTo 3
    candidates.Plain ∧ candidates.RunReads [.orderBy (.ofName "years") true, .limitTo 3] ∧
      integers.rows tables (top.filterAll [experienced]) =
        (integers.rows tables top).filter
          fun r => integers.holds top.settled.scope r [experienced] := by
  intro candidates tables experienced top
  have plain : candidates.Plain := by
    refine ⟨fun p member => ?_, fun _ member => (nomatch member)⟩
    have isColumn : p = ⟨.ofName "id", none⟩ ∨ p = ⟨.ofName "years", none⟩ := by
      simpa [candidates, Select.column, Select.ofTable, Select.fromTable, Select.empty] using member
    rcases isColumn with rfl | rfl
    · exact ⟨rfl, _, rfl, .inl rfl⟩
    · exact ⟨rfl, _, rfl, .inl rfl⟩
  have sorts : candidates.Reads (.ofName "years") := by
    intro c member
    obtain rfl : c = ⟨none, "years"⟩ := by simpa [Expr.columns, Expr.ofName] using member
    exact ⟨.inl rfl, .inr (List.mem_cons_of_mem _ (List.mem_cons_self ..))⟩
  have reads : candidates.RunReads [.orderBy (.ofName "years") true, .limitTo 3] :=
    ⟨sorts, trivial, trivial⟩
  refine ⟨plain, reads, (integers.builder_acts_on_rows tables plain reads).1 [experienced] ?_⟩
  intro p member c isRead
  obtain rfl := List.mem_singleton.1 member
  obtain rfl : c = ⟨none, "years"⟩ := by
    simpa [experienced, Expr.columns, Expr.ofName] using isRead
  exact ⟨.inl rfl, .inl rfl⟩

end Engine

end ViewQuery.Sql
