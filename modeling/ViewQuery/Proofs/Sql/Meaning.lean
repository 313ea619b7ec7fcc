import ViewQuery.Sql.Select
import ViewQuery.Proofs.Sql.Sorting

/-!
The rows that a query stands for.

What the engine does with values is a parameter: how it compares and combines them and in which
order it sorts them. A query keeps the rows of its source on which every predicate is true, projects
them, drops repeats, sorts, and then drops and takes rows from the front.
-/

set_option autoImplicit false

namespace ViewQuery.Sql

/-- What queries take from the engine that runs them. -/
structure Engine (V : Type) where
  null : V
  literal : Literal → V
  compare : Comparison → V → V → V
  and : List V → V
  or : List V → V
  not : V → V
  inList : V → List V → V
  like : Bool → V → V → V
  isNull : V → V
  isTrue : V → Bool
  -- the order of a sort key, descending or not, with the place it gives to nulls
  atMost : Bool → V → V → Bool
  atMost_trans : ∀ descending a b c,
    atMost descending a b → atMost descending b c → atMost descending a c
  atMost_total : ∀ descending a b, atMost descending a b || atMost descending b a

abbrev Row (V : Type) := List (String × V)

namespace Expr

mutual

def columns : Expr → List Column
  | .null => []
  | .literal _ => []
  | .column c => [c]
  | .compare _ l r => l.columns ++ r.columns
  | .and items => itemsColumns items
  | .or items => itemsColumns items
  | .not e => e.columns
  | .inList e items => e.columns ++ itemsColumns items
  | .like e p _ => e.columns ++ p.columns
  | .isNull e => e.columns

def itemsColumns : List Expr → List Column
  | [] => []
  | e :: es => e.columns ++ itemsColumns es

end

end Expr

def Source.label : Source → String
  | .table name => name
  | .subquery _ label => label

def Projection.name (p : Projection) : String :=
  match p.label, p.expr with
  | some label, _ => label
  | none, .column c => c.name
  | none, e => e.text

namespace Select

variable (q : Select)

def scope : Option String := q.source.map Source.label

def Resolves (c : Column) : Prop := c.table = none ∨ c.table = q.scope

def Selects (name : String) : Prop :=
  q.projections = [] ∨ name ∈ q.projections.map Projection.name

-- The expression reads only columns that the query selects.
def Reads (e : Expr) : Prop := ∀ c ∈ e.columns, q.Resolves c ∧ q.Selects c.name

-- All columns or columns as they are, sorted by selected columns.
structure Plain : Prop where
  columns : ∀ p ∈ q.projections, p.label = none ∧ ∃ c, p.expr = .column c ∧ q.Resolves c
  sorted : ∀ k ∈ q.sortKeys, q.Reads k.expr

end Select

namespace Engine

variable {V : Type} (E : Engine V) (scope : Option String)

-- An engine refuses a query that reads a column it does not find; here the cell is null.
def cell (r : Row V) (c : Column) : V :=
  if c.table = none ∨ c.table = scope then (r.lookup c.name).getD E.null else E.null

mutual

def eval (r : Row V) : Expr → V
  | .null => E.null
  | .literal l => E.literal l
  | .column c => E.cell scope r c
  | .compare op a b => E.compare op (eval r a) (eval r b)
  | .and items => E.and (evalItems r items)
  | .or items => E.or (evalItems r items)
  | .not e => E.not (eval r e)
  | .inList e items => E.inList (eval r e) (evalItems r items)
  | .like e p ignoreCase => E.like ignoreCase (eval r e) (eval r p)
  | .isNull e => E.isNull (eval r e)

def evalItems (r : Row V) : List Expr → List V
  | [] => []
  | e :: es => eval r e :: evalItems r es

end

def holds (r : Row V) (predicates : List Expr) : Bool :=
  predicates.all fun p => E.isTrue (E.eval scope r p)

def project (projections : List Projection) (r : Row V) : Row V :=
  if projections.isEmpty then r else projections.map fun p => (p.name, E.eval scope r p.expr)

def atMostBy : List SortKey → Row V → Row V → Bool
  | [], _, _ => true
  | k :: keys, r, s =>
    let a := E.eval scope r k.expr
    let b := E.eval scope s k.expr
    E.atMost k.descending a b && (!E.atMost k.descending b a || atMostBy keys r s)

def sortBy (keys : List SortKey) (rows : List (Row V)) : List (Row V) :=
  rows.mergeSort (E.atMostBy scope keys)

def window (limit offset : Option Nat) (rows : List (Row V)) : List (Row V) :=
  let rest := rows.drop (offset.getD 0)
  match limit with
  | some n => rest.take n
  | none => rest

variable [DecidableEq V] (tables : String → List (Row V))

def unrepeated (distinct : Bool) (rows : List (Row V)) : List (Row V) :=
  if distinct then rows.eraseDups else rows

def ordered (q : Select) (source : List (Row V)) : List (Row V) :=
  let kept := source.filter fun r => E.holds q.scope r q.predicates
  let projected := kept.map (E.project q.scope q.projections)
  E.sortBy q.scope q.sortKeys (unrepeated q.distinct projected)

def select (q : Select) (source : List (Row V)) : List (Row V) :=
  window q.limit q.offset (E.ordered q source)

mutual

/-- The rows of a query, in their order. -/
def rows : Select → List (Row V)
  | ⟨distinct, projections, source, predicates, sortKeys, limit, offset⟩ =>
    E.select ⟨distinct, projections, source, predicates, sortKeys, limit, offset⟩
      (match source with
      | some s => sourceRows s
      | none => [[]])

def sourceRows : Source → List (Row V)
  | .table name => tables name
  | .subquery q _ => rows q

end

omit E in
theorem filter_unrepeated (keep : Row V → Bool) (distinct : Bool) (rows : List (Row V)) :
    (unrepeated distinct rows).filter keep = unrepeated distinct (rows.filter keep) := by
  cases distinct
  · rfl
  · exact filter_eraseDups keep rows

theorem rows_eq (q : Select) :
    E.rows tables q = E.select q (q.source.elim [[]] (E.sourceRows tables)) := by
  obtain ⟨_, _, source, _, _, _, _⟩ := q
  cases source <;> rfl

end Engine

namespace Engine

variable {V : Type} (E : Engine V) {scope : Option String} {r s : Row V}

section reading

mutual

theorem eval_congr : ∀ e : Expr,
    (∀ c ∈ e.columns, E.cell scope r c = E.cell scope s c) → E.eval scope r e = E.eval scope s e
  | .null, _ => rfl
  | .literal _, _ => rfl
  | .column c, agree => by simpa [eval] using agree c (by simp [Expr.columns])
  | .compare op a b, agree => by
    rw [Expr.columns, List.forall_mem_append] at agree
    rw [eval, eval, eval_congr a agree.1, eval_congr b agree.2]
  | .and items, agree => by
    rw [Expr.columns] at agree
    rw [eval, eval, evalItems_congr items agree]
  | .or items, agree => by
    rw [Expr.columns] at agree
    rw [eval, eval, evalItems_congr items agree]
  | .not e, agree => by
    rw [Expr.columns] at agree
    rw [eval, eval, eval_congr e agree]
  | .inList e items, agree => by
    rw [Expr.columns, List.forall_mem_append] at agree
    rw [eval, eval, eval_congr e agree.1, evalItems_congr items agree.2]
  | .like e p ignoreCase, agree => by
    rw [Expr.columns, List.forall_mem_append] at agree
    rw [eval, eval, eval_congr e agree.1, eval_congr p agree.2]
  | .isNull e, agree => by
    rw [Expr.columns] at agree
    rw [eval, eval, eval_congr e agree]

theorem evalItems_congr : ∀ items : List Expr,
    (∀ c ∈ Expr.itemsColumns items, E.cell scope r c = E.cell scope s c) →
      E.evalItems scope r items = E.evalItems scope s items
  | [], _ => rfl
  | e :: es, agree => by
    rw [Expr.itemsColumns, List.forall_mem_append] at agree
    rw [evalItems, evalItems, eval_congr e agree.1, evalItems_congr es agree.2]

end

theorem lookup_map {ps : List Projection} {value : Projection → V} {name : String} {v : V}
    (same : ∀ p ∈ ps, p.name = name → value p = v) (found : name ∈ ps.map Projection.name) :
    (ps.map fun p => (p.name, value p)).lookup name = some v := by
  induction ps with
  | nil => simp at found
  | cons p ps ih =>
    obtain ⟨first, others⟩ := List.forall_mem_cons.1 same
    by_cases here : p.name = name
    · simp [here, first here]
    · have there : name ∈ ps.map Projection.name := by simpa [Ne.symm here] using found
      simp [List.lookup_cons, beq_false_of_ne (Ne.symm here), ih others there]

theorem cell_of_resolves {q : Select} {c : Column} (resolves : q.Resolves c) :
    E.cell q.scope r c = (r.lookup c.name).getD E.null :=
  if_pos resolves

theorem cell_project {q : Select} (plain : q.Plain) {c : Column} (resolves : q.Resolves c)
    (selects : q.Selects c.name) :
    E.cell q.scope (E.project q.scope q.projections r) c = E.cell q.scope r c := by
  rcases selects with all | found
  · simp [project, all]
  · have nonempty : q.projections.isEmpty = false := by
      cases projections : q.projections with
      | nil => simp [projections] at found
      | cons _ _ => rfl
    have same : ∀ p ∈ q.projections, p.name = c.name →
        E.eval q.scope r p.expr = E.cell q.scope r c := by
      intro p member named
      obtain ⟨noLabel, c', isColumn, resolves'⟩ := plain.columns p member
      simp only [Projection.name, noLabel, isColumn] at named
      rw [isColumn, eval, E.cell_of_resolves resolves', E.cell_of_resolves resolves, named]
    have looked := lookup_map same found
    rw [E.cell_of_resolves resolves, project, nonempty]
    simp only [Bool.false_eq_true, if_false]
    rw [looked, Option.getD_some]

theorem eval_project {q : Select} (plain : q.Plain) {e : Expr} (reads : q.Reads e) :
    E.eval q.scope (E.project q.scope q.projections r) e = E.eval q.scope r e :=
  E.eval_congr e fun c member => E.cell_project plain (reads c member).1 (reads c member).2

theorem holds_append (r : Row V) (ps ps' : List Expr) :
    E.holds scope r (ps ++ ps') = (E.holds scope r ps && E.holds scope r ps') :=
  List.all_append

end reading

section sorting

variable (scope)

theorem atMostBy_trans (keys : List SortKey) (r s t : Row V) (first : E.atMostBy scope keys r s)
    (second : E.atMostBy scope keys s t) : E.atMostBy scope keys r t := by
  induction keys with
  | nil => rfl
  | cons k keys ih =>
    simp only [atMostBy, Bool.and_eq_true, Bool.or_eq_true, Bool.not_eq_true'] at first second ⊢
    generalize E.eval scope r k.expr = a at *
    generalize E.eval scope s k.expr = b at *
    generalize E.eval scope t k.expr = c at *
    refine ⟨E.atMost_trans _ a b c first.1 second.1, ?_⟩
    by_cases back : E.atMost k.descending c a
    · have tie := E.atMost_trans _ b c a second.1 back
      have tie' := E.atMost_trans _ c a b back first.1
      simp only [tie, tie', Bool.true_eq_false, false_or] at first second
      exact .inr (ih first.2 second.2)
    · exact .inl (by simpa using back)

theorem atMostBy_total (keys : List SortKey) (r s : Row V) :
    E.atMostBy scope keys r s || E.atMostBy scope keys s r := by
  induction keys with
  | nil => rfl
  | cons k keys ih =>
    have total := E.atMost_total k.descending (E.eval scope r k.expr) (E.eval scope s k.expr)
    simp only [atMostBy]
    generalize E.atMost k.descending _ _ = a at *
    generalize E.atMost k.descending _ _ = b at *
    cases a <;> cases b <;> simp_all

theorem atMostBy_append (keys keys' : List SortKey) (r s : Row V)
    (finer : E.atMostBy scope (keys ++ keys') r s) : E.atMostBy scope keys r s := by
  induction keys with
  | nil => rfl
  | cons k keys ih =>
    simp only [List.cons_append, atMostBy, Bool.and_eq_true, Bool.or_eq_true] at finer ⊢
    exact ⟨finer.1, finer.2.imp_right ih⟩

theorem sortBy_nil (rows : List (Row V)) : E.sortBy scope [] rows = rows :=
  List.mergeSort_of_pairwise (List.pairwise_of_forall fun _ _ => rfl)

theorem filter_sortBy (keep : Row V → Bool) (keys : List SortKey) (rows : List (Row V)) :
    (E.sortBy scope keys rows).filter keep = E.sortBy scope keys (rows.filter keep) :=
  filter_mergeSort (E.atMostBy_trans scope keys) (E.atMostBy_total scope keys) keep rows

theorem sortBy_sortBy (keys keys' : List SortKey) (rows : List (Row V)) :
    E.sortBy scope (keys ++ keys') (E.sortBy scope keys rows) =
      E.sortBy scope (keys ++ keys') rows :=
  mergeSort_mergeSort (E.atMostBy_trans scope keys) (E.atMostBy_total scope keys)
    (E.atMostBy_trans scope _) (E.atMostBy_total scope _) (E.atMostBy_append scope keys keys') rows

end sorting

end Engine

end ViewQuery.Sql
