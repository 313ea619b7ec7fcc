import ViewQuery.Proofs.Sql.Building

set_option autoImplicit false

namespace ViewQuery.Sql

namespace Select

def unlimited (q : Select) : Select := { q with limit := none, offset := none }

theorem makeDistinct_of_distinct {q : Select} (distinct : q.distinct) : q.makeDistinct = q := by
  obtain ⟨_, _, _, _, _, _, _⟩ := q
  obtain rfl : _ = true := distinct
  rfl

end Select

namespace Engine

variable {V : Type} [DecidableEq V] (E : Engine V) (tables : String → List (Row V)) {q : Select}

omit E in
theorem eraseDups_unrepeated (distinct : Bool) (rows : List (Row V)) :
    (unrepeated distinct rows).eraseDups = rows.eraseDups := by
  cases distinct with
  | false => rfl
  | true => exact eraseDups_of_nodup (nodup_eraseDups rows)

-- Dropping repeats commutes with sorting.
theorem ordered_makeDistinct (q : Select) (source : List (Row V)) :
    E.ordered q.makeDistinct source = (E.ordered q source).eraseDups := by
  let projected := (source.filter fun r => E.holds q.scope r q.predicates).map
    (E.project q.scope q.projections)
  calc
    E.ordered q.makeDistinct source = E.sortBy q.scope q.sortKeys projected.eraseDups := rfl
    _ = E.sortBy q.scope q.sortKeys (unrepeated q.distinct projected).eraseDups := by
      rw [eraseDups_unrepeated]
    _ = (E.ordered q source).eraseDups :=
      (eraseDups_mergeSort (E.atMostBy_trans _ _) (E.atMostBy_total _ _) _).symm

theorem rows_limited (q : Select) :
    E.rows tables q = window q.limit q.offset (E.rows tables q.unlimited) := by
  rw [rows_unlimited E tables (q := q.unlimited) rfl, rows_eq]
  rfl

omit [DecidableEq V] in
theorem window_sublist (limit offset : Option Nat) (rows : List (Row V)) :
    (window limit offset rows).Sublist rows := by
  cases limit with
  | none => exact List.drop_sublist _ _
  | some n => exact (List.take_sublist _ _).trans (List.drop_sublist _ _)

theorem rows_makeDistinct_unlimited (unlimited : q.isLimited = false) :
    E.rows tables q.makeDistinct = (E.rows tables q).eraseDups := by
  rw [rows_unlimited E tables unlimited, rows_unlimited E tables (q := q.makeDistinct) unlimited]
  exact E.ordered_makeDistinct q _

theorem nodup_rows (distinct : q.distinct) : (E.rows tables q).Nodup := by
  rw [rows_eq, select]
  refine .sublist (window_sublist _ _ _) ?_
  rw [← Select.makeDistinct_of_distinct distinct, ordered_makeDistinct]
  exact nodup_eraseDups _

/-- Repeats are dropped from the rows before limit and offset. They are dropped from the rows of the
query where it has neither, where it is distinct already and where it is wrapped first. -/
theorem rows_makeDistinct (q : Select) :
    E.rows tables q.makeDistinct =
      window q.limit q.offset (E.rows tables q.unlimited).eraseDups ∧
    (q.isLimited = false ∨ q.distinct →
      E.rows tables q.makeDistinct = (E.rows tables q).eraseDups) ∧
    E.rows tables q.settled.makeDistinct = (E.rows tables q).eraseDups := by
  refine ⟨?_, ?_, ?_⟩
  · rw [rows_limited]
    congr 1
    exact E.rows_makeDistinct_unlimited tables (q := q.unlimited) rfl
  · rintro (unlimited | distinct)
    · exact E.rows_makeDistinct_unlimited tables unlimited
    · rw [Select.makeDistinct_of_distinct distinct,
        eraseDups_of_nodup (E.nodup_rows tables distinct)]
  · rw [← E.rows_settled tables q]
    exact E.rows_makeDistinct_unlimited tables q.isLimited_settled

theorem rows_ofTable (name : String) : E.rows tables (Select.ofTable name) = tables name := by
  rw [rows_unlimited E tables rfl]
  simp only [ordered, Select.ofTable, Select.fromTable, Select.empty, holds, unrepeated,
    sortBy_nil, List.all_nil, List.filter_true]
  exact List.map_id'' (fun _ => rfl) _

-- The limit let the first two rows through, which are the same; without repeats it lets through a
-- third.
theorem makeDistinct_after_limit :
    let q := (Select.ofTable "t").limitTo 2
    let tables := fun _ => [[("a", some 1)], [("a", some 1)], [("a", some 2)]]
    q.makeDistinct.text = "SELECT DISTINCT * FROM t LIMIT 2" ∧
      integers.rows tables q.makeDistinct = [[("a", some 1)], [("a", some 2)]] ∧
      (integers.rows tables q).eraseDups = [[("a", some 1)]] := by
  intro q tables
  refine ⟨by decide +kernel, ?_, ?_⟩
  · have unlimited := integers.rows_makeDistinct_unlimited tables (q := .ofTable "t") rfl
    rw [rows_limited, show q.makeDistinct.unlimited = (Select.ofTable "t").makeDistinct from rfl,
      unlimited, rows_ofTable]
    decide
  · rw [rows_limitTo, rows_ofTable]
    decide

end Engine

end ViewQuery.Sql
