import ViewQuery.Database

set_option autoImplicit false

namespace ViewQuery

def Budget.Admits (b : Budget) (count : Nat) : Prop := ∀ limit, b.rows = some limit → count ≤ limit

namespace Database

section stream

variable {width sofar n : Nat} {limit : Option Nat} {fetches rest : List Fetch} {rows : List Row}
  {cells : List Cell}

theorem readRow_eq_ok (readable : width ≤ cells.length) :
    readRow width cells = .ok (cells.take width) := if_neg (Nat.not_lt.2 readable)

theorem readRows_full (full : n ≤ sofar) :
    readRows width (some n) sofar (.row cells :: rest) = (.error (.tooManyRows n), rest) := by
  have reached : (some n).filter (· ≤ sofar) = some n := Option.filter_eq_some_iff.2 (by simpa)
  rw [readRows, reached]

theorem readRows_room (room : ∀ n, limit = some n → sofar < n) :
    readRows width limit sofar (.row cells :: rest) =
      match readRow width cells with
      | .error e => (.error e, rest)
      | .ok row =>
        ((readRows width limit (sofar + 1) rest).1.map (row :: ·),
          (readRows width limit (sofar + 1) rest).2) := by
  have unreached : limit.filter (· ≤ sofar) = none := by
    rw [Option.filter_eq_none_iff]
    intro n isLimit
    simpa using room n isLimit
  cases isRow : readRow width cells <;> simp only [readRows, unreached, isRow]

-- Rows within the limit are read, and the stream goes on behind them.
theorem readRows_append (readable : ∀ cells ∈ rows, width ≤ cells.length)
    (within : ∀ n, limit = some n → sofar + rows.length ≤ n) (rest : List Fetch) :
    readRows width limit sofar (rows.map .row ++ rest) =
      ((readRows width limit (sofar + rows.length) rest).1.map (rows.map (·.take width) ++ ·),
        (readRows width limit (sofar + rows.length) rest).2) := by
  induction rows generalizing sofar with
  | nil =>
    cases later : readRows width limit sofar rest with
    | mk result unread => cases result <;> simp [later, Except.map]
  | cons cells rows ih =>
    obtain ⟨first, others⟩ := List.forall_mem_cons.1 readable
    have count : sofar + (cells :: rows).length = sofar + 1 + rows.length := by
      rw [List.length_cons]
      omega
    rw [count] at within ⊢
    have room : ∀ n, limit = some n → sofar < n := fun n isLimit => by
      have := within n isLimit
      omega
    rw [List.map_cons, List.cons_append, readRows_room room, readRow_eq_ok first, ih others within]
    cases (readRows width limit (sofar + 1 + rows.length) rest).1 <;> rfl

theorem length_le_of_readRows (room : sofar ≤ n)
    (read : (readRows width (some n) sofar fetches).1 = .ok rows) : sofar + rows.length ≤ n := by
  induction fetches generalizing sofar rows with
  | nil =>
    obtain rfl := Except.ok.inj read
    exact room
  | cons fetch fetches ih =>
    cases fetch with
    | fault message => simp [readRows] at read
    | row cells =>
      by_cases full : n ≤ sofar
      · simp [readRows_full full] at read
      · rw [readRows_room (by simpa using full)] at read
        split at read
        · simp at read
        · cases later : (readRows width (some n) (sofar + 1) fetches).1 with
          | error e => simp [later, Except.map] at read
          | ok others =>
            have bound := ih (Nat.not_le.1 full) later
            rw [later] at read
            obtain rfl := Except.ok.inj read
            rw [List.length_cons]
            omega

end stream

section budget

variable {width : Nat} {budget : Budget} {fetches rest : List Fetch} {rows : List Row}

/-- How a stream of rows that can be read ends under a budget, and what of it is not read. -/
inductive Ends (width : Nat) (budget : Budget) :
    List Fetch → Except ExecutionError (List Row) → List Fetch → Prop
  | complete (rows : List Row) : budget.Admits rows.length →
      Ends width budget (rows.map .row) (.ok (rows.map (·.take width))) []
  | exceeded (rows : List Row) (cells : List Cell) (rest : List Fetch) :
      budget.rows = some rows.length →
      Ends width budget (rows.map .row ++ .row cells :: rest)
        (.error (.tooManyRows rows.length)) rest
  | faulty (rows : List Row) (message : String) (rest : List Fetch) : budget.Admits rows.length →
      Ends width budget (rows.map .row ++ .fault message :: rest) (.error (.database message)) rest

theorem readable_rows (readable : ∀ cells, .row cells ∈ fetches → width ≤ cells.length)
    (front : rows.map .row <+: fetches) : ∀ cells ∈ rows, width ≤ cells.length :=
  fun cells member => readable cells (front.subset (List.mem_map_of_mem member))

theorem Ends.readRows_eq {result : Except ExecutionError (List Row)} {unread : List Fetch}
    (ends : Ends width budget fetches result unread)
    (readable : ∀ cells, .row cells ∈ fetches → width ≤ cells.length) :
    readRows width budget.rows 0 fetches = (result, unread) := by
  cases ends with
  | complete rows within =>
    have all : readRows width budget.rows 0 (rows.map .row ++ []) = _ :=
      readRows_append (readable_rows readable (List.prefix_refl _))
        (by simpa [Budget.Admits] using within) []
    rw [List.append_nil] at all
    simp [all, readRows, Except.map]
  | exceeded rows cells rest isLimit =>
    rw [readRows_append (readable_rows readable (List.prefix_append _ _)) (by simp [isLimit]),
      isLimit, readRows_full (Nat.le_add_left _ _)]
    rfl
  | faulty rows message rest within =>
    rw [readRows_append (readable_rows readable (List.prefix_append _ _))
      (by simpa [Budget.Admits] using within)]
    rfl

theorem exists_rows (fetches : List Fetch) :
    ∃ rows : List Row, fetches = rows.map .row ∨
      ∃ message rest, fetches = rows.map .row ++ .fault message :: rest := by
  induction fetches with
  | nil => exact ⟨[], .inl rfl⟩
  | cons fetch fetches ih =>
    cases fetch with
    | fault message => exact ⟨[], .inr ⟨message, fetches, rfl⟩⟩
    | row cells =>
      obtain ⟨rows, rfl | ⟨message, rest, rfl⟩⟩ := ih
      · exact ⟨cells :: rows, .inl rfl⟩
      · exact ⟨cells :: rows, .inr ⟨message, rest, rfl⟩⟩

theorem admits_or_exceeds (budget : Budget) (rows : List Row) :
    budget.Admits rows.length ∨ ∃ (front : List Row) (cells : List Cell) (back : List Row),
      budget.rows = some front.length ∧ rows = front ++ cells :: back := by
  by_cases within : budget.Admits rows.length
  · exact .inl within
  · obtain ⟨limit, isLimit, excess⟩ : ∃ limit, budget.rows = some limit ∧ limit < rows.length := by
      simpa [Budget.Admits] using within
    refine .inr ⟨rows.take limit, rows[limit], rows.drop (limit + 1), ?_, ?_⟩
    · rw [List.length_take_of_le (Nat.le_of_lt excess), isLimit]
    · rw [List.getElem_cons_drop, List.take_append_drop]

theorem exists_ends (width : Nat) (budget : Budget) (fetches : List Fetch) :
    ∃ result unread, Ends width budget fetches result unread := by
  obtain ⟨rows, stream⟩ := exists_rows fetches
  rcases admits_or_exceeds budget rows with within | ⟨front, cells, back, isLimit, rfl⟩
  · rcases stream with rfl | ⟨message, rest, rfl⟩
    · exact ⟨_, _, .complete rows within⟩
    · exact ⟨_, _, .faulty rows message rest within⟩
  · have exceeded (rest : List Fetch) :
        Ends width budget (front.map .row ++ .row cells :: rest) _ rest :=
      .exceeded front cells rest isLimit
    rcases stream with rfl | ⟨message, rest, rfl⟩
    · rw [List.map_append]
      exact ⟨_, _, exceeded _⟩
    · rw [List.map_append, List.append_assoc]
      exact ⟨_, _, exceeded _⟩

end budget

section execute

variable {d : Database} {budget : Budget} {columns : List String} {fetches : List Fetch}
  {later : List Recorded}

theorem limitMemory_eq_ok (sets : budget.megabytes = none ∨ d.settingFault = none) :
    ∃ d' : Database, d.limitMemory budget.megabytes = (.ok (), d') ∧ d'.recorded = d.recorded := by
  cases memory : budget.megabytes with
  | none => exact ⟨d, rfl, rfl⟩
  | some megabytes =>
    have settable : d.settingFault = none := sets.resolve_left (by simp [memory])
    exact ⟨d.receive (memoryStatement megabytes), by rw [limitMemory, settable], rfl⟩

theorem execute_table (sets : budget.megabytes = none ∨ d.settingFault = none)
    (answers : d.recorded = .table columns fetches :: later) (sql : String) :
    (d.execute sql budget).1 =
      (readRows columns.length budget.rows 0 fetches).1.map fun rows => ⟨columns, rows⟩ := by
  obtain ⟨d', limited, same⟩ := limitMemory_eq_ok sets
  simp only [execute, limited, ask, same.trans answers]

section ends

variable (sets : budget.megabytes = none ∨ d.settingFault = none)
  (answers : d.recorded = .table columns fetches :: later)
  (readable : ∀ cells, .row cells ∈ fetches → columns.length ≤ cells.length) (sql : String)

include sets answers readable

theorem exists_ends_of_execute :
    ∃ read unread, Ends columns.length budget fetches read unread ∧
      (d.execute sql budget).1 = read.map fun rows => ⟨columns, rows⟩ := by
  obtain ⟨read, unread, ends⟩ := exists_ends columns.length budget fetches
  exact ⟨read, unread, ends, by rw [execute_table sets answers, ends.readRows_eq readable]⟩

theorem execute_eq_ok_iff {t : Table} : (d.execute sql budget).1 = .ok t ↔
    ∃ rows unread, Ends columns.length budget fetches (.ok rows) unread ∧ t = ⟨columns, rows⟩ := by
  constructor
  · intro isTable
    obtain ⟨read, unread, ends, same⟩ := exists_ends_of_execute sets answers readable sql
    cases read with
    | error e => cases same.symm.trans isTable
    | ok rows => exact ⟨rows, unread, ends, (Except.ok.inj (same.symm.trans isTable)).symm⟩
  · rintro ⟨rows, unread, ends, rfl⟩
    rw [execute_table sets answers, ends.readRows_eq readable]
    rfl

theorem execute_eq_error_iff {e : ExecutionError} : (d.execute sql budget).1 = .error e ↔
    ∃ unread, Ends columns.length budget fetches (.error e) unread := by
  constructor
  · intro isError
    obtain ⟨read, unread, ends, same⟩ := exists_ends_of_execute sets answers readable sql
    cases read with
    | error e' => exact ⟨unread, Except.error.inj (same.symm.trans isError) ▸ ends⟩
    | ok rows => cases same.symm.trans isError
  · rintro ⟨unread, ends⟩
    rw [execute_table sets answers, ends.readRows_eq readable]
    rfl

end ends

theorem readRows_of_execute {sql : String} {t : Table}
    (result : (d.execute sql budget).1 = .ok t) :
    ∃ (columns : List String) (fetches : List Fetch),
      (readRows columns.length budget.rows 0 fetches).1 = .ok t.rows := by
  unfold execute at result
  split at result
  · simp at result
  · split at result
    · simp at result
    · simp at result
    · next columns fetches _ _ =>
      refine ⟨columns, fetches, ?_⟩
      cases read : (readRows columns.length budget.rows 0 fetches).1 with
      | error e => simp [read, Except.map] at result
      | ok rows =>
        rw [read] at result
        rw [← Except.ok.inj result]

/-- No result holds more rows than the limit. If the database answers with a stream of rows that can
be read and of faults, there is a result exactly if the stream has no fault and keeps the limit, and
it holds all of the rows in order. The limit is exceeded exactly if one row too many comes before
any fault, and nothing behind that row is read. In all other cases the first fault is the error. -/
theorem execute_within_budget (d : Database) (sql : String) (budget : Budget) :
    let result := (d.execute sql budget).1
    (∀ t limit, result = .ok t → budget.rows = some limit →
      t.rows.length ≤ limit ∧ (limit = 0 → t.rows = [])) ∧
    ∀ columns fetches later, budget.megabytes = none ∨ d.settingFault = none →
      d.recorded = .table columns fetches :: later →
      (∀ cells, .row cells ∈ fetches → columns.length ≤ cells.length) →
      (∀ t, result = .ok t ↔ ∃ rows : List Row, fetches = rows.map .row ∧
        budget.Admits rows.length ∧ t = ⟨columns, rows.map (·.take columns.length)⟩) ∧
      (∀ t, result = .ok t → t.toJson =
        .obj [("columns", .arr (columns.map .str)),
          ("rows", .arr (t.rows.map fun row => .arr (row.map Cell.toJson))),
          ("row_count", .int fetches.length)]) ∧
      (∀ limit, result = .error (.tooManyRows limit) ↔ budget.rows = some limit ∧
        ∃ (rows : List Row) (cells : List Cell) (rest : List Fetch),
          rows.length = limit ∧ fetches = rows.map .row ++ .row cells :: rest) ∧
      (∀ (rows : List Row) (cells : List Cell) (rest : List Fetch),
        budget.rows = some rows.length → fetches = rows.map .row ++ .row cells :: rest →
        (readRows columns.length budget.rows 0 fetches).2 = rest) ∧
      ∀ message, result = .error (.database message) ↔
        ∃ (rows : List Row) (rest : List Fetch), budget.Admits rows.length ∧
          fetches = rows.map .row ++ .fault message :: rest := by
  intro result
  refine ⟨fun t limit isTable isLimit => ?_,
    fun columns fetches later sets answers readable => ?_⟩
  · obtain ⟨columns, fetches, read⟩ := readRows_of_execute isTable
    rw [isLimit] at read
    have bound : t.rows.length ≤ limit := by
      simpa using length_le_of_readRows (Nat.zero_le limit) read
    exact ⟨bound, fun none => List.eq_nil_of_length_eq_zero (by omega)⟩
  have ended {t : Table} := execute_eq_ok_iff sets answers readable sql (t := t)
  have failed {e : ExecutionError} := execute_eq_error_iff sets answers readable sql (e := e)
  refine ⟨fun t => ended.trans ⟨?_, ?_⟩, fun t isTable => ?_,
    fun limit => failed.trans ⟨?_, ?_⟩, ?_, fun message => failed.trans ⟨?_, ?_⟩⟩
  · rintro ⟨_, _, ⟨rows, within⟩, rfl⟩
    exact ⟨rows, rfl, within, rfl⟩
  · rintro ⟨rows, rfl, within, rfl⟩
    exact ⟨_, _, .complete rows within, rfl⟩
  · obtain ⟨_, _, ⟨rows, -⟩, rfl⟩ := ended.1 isTable
    simp [Table.toJson]
  · rintro ⟨rest, ends⟩
    cases ends with
    | exceeded rows cells _ isLimit => exact ⟨isLimit, rows, cells, rest, rfl, rfl⟩
  · rintro ⟨isLimit, rows, cells, rest, rfl, rfl⟩
    exact ⟨rest, .exceeded rows cells rest isLimit⟩
  · rintro rows cells rest isLimit rfl
    rw [(Ends.exceeded rows cells rest isLimit).readRows_eq readable]
  · rintro ⟨rest, ends⟩
    cases ends with
    | faulty rows _ _ within => exact ⟨rows, rest, within, rfl⟩
  · rintro ⟨rows, rest, within, rfl⟩
    exact ⟨rest, .faulty rows message rest within⟩

-- The fault comes behind the row that is one too many.
theorem execute_within_budget_exceeded :
    let row : List Cell := [.integer .int 1, .null]
    let fetches : List Fetch := [.row row, .row row, .row row, .fault "lost"]
    let d := Database.ofRecorded [.table ["a", "b"] fetches]
    let budget : Budget := ⟨some 2, some 64⟩
    d.settingFault = none ∧ d.recorded = [.table ["a", "b"] fetches] ∧
      (∀ cells, .row cells ∈ fetches → ["a", "b"].length ≤ cells.length) ∧
      (d.execute "SELECT 1" budget).1 = .error (.tooManyRows 2) ∧
      (readRows 2 budget.rows 0 fetches).2 = [.fault "lost"] := by
  intro row fetches d budget
  have readable : ∀ cells, .row cells ∈ fetches → ["a", "b"].length ≤ cells.length := by
    intro cells member
    obtain rfl : cells = row := by simpa [fetches] using member
    decide
  obtain ⟨-, -, exceeded, unread, -⟩ :=
    (execute_within_budget d "SELECT 1" budget).2 ["a", "b"] fetches [] (.inr rfl) rfl readable
  have parts : fetches = [row, row].map .row ++ .row row :: [.fault "lost"] := rfl
  exact ⟨rfl, rfl, readable, (exceeded 2).2 ⟨rfl, [row, row], row, _, rfl, parts⟩,
    unread [row, row] row _ rfl parts⟩

end execute

end Database

end ViewQuery
