import ViewQuery.Compilation
import ViewQuery.Proofs.Sql.Building
import ViewQuery.Proofs.Validation.Dispatch

/-!
What a runner holds and what its checked calls give.

A runner takes conditions and actions in the order of its texts; compiling takes all conditions
first. Both come to the same query as long as conditions come after such actions only that commute
with them. Sorting is one of these. Limiting is not: a condition that comes later applies to the
rows that the limit left.
-/

set_option autoImplicit false

namespace ViewQuery

-- The call leaves conditions, limit and offset of an unlimited query alone.
def Sql.BuilderCall.commutes : BuilderCall → Bool
  | .act (.orderBy _ _) => true
  | .act _ => false
  | _ => true

namespace Sql.Select

variable {q : Select}

theorem settled_of_unlimited (unlimited : q.isLimited = false) : q.settled = q := by
  rw [settled, unlimited]
  rfl

theorem filterAll_eq (q : Select) {ps : List Expr} (some : ps ≠ []) :
    q.filterAll ps = { q.settled with predicates := q.settled.predicates ++ ps } := by
  simp [filterAll, some]

theorem filterAll_of_unlimited (unlimited : q.isLimited = false) (ps : List Expr) :
    q.filterAll ps = { q with predicates := q.predicates ++ ps } := by
  by_cases none : ps = []
  · rw [none, List.append_nil]
    cases q
    rfl
  · rw [filterAll_eq q none, settled_of_unlimited unlimited]

theorem isLimited_filterAll (q : Select) {ps : List Expr} (some : ps ≠ []) :
    (q.filterAll ps).isLimited = false := by
  rw [filterAll_eq q some]
  exact q.isLimited_settled

theorem filterAll_filterAll (q : Select) (ps ps' : List Expr) :
    (q.filterAll ps).filterAll ps' = q.filterAll (ps ++ ps') := by
  by_cases first : ps = []
  · subst first
    rfl
  by_cases second : ps' = []
  · subst second
    rw [List.append_nil]
    rfl
  have both : ps ++ ps' ≠ [] := by simp [first]
  rw [filterAll_eq _ second, settled_of_unlimited (q.isLimited_filterAll first),
    filterAll_eq q first, filterAll_eq q both, List.append_assoc]

variable {call : BuilderCall} {calls : List BuilderCall}

theorem isLimited_call (unlimited : q.isLimited = false) (commutes : call.commutes) :
    (call.apply q).isLimited = false := by
  cases call with
  | fromTable name => exact unlimited
  | column e => exact unlimited
  | columnAs e label => exact unlimited
  | makeDistinct => exact unlimited
  | act op =>
    cases op with
    | orderBy e descending => exact q.isLimited_settled
    | filterAll _ | limitTo _ | skip _ | wrap => cases commutes

theorem filterAll_call (unlimited : q.isLimited = false) (commutes : call.commutes)
    (ps : List Expr) : call.apply (q.filterAll ps) = (call.apply q).filterAll ps := by
  have still := isLimited_call unlimited commutes
  rw [filterAll_of_unlimited unlimited, filterAll_of_unlimited still]
  cases call with
  | fromTable name => rfl
  | column e => rfl
  | columnAs e label => rfl
  | makeDistinct => rfl
  | act op =>
    cases op with
    | orderBy e descending =>
      have added : ({ q with predicates := q.predicates ++ ps } : Select).isLimited = false :=
        unlimited
      simp only [BuilderCall.apply, BuilderOp.apply, orderBy, settled_of_unlimited added,
        settled_of_unlimited unlimited]
    | filterAll _ | limitTo _ | skip _ | wrap => cases commutes

theorem filterAll_calls (unlimited : q.isLimited = false) (commute : ∀ call ∈ calls, call.commutes)
    (ps : List Expr) :
    calls.foldl BuilderCall.apply (q.filterAll ps) =
        (calls.foldl BuilderCall.apply q).filterAll ps ∧
      (calls.foldl BuilderCall.apply q).isLimited = false := by
  induction calls generalizing q with
  | nil => exact ⟨rfl, unlimited⟩
  | cons call calls ih =>
    obtain ⟨first, others⟩ := List.forall_mem_cons.1 commute
    rw [List.foldl_cons, List.foldl_cons, filterAll_call unlimited first]
    exact ih (isLimited_call unlimited first) others

end Sql.Select

namespace BoundView

variable {b : BoundView}

theorem conditions_append {cs cs' : List CheckedCall} {ps ps' : List Sql.Expr}
    (front : b.conditions cs = .ok ps) (back : b.conditions cs' = .ok ps') :
    b.conditions (cs ++ cs') = .ok (ps ++ ps') := by
  induction cs generalizing ps with
  | nil =>
    obtain rfl : [] = ps := Except.ok.inj front
    exact back
  | cons c cs ih =>
    rw [conditions] at front
    split at front
    · cases front
    next p first =>
      obtain ⟨rest, others, rfl⟩ := map_eq_ok_iff.1 front
      rw [List.cons_append, conditions, first]
      exact map_eq_ok_iff.2 ⟨rest ++ ps', ih others, rfl⟩

theorem applyActions_append {q q' : Sql.Select} {cs : List CheckedCall} (cs' : List CheckedCall)
    (front : b.applyActions q cs = .ok q') :
    b.applyActions q (cs ++ cs') = b.applyActions q' cs' := by
  induction cs generalizing q with
  | nil =>
    obtain rfl : q = q' := Except.ok.inj front
    rfl
  | cons c cs ih =>
    rw [applyActions] at front
    split at front
    · cases front
    next reshaped first =>
      rw [List.cons_append, applyActions, first]
      exact ih front

/-- Each of the calls, at the query that it meets from `q` on, reshapes alike before the conditions
are added and after it. -/
def Commute (b : BoundView) (ps : List Sql.Expr) : Sql.Select → List CheckedCall → Prop
  | _, [] => True
  | q, c :: cs =>
    b.reshape (q.filterAll ps) c = (b.reshape q c).map (·.filterAll ps) ∧
      ∀ q', b.reshape q c = .ok q' → b.Commute ps q' cs

variable {q q' : Sql.Select} {cs : List CheckedCall} {ps : List Sql.Expr}

theorem commute_none (b : BoundView) (q : Sql.Select) (cs : List CheckedCall) :
    b.Commute [] q cs := by
  induction cs generalizing q with
  | nil => trivial
  | cons c cs ih =>
    refine ⟨?_, fun q' _ => ih q'⟩
    change b.reshape q c = (b.reshape q c).map fun q => q
    cases b.reshape q c <;> rfl

theorem Commute.applyActions (commute : b.Commute ps q cs) (gives : b.applyActions q cs = .ok q') :
    b.applyActions (q.filterAll ps) cs = .ok (q'.filterAll ps) := by
  induction cs generalizing q with
  | nil =>
    obtain rfl : q = q' := Except.ok.inj gives
    rfl
  | cons c cs ih =>
    obtain ⟨here, others⟩ := commute
    rw [BoundView.applyActions] at gives
    rw [BoundView.applyActions, here]
    cases first : b.reshape q c with
    | error e => simp [first] at gives
    | ok reshaped =>
      rw [first] at gives
      exact ih (others reshaped first) gives

theorem commute_of_builder (unlimited : q.isLimited = false)
    (bodies : ∀ c ∈ cs, ∃ (body : ActionBody) (calls : List Sql.BuilderCall),
      b.action? c.name = some body ∧
        (∀ q, body q c.args = .ok (calls.foldl Sql.BuilderCall.apply q)) ∧
        ∀ call ∈ calls, call.commutes) : b.Commute ps q cs := by
  induction cs generalizing q with
  | nil => trivial
  | cons c cs ih =>
    obtain ⟨⟨body, calls, bound, builds, commute⟩, others⟩ := List.forall_mem_cons.1 bodies
    obtain ⟨same, still⟩ := Sql.Select.filterAll_calls unlimited commute ps
    have reshape (q : Sql.Select) :
        b.reshape q c = .ok (calls.foldl Sql.BuilderCall.apply q) := by
      simp [BoundView.reshape, bound, builds, Except.mapError]
    refine ⟨?_, fun q' first => ?_⟩
    · rw [reshape, reshape, same]
      rfl
    · rw [reshape] at first
      obtain rfl := Except.ok.inj first
      exact ih still others

theorem compile_eq_ok_iff {checked : CheckedQuery} :
    b.compile checked = .ok q ↔ ∃ ps, b.conditions checked.filters = .ok ps ∧
      b.applyActions (b.base.filterAll ps) checked.actions = .ok q := by
  cases given : b.conditions checked.filters with
  | error e => simp [compile, applyFilters, given, Except.map]
  | ok ps => simp [compile, applyFilters, given, Except.map]

end BoundView

namespace Runner

variable {r r' : Runner} {text : String}

theorem applyFilters_eq_ok (applied : r.applyFilters text = .ok r') :
    ∃ cs ps, r.bound.conditions cs = .ok ps ∧
      r' = { r with
        query := r.query.filterAll ps
        checked := { r.checked with filters := r.checked.filters ++ cs } } := by
  rw [applyFilters] at applied
  split at applied
  · cases applied
  next cs _ =>
    split at applied
    · cases applied
    next filtered gives =>
      obtain ⟨ps, conditions, rfl⟩ := map_eq_ok_iff.1 gives
      exact ⟨cs, ps, conditions, (Except.ok.inj applied).symm⟩

theorem applyActions_eq_ok (applied : r.applyActions text = .ok r') :
    ∃ cs q, r.bound.applyActions r.query cs = .ok q ∧
      r' = { r with
        query := q
        checked := { r.checked with actions := r.checked.actions ++ cs } } := by
  rw [applyActions] at applied
  split at applied
  · cases applied
  next cs _ =>
    split at applied
    · cases applied
    next q gives => exact ⟨cs, q, gives, (Except.ok.inj applied).symm⟩

theorem bound_of_applyActions (applied : r.applyActions text = .ok r') : r'.bound = r.bound := by
  obtain ⟨_, _, _, rfl⟩ := applyActions_eq_ok applied
  rfl

/-- The first runner becomes the last one, text by text. Each call of an action text commutes, at
the query that it meets, with the conditions that are added later. -/
inductive Becomes : Runner → Runner → Prop
  | done {r : Runner} : Becomes r r
  | filters {r r' r'' : Runner} {text : String} (applied : r.applyFilters text = .ok r')
    (later : Becomes r' r'') : Becomes r r''
  | actions {r r' r'' : Runner} {text : String} (applied : r.applyActions text = .ok r')
    (later : Becomes r' r'')
    (commute : ∀ calls cs ps, r'.checked.actions = r.checked.actions ++ calls →
      r''.checked.filters = r'.checked.filters ++ cs → r.bound.conditions cs = .ok ps →
      r.bound.Commute ps r.query calls) : Becomes r r''

theorem Becomes.of_applyActions (applied : r.applyActions text = .ok r') : Becomes r r' := by
  refine .actions applied .done fun calls cs ps _ unchanged conditions => ?_
  obtain rfl : cs = [] := List.append_right_eq_self.1 unchanged.symm
  obtain rfl : [] = ps := Except.ok.inj conditions
  exact BoundView.commute_none r.bound r.query calls

structure Gives (r r' : Runner) (cs calls : List CheckedCall) (ps : List Sql.Expr) : Prop where
  bound : r'.bound = r.bound
  filters : r'.checked.filters = r.checked.filters ++ cs
  conditions : r.bound.conditions cs = .ok ps
  actions : r'.checked.actions = r.checked.actions ++ calls
  query : r.bound.applyActions (r.query.filterAll ps) calls = .ok r'.query

theorem Gives.filters_first {r'' : Runner} {cs calls : List CheckedCall} {ps : List Sql.Expr}
    (applied : r.applyFilters text = .ok r') (later : Gives r' r'' cs calls ps) :
    ∃ cs ps, Gives r r'' cs calls ps := by
  obtain ⟨added, here, conditions, rfl⟩ := applyFilters_eq_ok applied
  refine ⟨added ++ cs, here ++ ps, later.bound, ?_, ?_, later.actions, ?_⟩
  · rw [later.filters, List.append_assoc]
  · exact BoundView.conditions_append conditions later.conditions
  · rw [← Sql.Select.filterAll_filterAll]
    exact later.query

theorem Gives.actions_first {r'' : Runner} {cs calls : List CheckedCall} {ps : List Sql.Expr}
    (applied : r.applyActions text = .ok r') (later : Gives r' r'' cs calls ps)
    (commute : ∀ calls, r'.checked.actions = r.checked.actions ++ calls →
      r.bound.Commute ps r.query calls) : ∃ calls, Gives r r'' cs calls ps := by
  obtain ⟨added, q, gives, rfl⟩ := applyActions_eq_ok applied
  refine ⟨added ++ calls, later.bound, later.filters, later.conditions, ?_, ?_⟩
  · rw [later.actions, List.append_assoc]
  · -- The conditions that are added later go back before the actions.
    have first := (commute added rfl).applyActions gives
    exact (BoundView.applyActions_append calls first).trans later.query

theorem Becomes.gives (becomes : Becomes r r') : ∃ cs calls ps, Gives r r' cs calls ps := by
  induction becomes with
  | @done r =>
    exact ⟨[], [], [], rfl, (List.append_nil _).symm, rfl, (List.append_nil _).symm, rfl⟩
  | filters applied _ ih =>
    obtain ⟨cs, calls, ps, later⟩ := ih
    obtain ⟨cs, ps, gives⟩ := Gives.filters_first applied later
    exact ⟨cs, calls, ps, gives⟩
  | actions applied _ commute ih =>
    obtain ⟨cs, calls, ps, later⟩ := ih
    obtain ⟨calls, gives⟩ := Gives.actions_first applied later fun calls added =>
      commute calls cs ps added later.filters (bound_of_applyActions applied ▸ later.conditions)
    exact ⟨cs, calls, ps, gives⟩

/-- Compiling the checked calls succeeds with the query of the runner, so that runners over one view
with equal checked calls generate the same text. -/
theorem checked_determines_query {b : BoundView} {v : Validator} (becomes : Becomes (start b v) r) :
    b.compile r.checked = .ok r.query ∧
      ∀ (v' : Validator) (r' : Runner), Becomes (start b v') r' → r'.checked = r.checked →
        r'.query = r.query ∧ r'.query.text = r.query.text := by
  have compiled {v : Validator} {r : Runner} (becomes : Becomes (start b v) r) :
      b.compile r.checked = .ok r.query := by
    obtain ⟨cs, calls, ps, gives⟩ := becomes.gives
    refine BoundView.compile_eq_ok_iff.2 ⟨ps, ?_, ?_⟩
    · rw [gives.filters]
      exact gives.conditions
    · rw [gives.actions]
      exact gives.query
  refine ⟨compiled becomes, fun v' r' becomes' same => ?_⟩
  have compiled' := compiled becomes'
  rw [same, compiled becomes] at compiled'
  obtain query : r.query = r'.query := Except.ok.inj compiled'
  exact ⟨query.symm, by rw [query]⟩

namespace Numbers

def onCount (name : String) : Operation := ⟨name, [⟨"n", .int, none⟩], ""⟩

def byValue : Operation := ⟨"sort", [], ""⟩

def single : Operation := ⟨"unique", [], ""⟩

def greater (n : Int64) : Sql.Expr := .compare .gt (.ofName "n") (.literal (.int n))

def bound : BoundView where
  view := ⟨"Numbers", "", ⟨[onCount "above"], by decide, by decide⟩,
    ⟨[onCount "limit", byValue, single], by decide, by decide⟩⟩
  base := .ofTable "numbers"
  filters := [("above", fun args => (args.int 0).map greater)]
  actions := [("limit", fun q args => (args.count 0).map q.limitTo),
    ("sort", fun q _ => .ok (q.orderBy (.ofName "n") false)),
    ("unique", fun q _ => .ok q.makeDistinct)]

def fresh : Runner := start bound .default

def above (n : Int64) : CheckedCall := ⟨onCount "above", [.int n]⟩

def limit (n : Int64) : CheckedCall := ⟨onCount "limit", [.int n]⟩

def sort : CheckedCall := ⟨byValue, []⟩

def unique : CheckedCall := ⟨single, []⟩

end Numbers

open Numbers (fresh above limit sort unique greater)

-- A condition comes after repeats were dropped and the numbers sorted.
theorem checked_determines_query_numbers :
    let sorted := (fresh.query.filter (greater 2)).makeDistinct.orderBy (.ofName "n") false
    let stepwise : Runner := { fresh with
      query := (sorted.filter (greater 3)).limitTo 5
      checked := ⟨[above 2, above 3], [unique, sort, limit 5]⟩ }
    let together : Runner := { fresh with
      query := ((fresh.query.filterAll [greater 2, greater 3]).makeDistinct.orderBy
        (.ofName "n") false).limitTo 5
      checked := ⟨[above 2, above 3], [unique, sort, limit 5]⟩ }
    Becomes fresh stepwise ∧ Becomes fresh together ∧ together.checked = stepwise.checked ∧
      Numbers.bound.compile stepwise.checked = .ok stepwise.query ∧
      together.query = stepwise.query ∧ together.query.text = stepwise.query.text := by
  intro sorted stepwise together
  let filtered : Runner := { fresh with
    query := fresh.query.filter (greater 2), checked := ⟨[above 2], []⟩ }
  let reshaped : Runner := { fresh with query := sorted, checked := ⟨[above 2], [unique, sort]⟩ }
  have commute : Numbers.bound.Commute [greater 3] filtered.query [unique, sort] := by
    refine BoundView.commute_of_builder rfl (List.forall_mem_cons.2
      ⟨⟨_, [.makeDistinct], rfl, fun _ => rfl, by decide⟩, List.forall_mem_singleton.2
        ⟨_, [.act (.orderBy (.ofName "n") false)], rfl, fun _ => rfl, ?_⟩⟩)
    exact List.forall_mem_singleton.2 rfl
  have again : Becomes reshaped stepwise :=
    .filters (rfl : reshaped.applyFilters "above(3)" = .ok _)
      (.of_applyActions (rfl : Runner.applyActions _ "limit(5)" = .ok stepwise))
  have later : Becomes filtered stepwise := by
    refine .actions (rfl : filtered.applyActions "unique()\nsort()" = .ok reshaped) again ?_
    intro calls cs ps added filters conditions
    obtain rfl : [unique, sort] = calls := added
    obtain rfl : [above 3] = cs := (List.cons.inj filters).2
    obtain rfl : [greater 3] = ps := Except.ok.inj conditions
    exact commute
  have steps : Becomes fresh stepwise :=
    .filters (rfl : fresh.applyFilters "above(2)" = .ok filtered) later
  have all : Becomes fresh together :=
    .filters (rfl : fresh.applyFilters "above(2) and above(3)" = .ok _)
      (.of_applyActions (rfl : Runner.applyActions _ "unique()\nsort()\nlimit(5)" = .ok together))
  have determined := checked_determines_query steps
  exact ⟨steps, all, rfl, determined.1, determined.2 .default together all rfl⟩

theorem limit_before_condition :
    let limited : Runner := { fresh with
      query := (fresh.query.limitTo 3).filter (greater 2), checked := ⟨[above 2], [limit 3]⟩ }
    let filtered : Runner := { fresh with
      query := (fresh.query.filter (greater 2)).limitTo 3, checked := ⟨[above 2], [limit 3]⟩ }
    fresh.applyActions "limit(3)" >>= (·.applyFilters "above(2)") = .ok limited ∧
      fresh.applyFilters "above(2)" >>= (·.applyActions "limit(3)") = .ok filtered ∧
      limited.checked = filtered.checked ∧
      limited.query.text = "SELECT * FROM (SELECT * FROM numbers LIMIT 3) AS q1 WHERE n > 2" ∧
      filtered.query.text = "SELECT * FROM numbers WHERE n > 2 LIMIT 3" ∧
      Numbers.bound.compile limited.checked = .ok filtered.query ∧
      Numbers.bound.compile limited.checked ≠ .ok limited.query := by
  intro limited filtered
  have isLimited :
      limited.query.text = "SELECT * FROM (SELECT * FROM numbers LIMIT 3) AS q1 WHERE n > 2" := by
    decide +kernel
  have isFiltered : filtered.query.text = "SELECT * FROM numbers WHERE n > 2 LIMIT 3" := by
    decide +kernel
  have compiled : Numbers.bound.compile limited.checked = .ok filtered.query := rfl
  refine ⟨rfl, rfl, rfl, isLimited, isFiltered, compiled, fun same => ?_⟩
  rw [compiled] at same
  have texts := congrArg Sql.Select.text (Except.ok.inj same)
  rw [isLimited, isFiltered] at texts
  exact absurd texts (by decide)

end Runner

end ViewQuery
