import ViewQuery.Proofs.Grammar.Lines
import ViewQuery.Proofs.Scoring.Scheduling
import ViewQuery.Proofs.Validation.Dispatch

set_option autoImplicit false

namespace ViewQuery

namespace Counts

-- Part counts stay within their wholes under addition, hence for every dataset.
structure Coherent (c : Counts) : Prop where
  filters : c.unknownFilters ≤ c.filters
  actions : c.unknownActions ≤ c.actions
  verdicts : c.valid + c.syntaxErrors ≤ c.examples

theorem Coherent.add {a b : Counts} (left : a.Coherent) (right : b.Coherent) :
    (a + b).Coherent where
  filters := Nat.add_le_add left.filters right.filters
  actions := Nat.add_le_add left.actions right.actions
  verdicts := by
    have verdicts := Nat.add_le_add left.verdicts right.verdicts
    rwa [Nat.add_add_add_comm] at verdicts

end Counts

namespace Validator

variable {v : Validator} {view : View} {e : Example} {role : Role} {source : String}

theorem coherent_of_score {c : Counts} (scored : v.score? view e = some c) : c.Coherent := by
  have filters := view.filters.mentions_fst_le e.filters
  have actions := view.actions.mentions_fst_le e.actions
  unfold score? at scored
  simp only at scored
  split at scored
  · obtain rfl := Option.some.inj scored
    exact ⟨filters, actions, Nat.le_refl 1⟩
  · obtain rfl := Option.some.inj scored
    refine ⟨filters, actions, ?_⟩
    rw [Nat.zero_add]
    exact Bool.toNat_le _
  · cases scored

theorem coherent_totals_single (v : Validator) (view : View) (e : Example) :
    (v.totals view [e]).Coherent := by
  rw [totals_single]
  cases scored : v.score? view e with
  | none => exact ⟨Nat.le_refl 0, Nat.le_refl 0, Nat.zero_le 1⟩
  | some c => exact coherent_of_score scored

theorem coherent_totals (v : Validator) (view : View) (es : List Example) :
    (v.totals view es).Coherent := by
  induction es with
  | nil => exact ⟨Nat.le_refl 0, Nat.le_refl 0, Nat.le_refl 0⟩
  | cons e es ih =>
    rw [← List.singleton_append, totals_append]
    exact (coherent_totals_single v view e).add ih

theorem names_eq_of_dispatches {ops : OperationSet} {cs : List Call} {kept : List CheckedCall}
    (dispatches : List.Forall₂ (v.Dispatches ops) cs kept) :
    cs.map Call.name = kept.map CheckedCall.name := by
  induction dispatches with
  | nil => rfl
  | cons dispatch _ ih =>
    rw [List.map_cons, List.map_cons, ih, ← dispatch.named]
    rfl

theorem contains_of_dispatches {ops : OperationSet} {cs : List Call} {kept : List CheckedCall}
    (dispatches : List.Forall₂ (v.Dispatches ops) cs kept) {name : String}
    (member : name ∈ kept.map CheckedCall.name) : ops.contains name = true := by
  obtain ⟨checked, isKept, rfl⟩ := List.mem_map.1 member
  obtain ⟨c, -, dispatch⟩ := exists_left_of_mem dispatches isKept
  exact (ops.contains_iff _).2 (List.mem_map_of_mem dispatch.member)

theorem names_of_check {kept : List CheckedCall} (passes : v.check role source view = .ok kept)
    {names : List String} (found : mentionedNames? source = some names) :
    names = kept.map CheckedCall.name ∧
      ∀ name ∈ names, (view.operations role).contains name = true := by
  obtain ⟨e, read, dispatches⟩ := dispatches_of_check passes
  obtain rfl := names_of_read read found
  have same := names_eq_of_dispatches dispatches
  refine ⟨same, fun name member => ?_⟩
  rw [same] at member
  exact contains_of_dispatches dispatches member

theorem mentions_of_check {kept : List CheckedCall}
    (passes : v.check role source view = .ok kept) :
    ((view.operations role).mentions source).1 = 0 := by
  unfold OperationSet.mentions
  split
  · next names found =>
    refine List.countP_eq_zero.2 fun name member => ?_
    rw [(names_of_check passes found).2 name member]
    exact Bool.false_ne_true
  · rfl

/-- A valid example has no unknown call and no syntax error, and no dataset has more of a part than
of the whole. -/
theorem coherent_counts (v : Validator) (view : View) :
    (∀ e q, v.checkQuery e.filters e.actions view = .ok q →
      (∃ c, v.score? view e = some c ∧ c.valid = 1 ∧ c.syntaxErrors = 0 ∧
        c.unknownFilters = 0 ∧ c.unknownActions = 0) ∧
      (∀ names, mentionedNames? e.filters = some names →
        names = q.filters.map CheckedCall.name ∧ ∀ name ∈ names, view.filters.contains name) ∧
      (∀ names, mentionedNames? e.actions = some names →
        names = q.actions.map CheckedCall.name ∧ ∀ name ∈ names, view.actions.contains name)) ∧
    ∀ limit es, limit ≤ greatestConcurrency →
      ∃ c, v.scoreConcurrently limit view es = some c ∧
        (∀ d, v.Scores view limit es d ↔ d = c) ∧ c.examples = es.length ∧
        c.unknownFilters ≤ c.filters ∧ c.unknownActions ≤ c.actions ∧
        c.valid + c.syntaxErrors ≤ c.examples := by
  refine ⟨fun e q passes => ?_, fun limit es fits => ?_⟩
  · obtain ⟨filters, actions⟩ := checkQuery_eq_ok_iff.1 passes
    refine ⟨⟨_, by rw [score?, passes], rfl, rfl, mentions_of_check filters,
      mentions_of_check actions⟩, fun names => names_of_check filters,
      fun names => names_of_check actions⟩
  · obtain ⟨filters, actions, verdicts⟩ := coherent_totals v view es
    exact ⟨_, scoreConcurrently_eq fits, fun d => scores_iff_eq fits, rfl, filters, actions,
      verdicts⟩

theorem coherent_counts_crash :
    let foo : Operation := ⟨"method_foo", [⟨"idx", .int, none⟩], ""⟩
    let fromCity : Operation := ⟨"from_city", [⟨"city", .str, some "city"⟩], ""⟩
    let view : View :=
      ⟨"Cities", "", ⟨[foo, fromCity], by decide, by decide⟩, ⟨[foo], by decide, by decide⟩⟩
    let v := Validator.default.withResolver "city" .crashing
    let good : Example := ⟨none, none, "method_foo(-1) and method_foo(2)", "method_foo(3)\n", none⟩
    let crash : Example := { Example.blank with filters := "from_city('Paris') and ghost(1)" }
    let q : CheckedQuery :=
      ⟨[⟨foo, [.int (-1)]⟩, ⟨foo, [.int 2]⟩], [⟨foo, [.int 3]⟩]⟩
    v.checkQuery good.filters good.actions view = .ok q ∧
      (∃ c, v.score? view good = some c ∧ c.valid = 1 ∧ c.syntaxErrors = 0 ∧
        c.unknownFilters = 0 ∧ c.unknownActions = 0) ∧
      ∃ c, v.scoreConcurrently 2 view [good, crash] = some c ∧ c.examples = 2 ∧
        c.unknownFilters ≤ c.filters ∧ c.unknownActions ≤ c.actions ∧
        c.valid + c.syntaxErrors ≤ c.examples := by
  intro foo fromCity view v good crash q
  have passes : v.checkQuery good.filters good.actions view = .ok q := by decide +kernel
  obtain ⟨valid, datasets⟩ := coherent_counts v view
  obtain ⟨c, scored, -, examples, bounds⟩ := datasets 2 [good, crash] (by decide +kernel)
  exact ⟨passes, (valid good q passes).1, c, scored, examples, bounds⟩

end Validator

end ViewQuery
