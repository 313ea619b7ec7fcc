import ViewQuery.View

set_option autoImplicit false

namespace ViewQuery

theorem Operation.misplacedHint?_eq_none_iff {o : Operation} :
    o.misplacedHint? = none ↔ ∀ p ∈ o.params, p.similarity.isSome → p.type = .str := by
  simp [misplacedHint?, Parameter.misplacesHint]

theorem wellFormedOperations_iff {ops : List Operation} :
    WellFormedOperations ops ↔
      (∀ o ∈ ops, ∀ p ∈ o.params, p.similarity.isSome → p.type = .str) ∧
        (ops.map Operation.name).Nodup := by
  constructor
  · intro ⟨names, hints⟩
    exact ⟨fun o member => Operation.misplacedHint?_eq_none_iff.1 (hints o member), names⟩
  · intro ⟨hints, names⟩
    exact ⟨names, fun o member => Operation.misplacedHint?_eq_none_iff.2 (hints o member)⟩

namespace OperationTable

variable {view : String} {before before' after after' ops : List Operation} {o o' : Operation}
  {e e' : ViewError}

theorem Fault.unique (first : Fault view before o e) (second : Fault view before o e') :
    e = e' := by
  cases first <;> cases second <;> simp_all

-- Of two places the later one would come after an operation at fault.
theorem Fault.place_unique (wellFormed : WellFormedOperations before)
    (wellFormed' : WellFormedOperations before') (fault : Fault view before o e)
    (fault' : Fault view before' o' e') (same : before ++ o :: after = before' ++ o' :: after') :
    before = before' ∧ o = o' := by
  rcases List.append_eq_append_iff.1 same with ⟨middle, rfl, rest⟩ | ⟨middle, rfl, rest⟩
  · cases middle with
    | nil => exact ⟨by simp, (List.cons.inj rest).1⟩
    | cons p middle =>
      obtain ⟨rfl, -⟩ := List.cons.inj rest
      exact absurd wellFormed' fault.not_wellFormed
  · cases middle with
    | nil => exact ⟨by simp, (List.cons.inj rest).1.symm⟩
    | cons p middle =>
      obtain ⟨rfl, -⟩ := List.cons.inj rest
      exact absurd wellFormed fault'.not_wellFormed

theorem addAll_eq_error_iff :
    empty.addAll view ops = .error e ↔
      ∃ before o after, ops = before ++ o :: after ∧ WellFormedOperations before ∧
        Fault view before o e := by
  rcases addAll_cases inStep_empty wellFormed_empty view ops with
    ⟨wellFormed, done⟩ | ⟨before, o, after, e', shape, wellFormed, fault, refused⟩
  · have wellFormed : WellFormedOperations ops := wellFormed
    simp only [done, reduceCtorEq, false_iff]
    intro ⟨before, o, after, shape, _, fault⟩
    exact fault.not_wellFormed (shape ▸ wellFormed)
  · simp only [refused, Except.error.injEq]
    constructor
    · rintro rfl
      exact ⟨before, o, after, shape, wellFormed, fault⟩
    · intro ⟨before', o', after', shape', wellFormed', fault'⟩
      obtain ⟨rfl, rfl⟩ := Fault.place_unique wellFormed wellFormed' fault fault' (shape ▸ shape')
      exact fault.unique fault'

end OperationTable

namespace OperationSet

variable {view : String} {ops : List Operation} {s : OperationSet} {e : ViewError}

theorem ofList_eq_error_iff :
    ofList view ops = .error e ↔
      ∃ before o after, ops = before ++ o :: after ∧ WellFormedOperations before ∧
        OperationTable.Fault view before o e := by
  rw [← OperationTable.addAll_eq_error_iff, ofList]
  split
  · next refused => simp [refused]
  · next added => simp [added]

theorem exists_ofList_iff : (∃ s, ofList view ops = .ok s) ↔ WellFormedOperations ops := by
  simp only [ofList_eq_ok_iff]
  constructor
  · intro ⟨_, wellFormed, _⟩
    exact wellFormed
  · intro wellFormed
    exact ⟨⟨ops, wellFormed⟩, wellFormed, rfl⟩

theorem ofList_toList (view : String) (s : OperationSet) : ofList view s.toList = .ok s :=
  ofList_eq_ok_iff.2 ⟨s.wellFormed, rfl⟩

theorem table_of_ofList (built : ofList view ops = .ok s) :
    OperationTable.empty.addAll view ops = .ok s.table := by
  obtain ⟨wellFormed, rfl⟩ := ofList_eq_ok_iff.1 built
  exact OperationTable.addAll_eq_ok_iff.2 ⟨wellFormed, rfl⟩

end OperationSet

namespace View

theorem ofDeclaration_eq_ok_iff {d : Declaration} {v : View} :
    ofDeclaration d = .ok v ↔
      OperationSet.ofList d.name d.filters = .ok v.filters ∧
        OperationSet.ofList d.name d.actions = .ok v.actions ∧
        v.name = d.name ∧ v.description = d.description := by
  obtain ⟨name, description, filters, actions⟩ := v
  unfold ofDeclaration
  cases OperationSet.ofList d.name d.filters with
  | error e => simp
  | ok fs =>
    cases OperationSet.ofList d.name d.actions with
    | error e => simp
    | ok as =>
      simp only [Except.ok.injEq, mk.injEq]
      grind

theorem declaration_of_ofDeclaration {d : Declaration} {v : View}
    (built : ofDeclaration d = .ok v) : v.declaration = d := by
  obtain ⟨filters, actions, name, description⟩ := ofDeclaration_eq_ok_iff.1 built
  rw [declaration, name, description, (OperationSet.ofList_eq_ok_iff.1 filters).2,
    (OperationSet.ofList_eq_ok_iff.1 actions).2]

theorem ofDeclaration_declaration (v : View) : ofDeclaration v.declaration = .ok v :=
  ofDeclaration_eq_ok_iff.2
    ⟨OperationSet.ofList_toList v.name v.filters, OperationSet.ofList_toList v.name v.actions,
      rfl, rfl⟩

/-- Operations form a set exactly if only `str` parameters name a resolver and no two of them share
a name; otherwise the first one at fault is reported, a misplaced resolver before a repeated name.
The index of the set leads from each name to its operation, and from no other text anywhere. A view
gives back the declaration it was built from, and is built again from its own. -/
theorem built_as_declared :
    (∀ view ops,
      ((∃ s, OperationSet.ofList view ops = .ok s) ↔
        (∀ o ∈ ops, ∀ p ∈ o.params, p.similarity.isSome → p.type = .str) ∧
          (ops.map Operation.name).Nodup) ∧
      (∀ e, OperationSet.ofList view ops = .error e ↔
        ∃ before o after, ops = before ++ o :: after ∧ WellFormedOperations before ∧
          OperationTable.Fault view before o e) ∧
      ∀ s, OperationSet.ofList view ops = .ok s →
        OperationTable.empty.addAll view ops = .ok s.table ∧ s.toList = ops ∧
        (∀ name i, s.table.index.lookup name = some i ↔ ∃ o, ops[i]? = some o ∧ o.name = name) ∧
        (∀ o ∈ ops, s.get? o.name = some o) ∧
        (∀ name, name ∉ ops.map Operation.name → s.get? name = none) ∧
        ∀ name, s.contains name = (s.get? name).isSome) ∧
    (∀ d v, ofDeclaration d = .ok v → v.declaration = d) ∧
    ∀ v, ofDeclaration v.declaration = .ok v := by
  refine ⟨fun view ops => ⟨?_, fun e => OperationSet.ofList_eq_error_iff, fun s built => ?_⟩,
    fun d v => declaration_of_ofDeclaration, ofDeclaration_declaration⟩
  · rw [OperationSet.exists_ofList_iff, wellFormedOperations_iff]
  · obtain ⟨-, rfl⟩ := OperationSet.ofList_eq_ok_iff.1 built
    refine ⟨OperationSet.table_of_ofList built, rfl, fun name i => ?_, fun o member => ?_,
      fun name unknown => ?_, s.contains_eq_isSome_get?⟩
    · rw [s.inStep_table name i, s.ops_table]
    · exact OperationSet.get?_eq_some_iff.2 ⟨member, rfl⟩
    · rw [Option.eq_none_iff_forall_ne_some]
      intro o found
      obtain ⟨member, rfl⟩ := OperationSet.get?_eq_some_iff.1 found
      exact unknown (List.mem_map_of_mem member)

end View

end ViewQuery
