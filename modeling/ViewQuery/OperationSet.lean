import ViewQuery.Operation

set_option autoImplicit false

namespace ViewQuery

structure WellFormedOperations (ops : List Operation) : Prop where
  names_nodup : (ops.map Operation.name).Nodup
  hints : ∀ o ∈ ops, o.misplacedHint? = none

theorem wellFormed_append_singleton {ops : List Operation} {o : Operation} :
    WellFormedOperations (ops ++ [o]) ↔
      WellFormedOperations ops ∧ o.misplacedHint? = none ∧ o.name ∉ ops.map Operation.name := by
  constructor
  · intro ⟨names, hints⟩
    rw [List.map_append, List.nodup_append] at names
    grind [WellFormedOperations]
  · intro ⟨⟨names, hints⟩, noHint, fresh⟩
    constructor
    · rw [List.map_append, List.nodup_append]
      grind
    · grind

-- Operations in order, and the place of each under its name.
structure OperationTable where
  ops : List Operation
  -- a later entry comes before the earlier ones
  index : List (String × Nat)
  deriving DecidableEq

namespace OperationTable

def empty : OperationTable := ⟨[], []⟩

variable (t : OperationTable)

def contains (name : String) : Bool := (t.index.lookup name).isSome

def get? (name : String) : Option Operation := (t.index.lookup name).bind fun i => t.ops[i]?

def insert (o : Operation) : OperationTable := ⟨t.ops ++ [o], (o.name, t.ops.length) :: t.index⟩

def insertAll (ops : List Operation) : OperationTable := ops.foldl insert t

def add (view : String) (o : Operation) : Except ViewError OperationTable :=
  match o.misplacedHint? with
  | some p => .error (.hintMisplaced o.name p.name)
  | none =>
    if t.contains o.name then .error (.operationRepeated view o.name) else .ok (t.insert o)

def addAll (view : String) (ops : List Operation) : Except ViewError OperationTable :=
  ops.foldlM (fun t o => t.add view o) t

def InStep : Prop :=
  ∀ name i, t.index.lookup name = some i ↔ ∃ o, t.ops[i]? = some o ∧ o.name = name

variable {t} {t' : OperationTable} {view : String} {o : Operation} {ops : List Operation}

theorem inStep_empty : empty.InStep := by simp [InStep, empty]

theorem InStep.contains_iff (inStep : t.InStep) (name : String) :
    t.contains name = true ↔ name ∈ t.ops.map Operation.name := by
  rw [contains, Option.isSome_iff_exists, List.mem_map]
  simp only [inStep name, List.mem_iff_getElem?]
  grind

theorem InStep.get?_eq_some_iff (inStep : t.InStep) {name : String} :
    t.get? name = some o ↔ o ∈ t.ops ∧ o.name = name := by
  rw [get?, Option.bind_eq_some_iff, List.mem_iff_getElem?]
  simp only [inStep name]
  grind

theorem InStep.contains_eq_isSome_get? (inStep : t.InStep) (name : String) :
    t.contains name = (t.get? name).isSome := by
  rw [Bool.eq_iff_iff, inStep.contains_iff, Option.isSome_iff_exists, List.mem_map]
  simp only [inStep.get?_eq_some_iff]

theorem InStep.insert (inStep : t.InStep) (fresh : o.name ∉ t.ops.map Operation.name) :
    (t.insert o).InStep := by
  intro name i
  have known := inStep name i
  by_cases isNew : name = o.name
  · simp [OperationTable.insert, isNew] at *
    grind
  · simp [OperationTable.insert, List.lookup_cons, beq_false_of_ne isNew, known]
    grind

inductive Fault (view : String) (before : List Operation) (o : Operation) : ViewError → Prop
  | hint {p : Parameter} : o.misplacedHint? = some p →
      Fault view before o (.hintMisplaced o.name p.name)
  | name : o.misplacedHint? = none → o.name ∈ before.map Operation.name →
      Fault view before o (.operationRepeated view o.name)

theorem add_cases (inStep : t.InStep) (view : String) (o : Operation) :
    (o.misplacedHint? = none ∧ o.name ∉ t.ops.map Operation.name ∧
      t.add view o = .ok (t.insert o)) ∨
    ∃ e, Fault view t.ops o e ∧ t.add view o = .error e := by
  have known := inStep.contains_iff o.name
  unfold add
  cases hint : o.misplacedHint? with
  | some p => exact .inr ⟨_, .hint hint, rfl⟩
  | none =>
    by_cases repeated : t.contains o.name
    · exact .inr ⟨_, .name hint (known.1 repeated), by simp [repeated]⟩
    · exact .inl ⟨rfl, by simpa [known] using repeated, by simp [repeated]⟩

theorem addAll_cases (inStep : t.InStep) (wellFormed : WellFormedOperations t.ops) (view : String)
    (ops : List Operation) :
    (WellFormedOperations (t.ops ++ ops) ∧ t.addAll view ops = .ok (t.insertAll ops)) ∨
    ∃ before o after e, ops = before ++ o :: after ∧ WellFormedOperations (t.ops ++ before) ∧
      Fault view (t.ops ++ before) o e ∧ t.addAll view ops = .error e := by
  induction ops generalizing t with
  | nil => exact .inl ⟨by simpa using wellFormed, rfl⟩
  | cons o ops ih =>
    rcases add_cases inStep view o with ⟨noHint, fresh, added⟩ | ⟨e, fault, refused⟩
    · have entered := wellFormed_append_singleton.2 ⟨wellFormed, noHint, fresh⟩
      have next : t.addAll view (o :: ops) = (t.insert o).addAll view ops := by
        simp [addAll, added, bind, Except.bind]
      have shape (rest : List Operation) : (t.insert o).ops ++ rest = t.ops ++ o :: rest := by
        simp [OperationTable.insert]
      have later := ih (inStep.insert fresh) entered
      simp only [next, shape] at later ⊢
      refine later.imp_right ?_
      intro ⟨before, p, after, e, split, rest⟩
      exact ⟨o :: before, p, after, e, by rw [split, List.cons_append], rest⟩
    · refine .inr ⟨[], o, ops, e, rfl, by simpa using wellFormed, by simpa using fault, ?_⟩
      simp [addAll, refused, bind, Except.bind]

theorem ops_insertAll (t : OperationTable) (ops : List Operation) :
    (t.insertAll ops).ops = t.ops ++ ops := by
  induction ops generalizing t with
  | nil => simp [insertAll]
  | cons o ops ih => simpa [insertAll, insert] using ih (t.insert o)

theorem InStep.insertAll (inStep : t.InStep)
    (names : ((t.ops ++ ops).map Operation.name).Nodup) : (t.insertAll ops).InStep := by
  induction ops generalizing t with
  | nil => exact inStep
  | cons o ops ih =>
    have shape : (t.insert o).ops ++ ops = t.ops ++ o :: ops := by simp [OperationTable.insert]
    have fresh : o.name ∉ t.ops.map Operation.name := by
      rw [List.map_append, List.nodup_append] at names
      grind
    exact ih (inStep.insert fresh) (by rwa [shape])

theorem Fault.not_wellFormed {before after : List Operation} {e : ViewError}
    (fault : Fault view before o e) : ¬ WellFormedOperations (before ++ o :: after) := by
  intro ⟨names, hints⟩
  have noHint := hints o (by simp)
  rw [List.map_append, List.nodup_append] at names
  cases fault <;> grind

theorem wellFormed_empty : WellFormedOperations empty.ops := ⟨List.nodup_nil, by simp [empty]⟩

theorem addAll_eq_ok_iff :
    empty.addAll view ops = .ok t ↔ WellFormedOperations ops ∧ empty.insertAll ops = t := by
  rcases addAll_cases inStep_empty wellFormed_empty view ops with
    ⟨wellFormed, done⟩ | ⟨before, o, after, e, split, -, fault, refused⟩
  · have wellFormed : WellFormedOperations ops := wellFormed
    simp [done, wellFormed]
  · have illFormed : ¬ WellFormedOperations ops := split ▸ fault.not_wellFormed
    simp [refused, illFormed]

theorem wellFormed_of_addAll (added : empty.addAll view ops = .ok t) :
    WellFormedOperations t.ops := by
  obtain ⟨wellFormed, rfl⟩ := addAll_eq_ok_iff.1 added
  rwa [ops_insertAll]

end OperationTable

structure OperationSet where
  toList : List Operation
  wellFormed : WellFormedOperations toList

namespace OperationSet

def ofList (view : String) (ops : List Operation) : Except ViewError OperationSet :=
  match added : OperationTable.empty.addAll view ops with
  | .error e => .error e
  | .ok t => .ok ⟨t.ops, OperationTable.wellFormed_of_addAll added⟩

theorem ofList_eq_ok_iff {view : String} {ops : List Operation} {s : OperationSet} :
    ofList view ops = .ok s ↔ WellFormedOperations ops ∧ s.toList = ops := by
  unfold ofList
  split
  · next e refused =>
    have illFormed : ¬ WellFormedOperations ops := fun wellFormed =>
      nomatch refused.symm.trans (OperationTable.addAll_eq_ok_iff.2 ⟨wellFormed, rfl⟩)
    simp [illFormed]
  · next t added =>
    obtain ⟨wellFormed, rfl⟩ := OperationTable.addAll_eq_ok_iff.1 added
    have same : (OperationTable.empty.insertAll ops).ops = ops :=
      OperationTable.ops_insertAll .empty ops
    obtain ⟨kept, _⟩ := s
    simp [same, wellFormed, eq_comm]

variable (s : OperationSet)

def table : OperationTable := OperationTable.empty.insertAll s.toList

def get? (name : String) : Option Operation := s.table.get? name

def contains (name : String) : Bool := s.table.contains name

theorem ops_table : s.table.ops = s.toList := OperationTable.ops_insertAll .empty s.toList

theorem inStep_table : s.table.InStep :=
  OperationTable.inStep_empty.insertAll s.wellFormed.names_nodup

theorem get?_eq_some_iff {s : OperationSet} {name : String} {o : Operation} :
    s.get? name = some o ↔ o ∈ s.toList ∧ o.name = name := by
  rw [get?, s.inStep_table.get?_eq_some_iff, ops_table]

theorem contains_eq_isSome_get? (name : String) : s.contains name = (s.get? name).isSome :=
  s.inStep_table.contains_eq_isSome_get? name

def names : List String := s.toList.map Operation.name

theorem contains_iff (name : String) : s.contains name = true ↔ name ∈ s.names := by
  rw [contains, s.inStep_table.contains_iff, ops_table, names]

def size : Nat := s.toList.length

def prompt : String := joined "\n" (s.toList.map Operation.text)

end OperationSet

end ViewQuery
