import ViewQuery.View

set_option autoImplicit false

namespace ViewQuery

-- The names in order are those that lead to a view, each to one that bears it.
structure Registry.InStep (byName : List (String × View)) (order : List String) : Prop where
  nodup : order.Nodup
  mem_order : ∀ name, name ∈ order ↔ (byName.lookup name).isSome
  named : ∀ name v, byName.lookup name = some v → v.name = name

theorem Registry.InStep.insert {byName : List (String × View)} {order : List String} {v : View}
    (inStep : InStep byName order) (fresh : byName.lookup v.name = none) :
    InStep ((v.name, v) :: byName) (order ++ [v.name]) where
  nodup := by
    have unlisted : v.name ∉ order := by simp [inStep.mem_order, fresh]
    rw [List.nodup_append]
    refine ⟨inStep.nodup, by simp, ?_⟩
    intro name listed other isNew same
    obtain rfl := List.mem_singleton.1 isNew
    exact unlisted (same ▸ listed)
  mem_order name := by
    by_cases isNew : name = v.name
    · simp [isNew]
    · simp [isNew, inStep.mem_order, List.lookup_cons, beq_false_of_ne isNew]
  named name w found := by
    by_cases isNew : name = v.name
    · rw [isNew, List.lookup_cons_self] at found
      rw [isNew, Option.some.inj found]
    · rw [List.lookup_cons, beq_false_of_ne isNew] at found
      exact inStep.named name w found

structure Registry where
  -- a later entry comes before the earlier ones
  byName : List (String × View)
  order : List String
  inStep : Registry.InStep byName order

namespace Registry

def empty : Registry := ⟨[], [], List.nodup_nil, by simp, by simp⟩

def contains (r : Registry) (name : String) : Bool := (r.byName.lookup name).isSome

def register (r : Registry) (v : View) : Except ViewError Registry :=
  if known : r.contains v.name = true then .error (.viewRepeated v.name)
  else .ok ⟨(v.name, v) :: r.byName, r.order ++ [v.name],
    r.inStep.insert (Option.not_isSome_iff_eq_none.1 known)⟩

theorem register_of_contains {r : Registry} {v : View} (known : r.contains v.name = true) :
    r.register v = .error (.viewRepeated v.name) := dif_pos known

theorem register_of_fresh {r : Registry} {v : View} (fresh : ¬ r.contains v.name = true) :
    ∃ r', r.register v = .ok r' ∧ r'.byName = (v.name, v) :: r.byName ∧
      r'.order = r.order ++ [v.name] := ⟨_, dif_neg fresh, rfl, rfl⟩

def get (r : Registry) (name : String) : Except ViewError View :=
  match r.byName.lookup name with
  | some v => .ok v
  | none => .error (.viewNotFound name)

def views (r : Registry) : List View := r.order.filterMap fun name => r.byName.lookup name

def toList (r : Registry) : List (String × String) := r.views.map fun v => (v.name, v.description)

def size (r : Registry) : Nat := r.order.length

def addDeclaration (r : Registry) (d : Declaration) : Except ViewError Registry :=
  match View.ofDeclaration d with
  | .error e => .error e
  | .ok v => r.register v

def ofDeclarations (ds : List Declaration) : Except ViewError Registry :=
  ds.foldlM addDeclaration empty

end Registry

end ViewQuery
