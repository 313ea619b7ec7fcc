import ViewQuery.Validation

set_option autoImplicit false

namespace ViewQuery

theorem map_eq_error_iff {ε α β : Type} {x : Except ε α} {f : α → β} {e : ε} :
    x.map f = .error e ↔ x = .error e := by
  cases x <;> simp [Except.map]

def QueryError.OfArgument (e : QueryError) : Prop :=
  e.kind = .typeMismatch ∨ e.kind = .unresolvedSimilarityValue

namespace Validator

variable {v : Validator} {name : String} {role role' : Role} {ops : OperationSet} {view : View}
  {e : QueryError}

theorem ofArgument_of_resolve {param hint raw : String}
    (fails : v.resolve name param hint raw = .error (.error e)) : e.OfArgument := by
  unfold resolve at fails
  simp only at fails
  split at fails
  · obtain rfl := Stop.error.inj (Except.error.inj fails)
    exact .inr rfl
  · split at fails
    · cases fails
    · cases fails
    · obtain rfl := Stop.error.inj (Except.error.inj fails)
      exact .inr rfl

theorem ofArgument_of_checkArg {p : Parameter} {l : Literal}
    (fails : v.checkArg name p l = .error (.error e)) : e.OfArgument := by
  unfold checkArg at fails
  split at fails
  · obtain rfl := Stop.error.inj (Except.error.inj fails)
    exact .inl rfl
  · split at fails
    · split at fails
      · exact ofArgument_of_resolve (map_eq_error_iff.1 fails)
      · cases fails
    · cases fails

theorem ofArgument_of_checkArgs {ps : List Parameter} {ls : List Literal}
    (fails : v.checkArgs name ps ls = .error (.error e)) : e.OfArgument := by
  induction ps generalizing ls with
  | nil => cases fails
  | cons p ps ih =>
    cases ls with
    | nil => cases fails
    | cons l ls =>
      rw [checkArgs] at fails
      split at fails
      · next first =>
        rw [Except.error.inj fails] at first
        exact ofArgument_of_checkArg first
      · exact ih (map_eq_error_iff.1 fails)

theorem unsupported_of_checkCall {c : Call}
    (fails : v.checkCall role ops c = .error (.error (.unsupported role' name))) :
    role' = role ∧ c.name = name ∧ ops.contains name = false := by
  unfold checkCall at fails
  split at fails
  · next absent =>
    obtain ⟨rfl, rfl⟩ := QueryError.unsupported.inj (Stop.error.inj (Except.error.inj fails))
    rw [OperationSet.contains_eq_isSome_get?, absent]
    exact ⟨rfl, rfl, rfl⟩
  · split at fails
    · cases fails
    · rcases ofArgument_of_checkArgs (map_eq_error_iff.1 fails) with other | other <;> cases other

theorem unsupported_of_checkCalls {cs : List Call}
    (fails : v.checkCalls role ops cs = .error (.error (.unsupported role' name))) :
    role' = role ∧ ∃ c ∈ cs, c.name = name ∧ ops.contains name = false := by
  induction cs with
  | nil => cases fails
  | cons c cs ih =>
    rw [checkCalls] at fails
    split at fails
    · next first =>
      rw [Except.error.inj fails] at first
      obtain ⟨same, named, absent⟩ := unsupported_of_checkCall first
      exact ⟨same, c, by simp, named, absent⟩
    · obtain ⟨same, d, member, refused⟩ := ih (map_eq_error_iff.1 fails)
      exact ⟨same, d, List.mem_cons_of_mem c member, refused⟩

theorem unsupported_of_check {source : String}
    (fails : v.check role source view = .error (.error (.unsupported role' name))) :
    role' = role ∧ ∃ e, Expression.read role source = .ok e ∧
      ∃ c ∈ e.calls, c.name = name ∧ (view.operations role).contains name = false := by
  unfold check at fails
  split at fails
  · cases fails
  · next e read =>
    obtain ⟨same, refused⟩ := unsupported_of_checkCalls fails
    exact ⟨same, e, read, refused⟩

theorem check_action_of_checkQuery {filters actions : String}
    (fails : v.checkQuery filters actions view = .error (.error (.unsupported .action name))) :
    v.check .action actions view = .error (.error (.unsupported .action name)) := by
  unfold checkQuery at fails
  split at fails
  · next first =>
    rw [Except.error.inj fails] at first
    cases (unsupported_of_check first).1
  · exact map_eq_error_iff.1 fails

end Validator

end ViewQuery
