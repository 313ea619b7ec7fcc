import ViewQuery.Proofs.Compilation.Entering
import ViewQuery.Proofs.Grammar.Joining

set_option autoImplicit false

namespace ViewQuery

-- The text is read and there is a call in it.
def Expression.HoldsCall (role : Role) (source : String) : Prop :=
  ∃ e, Expression.read role source = .ok e ∧ e.calls ≠ []

theorem joined_cons_cons (separator source source' : String) (rest : List String) :
    joined separator (source :: source' :: rest) =
      source ++ separator ++ joined separator (source' :: rest) := by
  rw [← String.toList_inj]
  simp [joined, joinWith]

theorem Expression.holdsCall_joined {role : Role} {separator : String}
    (same : separator.toList = Expression.separator role) {sources : List String}
    (filled : sources ≠ []) (holds : ∀ s ∈ sources, HoldsCall role s) :
    HoldsCall role (joined separator sources) := by
  obtain ⟨source, rest, rfl⟩ := List.exists_cons_of_ne_nil filled
  induction rest generalizing source with
  | nil => simpa [joined, joinWith] using holds
  | cons source' rest ih =>
    obtain ⟨⟨e, read, filled⟩, others⟩ := List.forall_mem_cons.1 holds
    obtain ⟨e', read', filled'⟩ := ih source' (List.cons_ne_nil _ _) others
    rw [joined_cons_cons]
    exact ⟨_, read_join same (fun _ => ⟨filled, filled'⟩) read read', by simp [filled]⟩

namespace Validator

variable {v : Validator} {role : Role} {source source' separator : String} {view : View}
  {cs cs' : List CheckedCall}

theorem check_eq_ok_iff :
    v.check role source view = .ok cs ↔ ∃ e, Expression.read role source = .ok e ∧
      List.Forall₂ (fun c d => v.checkCall role (view.operations role) c = .ok d) e.calls cs := by
  rw [check]
  cases Expression.read role source with
  | error e => simp
  | ok e => simp [checkCalls_eq_ok_iff]

theorem check_join (same : separator.toList = Expression.separator role)
    (holds : role = .filter →
      Expression.HoldsCall .filter source ∧ Expression.HoldsCall .filter source')
    (front : v.check role source view = .ok cs) (back : v.check role source' view = .ok cs') :
    v.check role (source ++ separator ++ source') view = .ok (cs ++ cs') := by
  obtain ⟨e, read, kept⟩ := check_eq_ok_iff.1 front
  obtain ⟨e', read', kept'⟩ := check_eq_ok_iff.1 back
  refine check_eq_ok_iff.2 ⟨_, Expression.read_join same ?_ read read', List.rel_append kept kept'⟩
  rintro rfl
  obtain ⟨⟨found, isRead, filled⟩, found', isRead', filled'⟩ := holds rfl
  obtain rfl := Except.ok.inj (read.symm.trans isRead)
  obtain rfl := Except.ok.inj (read'.symm.trans isRead')
  exact ⟨filled, filled'⟩

end Validator

theorem BoundView.transform_append {b : BoundView} {role : Role} {q q' q'' : Sql.Select}
    {cs cs' : List CheckedCall} (front : b.transform role q cs = .ok q')
    (back : b.transform role q' cs' = .ok q'') : b.transform role q (cs ++ cs') = .ok q'' := by
  cases role with
  | filter =>
    obtain ⟨ps, given, rfl⟩ := map_eq_ok_iff.1 front
    obtain ⟨ps', given', rfl⟩ := map_eq_ok_iff.1 back
    exact map_eq_ok_iff.2
      ⟨ps ++ ps', conditions_append given given', (q.filterAll_filterAll ps ps').symm⟩
  | action => exact (applyActions_append cs' front).trans back

theorem CheckedQuery.extend_extend (q : CheckedQuery) (cs cs' : List CheckedCall) (role : Role) :
    (q.extend cs role).extend cs' role = q.extend (cs ++ cs') role := by
  cases role <;> simp [extend]

namespace Runner

variable {r r' r'' : Runner} {role : Role} {source source' separator : String}

theorem apply_eq_ok_iff :
    r.apply role source = .ok r' ↔
      ∃ cs query, r.validator.check role source r.bound.view = .ok cs ∧
        r.bound.transform role r.query cs = .ok query ∧
        { r with query := query, checked := r.checked.extend cs role } = r' := by
  simp only [apply_eq, ← Session.checkText_eq_ok_iff]
  cases r.checkText role source with
  | error e => simp
  | ok cs => cases given : r.bound.transform role r.query cs <;> simp [given]

theorem apply_join (same : separator.toList = Expression.separator role)
    (holds : role = .filter →
      Expression.HoldsCall .filter source ∧ Expression.HoldsCall .filter source')
    (front : r.apply role source = .ok r') (back : r'.apply role source' = .ok r'') :
    r.apply role (source ++ separator ++ source') = .ok r'' := by
  obtain ⟨cs, query, passes, gives, rfl⟩ := apply_eq_ok_iff.1 front
  obtain ⟨cs', query', passes', gives', rfl⟩ := apply_eq_ok_iff.1 back
  refine apply_eq_ok_iff.2 ⟨cs ++ cs', query', Validator.check_join same holds passes passes',
    BoundView.transform_append gives gives', ?_⟩
  rw [CheckedQuery.extend_extend]

theorem apply_joined (same : separator.toList = Expression.separator role) {sources : List String}
    (filled : sources ≠ [])
    (holds : role = .filter → ∀ s ∈ sources, Expression.HoldsCall .filter s)
    (applied : sources.foldlM (fun r s => r.apply role s) r = .ok r') :
    r.apply role (joined separator sources) = .ok r' := by
  obtain ⟨source, rest, rfl⟩ := List.exists_cons_of_ne_nil filled
  induction rest generalizing r source with
  | nil => simpa [joined, joinWith] using applied
  | cons source' rest ih =>
    rw [List.foldlM_cons] at applied
    cases front : r.apply role source with
    | error e => simp [front, bind, Except.bind] at applied
    | ok r₁ =>
      have others (isFilter : role = .filter) := List.forall_mem_cons.1 (holds isFilter)
      have back : r₁.apply role (joined separator (source' :: rest)) = .ok r' :=
        ih source' (List.cons_ne_nil _ _) (fun isFilter => (others isFilter).2)
          (by simpa [front, bind, Except.bind] using applied)
      rw [joined_cons_cons]
      refine apply_join same (fun isFilter => ⟨(others isFilter).1, ?_⟩) front back
      subst isFilter
      exact Expression.holdsCall_joined same (List.cons_ne_nil _ _) (others rfl).2

/-- Two texts that a runner takes one after the other it takes as one, with the same query and the
same calls. Of filter texts each must hold a call. -/
theorem apply_split (r r₁ r₂ : Runner) :
    (∀ f₁ f₂ : String, Expression.HoldsCall .filter f₁ → Expression.HoldsCall .filter f₂ →
      r.applyFilters f₁ = .ok r₁ → r₁.applyFilters f₂ = .ok r₂ →
      r.applyFilters (f₁ ++ " and " ++ f₂) = .ok r₂) ∧
    ∀ a₁ a₂ : String, r.applyActions a₁ = .ok r₁ → r₁.applyActions a₂ = .ok r₂ →
      r.applyActions (a₁ ++ "\n" ++ a₂) = .ok r₂ := by
  refine ⟨fun f₁ f₂ holds holds' front back => ?_, fun a₁ a₂ front back => ?_⟩
  · have applied : r.apply .filter (f₁ ++ " and " ++ f₂) = .ok r₂ :=
      apply_join rfl (fun _ => ⟨holds, holds'⟩) front back
    exact applied
  · have applied : r.apply .action (a₁ ++ "\n" ++ a₂) = .ok r₂ :=
      apply_join rfl (fun no => nomatch no) front back
    exact applied

open Numbers (fresh above limit sort greater)

-- The first condition wraps the limited query, and the second one goes with it.
theorem apply_split_limited :
    ∃ s₁ s₂ r₁ r₂ : Runner,
      fresh.applyActions "sort()\n" = .ok s₁ ∧ s₁.applyActions "\nlimit(3)" = .ok s₂ ∧
      fresh.applyActions ("sort()\n" ++ "\n" ++ "\nlimit(3)") = .ok s₂ ∧
      Expression.HoldsCall .filter "\nabove(1) " ∧ Expression.HoldsCall .filter "above(2)\r\n" ∧
      s₂.applyFilters "\nabove(1) " = .ok r₁ ∧ r₁.applyFilters "above(2)\r\n" = .ok r₂ ∧
      s₂.applyFilters ("\nabove(1) " ++ " and " ++ "above(2)\r\n") = .ok r₂ ∧
      r₂.checked = ⟨[above 1, above 2], [sort, limit 3]⟩ ∧
      r₂.query.text =
        "SELECT * FROM (SELECT * FROM numbers ORDER BY n LIMIT 3) AS q1 WHERE n > 1 AND n > 2" := by
  let sorted := fresh.query.orderBy (.ofName "n") false
  let limited := sorted.limitTo 3
  let s₁ : Runner := { fresh with query := sorted, checked := ⟨[], [sort]⟩ }
  let s₂ : Runner := { fresh with query := limited, checked := ⟨[], [sort, limit 3]⟩ }
  let r₁ : Runner := { fresh with
    query := limited.filter (greater 1), checked := ⟨[above 1], [sort, limit 3]⟩ }
  let r₂ : Runner := { fresh with
    query := r₁.query.filter (greater 2), checked := ⟨[above 1, above 2], [sort, limit 3]⟩ }
  have shapes : fresh.applyActions "sort()\n" = .ok s₁ := rfl
  have limits : s₁.applyActions "\nlimit(3)" = .ok s₂ := rfl
  have holds : Expression.HoldsCall .filter "\nabove(1) " :=
    ⟨⟨.filter, [⟨"above", [.int 1]⟩]⟩, by decide +kernel, List.cons_ne_nil _ _⟩
  have holds' : Expression.HoldsCall .filter "above(2)\r\n" :=
    ⟨⟨.filter, [⟨"above", [.int 2]⟩]⟩, by decide +kernel, List.cons_ne_nil _ _⟩
  have front : s₂.applyFilters "\nabove(1) " = .ok r₁ := rfl
  have back : r₁.applyFilters "above(2)\r\n" = .ok r₂ := rfl
  exact ⟨s₁, s₂, r₁, r₂, shapes, limits, (apply_split fresh s₁ s₂).2 _ _ shapes limits, holds,
    holds', front, back, (apply_split s₂ r₁ r₂).1 _ _ holds holds' front back, rfl,
    by decide +kernel⟩

end Runner

end ViewQuery
