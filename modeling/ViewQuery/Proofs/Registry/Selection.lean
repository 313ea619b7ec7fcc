import ViewQuery.Proofs.Text.Trimming
import ViewQuery.Selection

set_option autoImplicit false

namespace ViewQuery

namespace Registry

open Grammar (Stops)

variable {r : Registry} {name : String} {v : View}

theorem get_eq_ok_iff : r.get name = .ok v ↔ r.byName.lookup name = some v := by
  rw [get]
  cases r.byName.lookup name <;> simp

theorem mem_views_iff : v ∈ r.views ↔ r.byName.lookup v.name = some v := by
  rw [views, List.mem_filterMap]
  constructor
  · rintro ⟨name, -, found⟩
    rwa [r.inStep.named name v found]
  · exact fun found => ⟨v.name, (r.inStep.mem_order v.name).2 (by simp [found]), found⟩

theorem get_eq_ok_iff_mem : r.get name = .ok v ↔ v ∈ r.views ∧ v.name = name := by
  rw [get_eq_ok_iff, mem_views_iff]
  constructor
  · intro found
    have named := r.inStep.named name v found
    exact ⟨named ▸ found, named⟩
  · rintro ⟨found, rfl⟩
    exact found

theorem lookup_eq_none_iff : r.byName.lookup name = none ↔ ∀ v ∈ r.views, v.name ≠ name := by
  constructor
  · rintro absent v member rfl
    rw [mem_views_iff.1 member] at absent
    cases absent
  · intro others
    cases found : r.byName.lookup name with
    | none => rfl
    | some v =>
      obtain ⟨member, same⟩ := get_eq_ok_iff_mem.1 (get_eq_ok_iff.2 found)
      exact absurd same (others v member)

theorem length_toList (r : Registry) : r.toList.length = r.size := by
  rw [toList, List.length_map, views, size, List.filterMap_length_eq_length]
  exact fun name listed => (r.inStep.mem_order name).1 listed

theorem select_of_answer {answer : String} {chat : Chat}
    {later : List (Except ChatError String)} (several : 2 ≤ r.size)
    (replies : chat.answers = .ok answer :: later) (question : String) :
    (r.select question chat).1 = (r.get (answeredName answer)).mapError .view := by
  rw [← length_toList] at several
  unfold select
  split
  · next none => simp [none] at several
  · next one => simp [one] at several
  · simp only [Chat.ask, replies]

theorem infix_answeredName (answer : String) :
    (answeredName answer).toList <:+: answer.toList := by
  rw [answeredName, String.toList_ofList]
  exact (Text.infix_trimBy _ _).trans (Text.infix_trimBy _ _)

def Selectable (name : String) : Prop :=
  ∀ c, name.toList.head? = some c ∨ name.toList.getLast? = some c →
    Text.isBlank c = false ∧ isQuoteOrPoint c = false

theorem selectable_iff : Selectable name ↔
    (Stops Text.isBlank name.toList ∧ Stops Text.isBlank name.toList.reverse) ∧
      Stops isQuoteOrPoint name.toList ∧ Stops isQuoteOrPoint name.toList.reverse := by
  simp only [Selectable, Stops, List.head?_reverse, or_imp, imp_and, forall_and]

theorem answeredName_eq_self_iff : answeredName name = name ↔ Selectable name := by
  rw [selectable_iff, ← Text.trimBy_eq_self_iff, ← Text.trimBy_eq_self_iff,
    ← Text.trimBy_trimBy_eq_self_iff, ← String.toList_inj, answeredName, String.toList_ofList]
  rfl

/-- A view that is returned is registered, and under a name that stands in the answer; in every
other case no view bears the name that the answer gives. The view that is registered under a name
answers to this name itself exactly if no blank, quote or point stands at either end of it. -/
theorem select_answered (several : 2 ≤ r.size) {answer : String} {chat : Chat}
    {later : List (Except ChatError String)} (replies : chat.answers = .ok answer :: later)
    (question : String) :
    let selected := (r.select question chat).1
    (∀ v, selected = .ok v ↔ v ∈ r.views ∧ v.name = answeredName answer) ∧
    (∀ v, selected = .ok v → v.name.toList <:+: answer.toList) ∧
    (∀ e, selected = .error e ↔ e = .view (.viewNotFound (answeredName answer)) ∧
      ∀ v ∈ r.views, v.name ≠ answeredName answer) ∧
    ∀ v, r.get answer = .ok v → (selected = .ok v ↔ Selectable answer) := by
  intro selected
  have isGet : selected = (r.get (answeredName answer)).mapError .view :=
    select_of_answer several replies question
  have found (v : View) : selected = .ok v ↔ v ∈ r.views ∧ v.name = answeredName answer := by
    rw [isGet, ← get_eq_ok_iff_mem]
    cases r.get (answeredName answer) <;> simp [Except.mapError]
  refine ⟨found, fun v isFound => ?_, fun e => ?_, fun v registered => ?_⟩
  · rw [((found v).1 isFound).2]
    exact infix_answeredName answer
  · rw [isGet, ← lookup_eq_none_iff, get]
    cases r.byName.lookup (answeredName answer) <;> simp [Except.mapError, eq_comm]
  · obtain ⟨member, same⟩ := get_eq_ok_iff_mem.1 registered
    rw [found, ← answeredName_eq_self_iff, same, and_iff_right member, eq_comm]

-- Both ends of the name are letters, and quotes and blanks stand inside.
theorem select_answered_inside :
    let name := "Town 'n' country"
    let view (name : String) : View :=
      ⟨name, "", ⟨[], by decide, by decide⟩, ⟨[], by decide, by decide⟩⟩
    ∃ r, (empty.register (view "Cities")).bind (·.register (view name)) = .ok r ∧ 2 ≤ r.size ∧
      r.get name = .ok (view name) ∧
      (r.select "Which?" (.ofReplies [name])).1 = .ok (view name) := by
  intro name view
  refine ⟨_, rfl, by decide, rfl, ?_⟩
  have selectable : Selectable name := answeredName_eq_self_iff.1 (by decide +kernel)
  exact ((select_answered (by decide) rfl "Which?").2.2.2 (view name) rfl).2 selectable

-- The model answers with one name and gets the view of the other.
theorem select_other_view :
    let view (name : String) : View :=
      ⟨name, "", ⟨[], by decide, by decide⟩, ⟨[], by decide, by decide⟩⟩
    ∃ r, (empty.register (view "Sales")).bind (·.register (view "Sales.")) = .ok r ∧
      r.get "Sales." = .ok (view "Sales.") ∧
      (r.select "Which?" (.ofReplies ["Sales."])).1 = .ok (view "Sales") ∧
      (r.select "Which?" (.ofReplies ["Sales."])).1 ≠ .ok (view "Sales.") := by
  intro view
  refine ⟨_, rfl, rfl, ?_⟩
  have shortened : answeredName "Sales." = "Sales" := by decide +kernel
  rw [select_of_answer (by decide) rfl, shortened]
  have other : view "Sales" ≠ view "Sales." := fun same => by
    simpa [view] using congrArg View.name same
  exact ⟨rfl, fun same => other (Except.ok.inj same)⟩

end Registry

end ViewQuery
