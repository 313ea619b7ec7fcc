import ViewQuery.Proofs.Grammar.Exactness
import ViewQuery.Proofs.Grammar.Printing

set_option autoImplicit false

namespace ViewQuery

namespace Grammar

variable {κ : Type} {spells : κ → List Char → Prop} {role : Role} {cs cs' : List κ}
  {gap gap' t u : List Char}

theorem startsWord_append (filled : t ≠ []) (u : List Char) :
    startsWord (t ++ u) = startsWord t := by
  cases t with
  | nil => exact absurd rfl filled
  | cons c t => rfl

theorem Joins.append (joins : Joins role gap t) (filled : t ≠ []) (u : List Char) :
    Joins role gap (t ++ u) := by
  cases role with
  | filter =>
    obtain ⟨before, after, layout, layout', parts, stop⟩ := joins
    refine ⟨before, after, layout, layout', parts, ?_⟩
    rwa [← List.append_assoc, startsWord_append (by simp [filled])]
  | action => exact joins

theorem Joins.in_layout (joins : Joins role gap (gap' ++ t)) {before : List Char}
    (layout : LayoutRun before) (layout' : LayoutRun gap') :
    Joins role (before ++ gap ++ gap') t := by
  cases role with
  | filter =>
    obtain ⟨front, back, frontLayout, backLayout, rfl, stop⟩ := joins
    exact ⟨before ++ front, back ++ gap', layout.append frontLayout, backLayout.append layout',
      by simp, by simpa using stop⟩
  | action =>
    obtain ⟨gapLayout, line⟩ := joins
    exact ⟨(layout.append gapLayout).append layout', by simp [line]⟩

theorem RestText.append (filled : ∀ c t, spells c t → t ≠ [])
    (front : RestText role spells cs t)
    (back : ∀ gap, LayoutRun gap → RestText role spells cs' (gap ++ u)) :
    RestText role spells (cs ++ cs') (t ++ u) := by
  induction front with
  | done layout => exact back _ layout
  | @more c cs gap t rest joins text _ ih =>
    have longer : Joins role gap (t ++ (rest ++ u)) := by
      rw [← List.append_assoc]
      exact joins.append (by simp [filled c t text]) u
    simpa using RestText.more longer text ih

theorem QueryText.after_layout (layout : LayoutRun gap) (text : QueryText role spells cs t) :
    QueryText role spells cs (gap ++ t) := by
  cases text with
  | none layout' => exact .none (layout.append layout')
  | some layout' text rest =>
    rw [← List.append_assoc, ← List.append_assoc]
    exact .some (layout.append layout') text rest

theorem layoutRun_separator_action : LayoutRun (Expression.separator .action) := by
  simp [Expression.separator, LayoutRun, isLayout]

theorem QueryText.after_separator (holds : role = .filter → cs ≠ [])
    (text : QueryText role spells cs t) (layout : LayoutRun gap) :
    RestText role spells cs (gap ++ (Expression.separator role ++ t)) := by
  cases text with
  | none layout' =>
    cases role with
    | filter => exact absurd rfl (holds rfl)
    | action => exact .done (layout.append (layoutRun_separator_action.append layout'))
  | @some c cs gap' t rest layout' text more =>
    have joins : Joins role (gap ++ Expression.separator role ++ gap') (t ++ rest) :=
      (joins_separator role _).in_layout layout layout'
    simpa using RestText.more joins text more

theorem QueryText.join (filled : ∀ c t, spells c t → t ≠ [])
    (holds : role = .filter → cs ≠ [] ∧ cs' ≠ []) (front : QueryText role spells cs t)
    (back : QueryText role spells cs' u) :
    QueryText role spells (cs ++ cs') (t ++ Expression.separator role ++ u) := by
  rw [List.append_assoc]
  cases front with
  | none layout =>
    cases role with
    | filter => exact absurd rfl (holds rfl).1
    | action => exact (back.after_layout layoutRun_separator_action).after_layout layout
  | some layout text rest =>
    have more := rest.append filled fun _ gap =>
      back.after_separator (fun same => (holds same).2) gap
    simpa using QueryText.some layout text more

end Grammar

open Grammar

theorem Call.Spells.ne_nil {c : Call} {t : List Char} (text : c.Spells t) : t ≠ [] := by
  cases text with
  | mk _ _ _ => simp

theorem Expression.read_join {role : Role} {source source' separator : String} {e e' : Expression}
    (same : separator.toList = Expression.separator role)
    (holds : role = .filter → e.calls ≠ [] ∧ e'.calls ≠ [])
    (front : Expression.read role source = .ok e) (back : Expression.read role source' = .ok e') :
    Expression.read role (source ++ separator ++ source') = .ok ⟨role, e.calls ++ e'.calls⟩ := by
  obtain ⟨rfl, text⟩ := Expression.read_sound front
  obtain ⟨role', text'⟩ := Expression.read_sound back
  rw [Expression.Spells, role'] at text'
  have joined : Expression.Spells ⟨e.role, e.calls ++ e'.calls⟩
      (source ++ separator ++ source').toList := by
    rw [Expression.Spells, String.toList_append, String.toList_append, same]
    exact text.join (fun _ _ => Call.Spells.ne_nil) holds text'
  exact Expression.read_complete joined

end ViewQuery
