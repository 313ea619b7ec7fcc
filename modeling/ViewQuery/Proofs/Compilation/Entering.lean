import Mathlib.Data.List.Basic
import ViewQuery.Proofs.Compilation.Incremental
import ViewQuery.Proofs.Compilation.Transform

set_option autoImplicit false

namespace ViewQuery

namespace Session

open BoundView (transformWith)

variable {r : Runner} {role : Role} {source : String}

inductive Enters (r : Runner) (role : Role) (source : String) :
    Except (Stop CompileError) Unit → Runner → Prop
  | refused {e : Stop CompileError} (fails : r.checkText role source = .error e) :
      Enters r role source (.error e) r
  | failed {cs : List CheckedCall} {e : CompileError}
      (passes : r.validator.check role source r.bound.view = .ok cs)
      (fails : transformWith r.bound.condition r.bound.reshape role r.query cs = .error e) :
      Enters r role source (.error (.error e)) r
  | applied {cs : List CheckedCall} {query : Sql.Select}
      (passes : r.validator.check role source r.bound.view = .ok cs)
      (gives : transformWith r.bound.condition r.bound.reshape role r.query cs = .ok query) :
      Enters r role source (.ok ())
        { r with query := query, checked := r.checked.extend cs role }

theorem checkText_eq_ok_iff {cs : List CheckedCall} :
    r.checkText role source = .ok cs ↔ r.validator.check role source r.bound.view = .ok cs := by
  rw [Runner.checkText]
  rcases r.validator.check role source r.bound.view with (e | _) | cs' <;> simp

theorem enters (r : Runner) (role : Role) (source : String) :
    Enters r role source ((enter role source).run r).run.1 ((enter role source).run r).run.2 := by
  unfold enter
  cases checked : r.checkText role source with
  | error e => simpa [checked] using Enters.refused checked
  | ok cs =>
    have passes := checkText_eq_ok_iff.1 checked
    cases transformed : r.bound.transform role r.query cs with
    | error e =>
      have fails := (r.bound.transform_eq role r.query cs).symm.trans transformed
      simpa [checked, transformed] using Enters.failed passes fails
    | ok query =>
      have gives := (r.bound.transform_eq role r.query cs).symm.trans transformed
      simpa [checked, transformed] using Enters.applied passes gives

-- Stores in place and a runner that is given back come to the same.
theorem enter_eq (r : Runner) (role : Role) (source : String) :
    ((enter role source).run r).run =
      match r.apply role source with
      | .ok r' => (.ok (), r')
      | .error e => (.error e, r) := by
  rw [Runner.apply_eq]
  unfold enter
  cases checked : r.checkText role source with
  | error e => simp [checked]
  | ok cs =>
    cases transformed : r.bound.transform role r.query cs <;> simp [checked, transformed]

theorem Enters.unchanged {r' : Runner} {e : Stop CompileError}
    (fails : Enters r role source (.error e) r') : r' = r := by
  cases fails <;> rfl

theorem Enters.outcome_eq {outcome : Except (Stop CompileError) Unit} {r' : Runner}
    {cs : List CheckedCall} (entered : Enters r role source outcome r')
    (passes : r.validator.check role source r.bound.view = .ok cs) :
    outcome = ((r.bound.transform role r.query cs).map fun _ => ()).mapError .error := by
  rw [BoundView.transform_eq]
  cases entered with
  | refused fails =>
    rw [checkText_eq_ok_iff.2 passes] at fails
    cases fails
  | failed passes' fails =>
    obtain rfl := Except.ok.inj (passes.symm.trans passes')
    rw [fails]
    rfl
  | applied passes' gives =>
    obtain rfl := Except.ok.inj (passes.symm.trans passes')
    rw [gives]
    rfl

theorem enterAll_cons (text : Role × String) (texts : List (Role × String)) (r : Runner) :
    ((enterAll (text :: texts)).run r).run =
      let first := ((enter text.1 text.2).run r).run
      let others := ((enterAll texts).run first.2).run
      (first.1 :: others.1, others.2) := by
  simp [enterAll]

theorem enterAll_append (texts texts' : List (Role × String)) (r : Runner) :
    ((enterAll (texts ++ texts')).run r).run =
      let front := ((enterAll texts).run r).run
      let back := ((enterAll texts').run front.2).run
      (front.1 ++ back.1, back.2) := by
  simp [enterAll]

theorem length_enterAll (texts : List (Role × String)) (r : Runner) :
    ((enterAll texts).run r).run.1.length = texts.length := by
  induction texts generalizing r with
  | nil => rfl
  | cons text texts ih => simp [enterAll_cons, ih]

def appliedCalls? (v : Validator) (view : View) :
    (Role × String) × Except (Stop CompileError) Unit → Option (Role × List CheckedCall)
  | (_, .error _) => none
  | ((role, source), .ok ()) =>
    match v.check role source view with
    | .error _ => none
    | .ok cs => some (role, cs)

structure Folds (r r' : Runner) (applied : List (Role × List CheckedCall)) : Prop where
  bound : r'.bound = r.bound
  validator : r'.validator = r.validator
  query : applied.foldlM
    (fun query text => transformWith r.bound.condition r.bound.reshape text.1 query text.2)
    r.query = .ok r'.query
  checked : ∀ role, r'.checked.calls role =
    r.checked.calls role ++ (applied.filter (·.1 = role)).flatMap Prod.snd

theorem Folds.refl (r : Runner) : Folds r r [] := ⟨rfl, rfl, rfl, fun _ => by simp⟩

theorem Folds.trans {r r' r'' : Runner} {applied applied' : List (Role × List CheckedCall)}
    (front : Folds r r' applied) (back : Folds r' r'' applied') :
    Folds r r'' (applied ++ applied') where
  bound := back.bound.trans front.bound
  validator := back.validator.trans front.validator
  query := by
    have query := back.query
    rw [front.bound] at query
    rw [List.foldlM_append, front.query]
    exact query
  checked role := by
    rw [back.checked, front.checked, List.filter_append, List.flatMap_append, List.append_assoc]

theorem Enters.folds {outcome : Except (Stop CompileError) Unit} {r' : Runner}
    (entered : Enters r role source outcome r') :
    Folds r r' (appliedCalls? r.validator r.bound.view ((role, source), outcome)).toList := by
  cases entered with
  | refused fails => exact .refl r
  | failed passes fails => exact .refl r
  | @applied cs query passes gives =>
    rw [appliedCalls?, passes]
    refine ⟨rfl, rfl, by simp [gives], fun role' => ?_⟩
    cases role <;> cases role' <;> simp [CheckedQuery.extend, CheckedQuery.calls]

theorem folds_enterAll (texts : List (Role × String)) (r : Runner) :
    Folds r ((enterAll texts).run r).run.2
      ((texts.zip ((enterAll texts).run r).run.1).filterMap
        (appliedCalls? r.validator r.bound.view)) := by
  induction texts generalizing r with
  | nil => exact .refl r
  | cons text texts ih =>
    have first := (enters r text.1 text.2).folds
    have others := ih ((enter text.1 text.2).run r).run.2
    rw [first.bound, first.validator] at others
    have both := first.trans others
    rw [List.filterMap_eq_flatMap_toList] at both
    rw [List.filterMap_eq_flatMap_toList, enterAll_cons]
    exact both

/-- The runner of a session holds the calls of the texts that were applied, in order, and the query
that they make of the base. A text that fails leaves it as it was. -/
theorem enterAll_folds (b : BoundView) (v : Validator) (texts : List (Role × String)) :
    let run := ((enterAll texts).run (.start b v)).run
    let applied := (texts.zip run.1).filterMap (appliedCalls? v b.view)
    run.1.length = texts.length ∧
    applied.foldlM (fun query text => transformWith b.condition b.reshape text.1 query text.2)
      b.base = .ok run.2.query ∧
    (∀ role, run.2.checked.calls role = (applied.filter (·.1 = role)).flatMap Prod.snd) ∧
    ∀ before role source after, texts = before ++ (role, source) :: after →
      let r := ((enterAll before).run (.start b v)).run.2
      let r' := ((enterAll (before ++ [(role, source)])).run (.start b v)).run.2
      ∃ outcome, run.1[before.length]? = some outcome ∧ Enters r role source outcome r' ∧
        ∀ e, outcome = .error e → r' = r := by
  intro run applied
  have folds : Folds (.start b v) run.2 applied := folds_enterAll texts (.start b v)
  refine ⟨length_enterAll texts _, folds.query, fun role => ?_, ?_⟩
  · rw [folds.checked role]
    cases role <;> rfl
  · rintro before role source after rfl r r'
    have entered : Enters r role source ((enter role source).run r).run.1 r' := by
      have step : r' = ((enter role source).run r).run.2 := by
        simp only [r', enterAll_append, enterAll_cons]
        rfl
      rw [step]
      exact enters r role source
    refine ⟨_, ?_, entered, fun e fails => (fails ▸ entered).unchanged⟩
    have position := length_enterAll before (.start b v)
    simp only [run, enterAll_append, enterAll_cons]
    rw [List.getElem?_append_right (Nat.le_of_eq position), position, Nat.sub_self]
    rfl

-- A negative limit fails after a limit in the same text was applied; neither is kept.
example :
    let run := ((enterAll [(.filter, "above(1)"), (.action, "limit(3)\nlimit(-1)"),
      (.filter, "above('x')"), (.action, "limit(5)")]).run Runner.Numbers.fresh).run
    run.1 =
        [.ok (), .error (.error (.invocation "limit"
          (.invalid "expected a non-negative count, got -1"))),
        .error (.error (.query (.type "above" "n" .int (.str "x")))), .ok ()] ∧
      run.2.checked = ⟨[Runner.Numbers.above 1], [Runner.Numbers.limit 5]⟩ ∧
      run.2.query.text = "SELECT * FROM numbers WHERE n > 1 LIMIT 5" := by
  decide +kernel

end Session

end ViewQuery
