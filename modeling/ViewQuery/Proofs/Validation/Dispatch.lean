import Mathlib.Data.List.Nodup
import ViewQuery.BoundView
import ViewQuery.Validation

set_option autoImplicit false

namespace ViewQuery

theorem map_eq_ok_iff {ε α β : Type} {x : Except ε α} {f : α → β} {b : β} :
    x.map f = .ok b ↔ ∃ a, x = .ok a ∧ f a = b := by
  cases x <;> simp [Except.map]

theorem exists_left_of_mem {α β : Type} {R : α → β → Prop} {as : List α} {bs : List β} {b : β}
    (related : List.Forall₂ R as bs) (member : b ∈ bs) : ∃ a ∈ as, R a b := by
  induction related with
  | nil => cases member
  | @cons a b' as bs holds _ ih =>
    rcases List.mem_cons.1 member with rfl | member
    · exact ⟨a, by simp, holds⟩
    · obtain ⟨a', isLeft, holds'⟩ := ih member
      exact ⟨a', List.mem_cons_of_mem a isLeft, holds'⟩

def Arguments.typedAs (args : Arguments) (i : Nat) : ParamType → Except InvocationFault Literal
  | .int => (args.int i).map .int
  | .float => (args.float i).map .float
  | .str => (args.str i).map .str
  | .bool => (args.bool i).map .bool

theorem Arguments.typedAs_type {args : Arguments} {i : Nat} {l : Literal}
    (present : args[i]? = some l) : args.typedAs i l.type = .ok l := by
  cases l <;>
    simp [typedAs, Literal.type, int, float, str, bool, typed, value, present, Literal.asInt?,
      Literal.asFloat?, Literal.asStr?, Literal.asBool?, Except.map]

namespace Validator

variable {v : Validator} {name : String} {p : Parameter} {l a : Literal}

-- An argument that is kept for a parameter, and the literal that was written.
structure Fits (v : Validator) (p : Parameter) (l a : Literal) : Prop where
  type : a.type = p.type
  written : p.similarity = none ∨ v.resolves = false →
    a = l ∨ p.type = .float ∧ ∃ n, l = .int n ∧ a = .float (Literal.widen n)
  resolved : v.resolves = true → ∀ hint, p.similarity = some hint →
    ∃ raw value resolver after, l = .str raw ∧ a = .str value ∧
      v.resolver? hint = some resolver ∧ resolver raw = .answers after (.found value) ∧
      after ≤ v.timeLimit

theorem coerce?_cases {t : ParamType} (coerced : coerce? t l = some a) :
    a = l ∨ t = .float ∧ ∃ n, l = .int n ∧ a = .float (Literal.widen n) := by
  cases t <;> cases l <;> simp_all [coerce?]

theorem found_of_within {limit : Nat} {r : Resolution} {value : String}
    (within : r.within limit = some (.ok value)) :
    ∃ after, r = .answers after (.found value) ∧ after ≤ limit := by
  cases r with
  | crashes => cases within
  | answers after answer =>
    simp only [Resolution.within] at within
    split at within
    · cases within
    next intime =>
      cases answer with
      | found found =>
        obtain rfl : found = value := by simpa using within
        exact ⟨after, rfl, Nat.le_of_not_lt intime⟩
      | nothing => cases within
      | failed message => cases within

theorem resolve_found {param hint raw value : String}
    (resolved : v.resolve name param hint raw = .ok value) :
    ∃ resolver after, v.resolver? hint = some resolver ∧
      resolver raw = .answers after (.found value) ∧ after ≤ v.timeLimit := by
  rw [resolve] at resolved
  split at resolved
  · cases resolved
  next resolver named =>
    split at resolved
    · cases resolved
    next found within =>
      obtain rfl := Except.ok.inj resolved
      obtain ⟨after, answers, intime⟩ := found_of_within within
      exact ⟨resolver, after, named, answers, intime⟩
    · cases resolved

theorem fits_of_checkArg (checked : v.checkArg name p l = .ok a)
    (placed : p.misplacesHint = false) : v.Fits p l a := by
  cases coerced : coerce? p.type l with
  | none => simp [checkArg, coerced] at checked
  | some l' =>
    have type : l'.type = p.type := type_of_coerce? coerced
    cases hinted : p.similarity with
    | none =>
      obtain rfl : l' = a := by simpa [checkArg, coerced, hinted] using checked
      exact ⟨type, fun _ => coerce?_cases coerced, fun _ hint isHint => by simp [hinted] at isHint⟩
    | some hint =>
      -- A hint stands at a text, and texts are kept as they are written.
      have isText : p.type = .str := by simpa [Parameter.misplacesHint, hinted] using placed
      obtain ⟨raw, rfl⟩ : ∃ raw, l' = .str raw := by
        cases l' <;> simp_all [Literal.type]
      obtain rfl : Literal.str raw = l := by
        rcases coerce?_cases coerced with same | ⟨isFloat, -⟩
        · exact same
        · simp [isText] at isFloat
      by_cases resolves : v.resolves
      · rw [checkArg, coerced] at checked
        simp only [hinted, resolves, if_true] at checked
        obtain ⟨value, found, rfl⟩ := map_eq_ok_iff.1 checked
        obtain ⟨resolver, after, answers⟩ := resolve_found found
        refine ⟨isText.symm, ?_, ?_⟩
        · simp [hinted, resolves]
        · intro _ other isHint
          obtain rfl : hint = other := by simpa [hinted] using isHint
          exact ⟨raw, value, resolver, after, rfl, rfl, answers⟩
      · obtain rfl : Literal.str raw = a := by
          simpa [checkArg, coerced, hinted, resolves] using checked
        exact ⟨isText.symm, fun _ => .inl rfl, fun on => absurd on resolves⟩

theorem fits_of_checkArgs {ps : List Parameter} {ls as : List Literal}
    (checked : v.checkArgs name ps ls = .ok as) (arity : ls.length = ps.length)
    (placed : ∀ p ∈ ps, p.misplacesHint = false) :
    as.length = ps.length ∧ ∀ (i : Nat) (p : Parameter), ps[i]? = some p →
      ∃ l a, ls[i]? = some l ∧ as[i]? = some a ∧ v.Fits p l a := by
  induction ps generalizing ls as with
  | nil =>
    obtain rfl : [] = as := Except.ok.inj checked
    simp
  | cons p ps ih =>
    obtain ⟨l, ls, rfl⟩ := List.exists_cons_of_length_eq_add_one arity
    obtain ⟨here, others⟩ := List.forall_mem_cons.1 placed
    rw [checkArgs] at checked
    split at checked
    · cases checked
    next a first =>
      obtain ⟨as, rest, rfl⟩ := map_eq_ok_iff.1 checked
      obtain ⟨count, fits⟩ := ih rest (by simpa using arity) others
      refine ⟨by simp [count], fun i q isParam => ?_⟩
      cases i with
      | zero =>
        obtain rfl : p = q := by simpa using isParam
        exact ⟨l, a, rfl, rfl, fits_of_checkArg first here⟩
      | succ i => exact fits i q (by simpa using isParam)

/-- A checked call and the call that was read. -/
structure Dispatches (v : Validator) (ops : OperationSet) (c : Call) (checked : CheckedCall) :
    Prop where
  member : checked.operation ∈ ops.toList
  named : checked.operation.name = c.name
  only : ∀ o ∈ ops.toList, o.name = c.name → o = checked.operation
  written : c.args.length = checked.operation.arity
  arity : checked.args.length = checked.operation.arity
  fits : ∀ (i : Nat) (p : Parameter), checked.operation.params[i]? = some p →
    ∃ l a, c.args[i]? = some l ∧ checked.args[i]? = some a ∧ v.Fits p l a ∧
      Arguments.typedAs checked.args i p.type = .ok a

theorem dispatches_of_checkCall {role : Role} {ops : OperationSet} {c : Call}
    {checked : CheckedCall} (passes : v.checkCall role ops c = .ok checked) :
    v.Dispatches ops c checked := by
  rw [checkCall] at passes
  split at passes
  · cases passes
  next o found =>
    obtain ⟨member, named⟩ := OperationSet.get?_eq_some_iff.1 found
    split at passes
    · cases passes
    next arity =>
      obtain ⟨as, args, rfl⟩ := map_eq_ok_iff.1 passes
      have written : c.args.length = o.params.length := not_not.1 arity
      have placed : ∀ p ∈ o.params, p.misplacesHint = false := by
        simpa [Operation.misplacedHint?] using ops.wellFormed.hints o member
      obtain ⟨count, fits⟩ := fits_of_checkArgs args written placed
      refine ⟨member, named, fun o' member' named' => ?_, written, count, fun i p isParam => ?_⟩
      · exact List.inj_on_of_nodup_map ops.wellFormed.names_nodup member' member
          (named'.trans named.symm)
      · obtain ⟨l, a, isWritten, isKept, fit⟩ := fits i p isParam
        exact ⟨l, a, isWritten, isKept, fit, fit.type ▸ Arguments.typedAs_type isKept⟩

theorem checkCalls_eq_ok_iff {role : Role} {ops : OperationSet} {cs : List Call}
    {kept : List CheckedCall} :
    v.checkCalls role ops cs = .ok kept ↔
      List.Forall₂ (fun c d => v.checkCall role ops c = .ok d) cs kept := by
  induction cs generalizing kept with
  | nil => simp [checkCalls, eq_comm]
  | cons c cs ih =>
    rw [checkCalls, List.forall₂_cons_left_iff]
    cases first : v.checkCall role ops c with
    | error e => simp
    | ok d =>
      simp only [map_eq_ok_iff, ih]
      constructor
      · rintro ⟨ds, rest, rfl⟩
        exact ⟨d, ds, rfl, rest, rfl⟩
      · rintro ⟨_, ds, same, rest, rfl⟩
        exact ⟨ds, rest, by rw [Except.ok.inj same]⟩

theorem dispatches_of_check {role : Role} {source : String} {view : View}
    {kept : List CheckedCall} (passes : v.check role source view = .ok kept) :
    ∃ e, Expression.read role source = .ok e ∧
      List.Forall₂ (v.Dispatches (view.operations role)) e.calls kept := by
  rw [check] at passes
  split at passes
  · cases passes
  next e read =>
    exact ⟨e, read, (checkCalls_eq_ok_iff.1 passes).imp fun _ _ => dispatches_of_checkCall⟩

theorem checkQuery_eq_ok_iff {filters actions : String} {view : View} {q : CheckedQuery} :
    v.checkQuery filters actions view = .ok q ↔
      v.check .filter filters view = .ok q.filters ∧ v.check .action actions view = .ok q.actions := by
  rw [checkQuery]
  cases first : v.check .filter filters view with
  | error e => simp
  | ok fs =>
    simp only [map_eq_ok_iff, Except.ok.injEq]
    constructor
    · rintro ⟨as, passes, rfl⟩
      exact ⟨rfl, passes⟩
    · rintro ⟨rfl, passes⟩
      exact ⟨q.actions, passes, rfl⟩

/-- Checked calls correspond to the calls that were read, in order, and each can be dispatched. -/
theorem dispatches_of_checkCalls {role : Role} {ops : OperationSet} {cs : List Call}
    {checked : List CheckedCall} (passes : v.checkCalls role ops cs = .ok checked) :
    List.Forall₂ (v.Dispatches ops) cs checked := by
  induction cs generalizing checked with
  | nil =>
    obtain rfl : [] = checked := Except.ok.inj passes
    exact .nil
  | cons c cs ih =>
    rw [checkCalls] at passes
    split at passes
    · cases passes
    next d first =>
      obtain ⟨ds, rest, rfl⟩ := map_eq_ok_iff.1 passes
      exact .cons (dispatches_of_checkCall first) (ih rest)

theorem dispatches_of_checkCalls_city :
    let search : Operation :=
      ⟨"near", [⟨"city", .str, some "cities"⟩, ⟨"distance", .float, none⟩], ""⟩
    let ops : OperationSet := ⟨[search], by decide, by decide⟩
    let v := Validator.default.withResolver "cities" (.constant (some "Paris"))
    v.checkCalls .filter ops [⟨"near", [.str "paris", .int 2]⟩] =
        .ok [⟨search, [.str "Paris", .float (Literal.widen 2)]⟩] ∧
      List.Forall₂ (v.Dispatches ops) [⟨"near", [.str "paris", .int 2]⟩]
        [⟨search, [.str "Paris", .float (Literal.widen 2)]⟩] := by
  intro search ops v
  have passes : v.checkCalls .filter ops [⟨"near", [.str "paris", .int 2]⟩] =
      .ok [⟨search, [.str "Paris", .float (Literal.widen 2)]⟩] := rfl
  exact ⟨passes, dispatches_of_checkCalls passes⟩

end Validator

end ViewQuery
