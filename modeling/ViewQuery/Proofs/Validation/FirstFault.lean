import ViewQuery.Proofs.Grammar.Exactness
import ViewQuery.Proofs.Validation.Dispatch

set_option autoImplicit false

namespace ViewQuery

def Parameter.admits (p : Parameter) (l : Literal) : Bool :=
  l.type = p.type || (p.type = .float && l.type = .int)

def Grammar.Rejects (role : Role) (source : String) : Prop :=
  ∀ e : Expression, e.role = role → ¬e.Spells source.toList

theorem Grammar.rejects_iff {role : Role} {source : String} :
    Rejects role source ↔ ∃ e, Expression.read role source = .error e := by
  constructor
  · intro rejects
    cases read : Expression.read role source with
    | error e => exact ⟨e, rfl⟩
    | ok e =>
      obtain ⟨same, text⟩ := Expression.read_sound read
      exact absurd text (rejects e same)
  · rintro ⟨e, unread⟩ expression rfl text
    rw [Expression.read_complete text] at unread
    cases unread

namespace Validator

inductive Step where
  | read (role : Role) (source : String)
  | find (role : Role) (ops : OperationSet) (name : String)
  | count (o : Operation) (found : Nat)
  | type (operation : String) (p : Parameter) (l : Literal)
  | resolve (operation param hint raw : String)

def asked (v : Validator) (hint raw : String) : Except (Stop Unresolved) String :=
  match v.resolver? hint with
  | none => .error (.error (.noResolver hint))
  | some resolver =>
    match resolver raw with
    | .crashes => .error .crash
    | .answers after answer =>
      if v.timeLimit < after then .error (.error (.timedOut v.timeLimit))
      else
        match answer with
        | .found value => .ok value
        | .nothing => .error (.error .notFound)
        | .failed message => .error (.error (.failed message))

def fault? (v : Validator) : Step → Option (Stop QueryError)
  | .read role source =>
    match Expression.read role source with
    | .ok _ => none
    | .error e => some (.error (.read e))
  | .find role ops name =>
    if ops.contains name then none else some (.error (.unsupported role name))
  | .count o found =>
    if found = o.arity then none else some (.error (.arity o.name o.arity found))
  | .type operation p l =>
    if p.admits l then none else some (.error (.type operation p.name p.type l))
  | .resolve operation param hint raw =>
    match v.asked hint raw with
    | .ok _ => none
    | .error .crash => some .crash
    | .error (.error reason) => some (.error (.unresolved operation param raw reason))

-- The steps that are taken: those before the first fault, and the one at fault.
def taken (v : Validator) : List Step → List Step
  | [] => []
  | s :: steps => s :: if (v.fault? s).isNone then taken v steps else []

section

-- Whether hinted texts are resolved is all that the steps depend on.
variable (resolves : Bool)

def argSteps (operation : String) (p : Parameter) (l : Literal) : List Step :=
  .type operation p l ::
    match p.similarity, l with
    | some hint, .str raw => if resolves then [.resolve operation p.name hint raw] else []
    | _, _ => []

def callSteps (role : Role) (ops : OperationSet) (c : Call) : List Step :=
  .find role ops c.name ::
    match ops.get? c.name with
    | none => []
    | some o =>
      .count o c.args.length :: (List.zipWith (argSteps resolves o.name) o.params c.args).flatten

def textSteps (role : Role) (source : String) (view : View) : List Step :=
  .read role source ::
    match Expression.read role source with
    | .error _ => []
    | .ok e => e.calls.flatMap (callSteps resolves role (view.operations role))

def querySteps (filters actions : String) (view : View) : List Step :=
  textSteps resolves .filter filters view ++ textSteps resolves .action actions view

end

variable {v v' : Validator} {s : Step} {steps steps' : List Step} {α β : Type}
  {x x' : Except (Stop QueryError) α}

def Agrees (v v' : Validator) (steps : List Step) : Prop :=
  ∀ operation param hint raw, .resolve operation param hint raw ∈ steps →
    v'.asked hint raw = v.asked hint raw

theorem Agrees.mono (agrees : v.Agrees v' steps) (fewer : steps' ⊆ steps) : v.Agrees v' steps' :=
  fun operation param hint raw member => agrees operation param hint raw (fewer member)

theorem taken_append (v : Validator) (steps steps' : List Step) :
    v.taken (steps ++ steps') =
      v.taken steps ++ if (steps.findSome? v.fault?).isNone then v.taken steps' else [] := by
  induction steps with
  | nil => rfl
  | cons s steps ih =>
    cases fault : v.fault? s with
    | none => simp [taken, fault, ih]
    | some e => simp [taken, fault]

def stop? : Except (Stop QueryError) α → Option (Stop QueryError)
  | .error e => some e
  | .ok _ => none

/-- A computation that ends with the first fault of its steps. With another validator it comes to
the same, if that agrees on what is asked up to there. -/
structure Follows (v v' : Validator) (steps : List Step) (x x' : Except (Stop QueryError) α) :
    Prop where
  fault : stop? x = steps.findSome? v.fault?
  same : v.Agrees v' (v.taken steps) → x' = x

namespace Follows

theorem ok (v v' : Validator) (a : α) : Follows v v' [] (.ok a) (.ok a) := ⟨rfl, fun _ => rfl⟩

theorem stop {e : Stop QueryError} (fault : v.fault? s = some e) (steps : List Step) :
    Follows v v' (s :: steps) (.error e : Except _ α) (.error e) :=
  ⟨by rw [List.findSome?_cons, fault]; rfl, fun _ => rfl⟩

theorem pass (passes : v.fault? s = none) (rest : Follows v v' steps x x') :
    Follows v v' (s :: steps) x x' where
  fault := by rw [rest.fault, List.findSome?_cons, passes]
  same agrees := rest.same (agrees.mono (by simp [taken, passes]))

theorem map (follows : Follows v v' steps x x') (f : α → β) :
    Follows v v' steps (x.map f) (x'.map f) where
  fault := by
    rw [← follows.fault]
    cases x <;> rfl
  same agrees := by rw [follows.same agrees]

theorem bind {f f' : α → Except (Stop QueryError) β} (first : Follows v v' steps x x')
    (rest : ∀ a, x = .ok a → Follows v v' steps' (f a) (f' a)) :
    Follows v v' (steps ++ steps') (x.bind f) (x'.bind f') := by
  have agreesFirst (agrees : v.Agrees v' (v.taken (steps ++ steps'))) : x' = x :=
    first.same (agrees.mono (by simp [taken_append]))
  have ends := first.fault
  cases x with
  | error e =>
    refine ⟨?_, fun agrees => by rw [agreesFirst agrees]; rfl⟩
    rw [List.findSome?_append, ← ends]
    rfl
  | ok a =>
    have passes : steps.findSome? v.fault? = none := ends.symm
    refine ⟨?_, fun agrees => ?_⟩
    · rw [List.findSome?_append, passes, Option.none_or]
      exact (rest a rfl).fault
    · rw [agreesFirst agrees]
      exact (rest a rfl).same (agrees.mono (by simp [taken_append, passes]))

end Follows

theorem resolve_eq (v : Validator) (name param hint raw : String) :
    v.resolve name param hint raw =
      match v.asked hint raw with
      | .ok value => .ok value
      | .error .crash => .error .crash
      | .error (.error reason) => .error (.error (.unresolved name param raw reason)) := by
  unfold resolve asked
  cases v.resolver? hint with
  | none => rfl
  | some resolver =>
    simp only
    cases resolver raw with
    | crashes => rfl
    | answers after answer =>
      by_cases late : v.timeLimit < after
      · simp [Resolution.within, late]
      · cases answer <;> simp [Resolution.within, late]

theorem follows_resolve (v v' : Validator) (name param hint raw : String) :
    Follows v v' [.resolve name param hint raw] (v.resolve name param hint raw)
      (v'.resolve name param hint raw) where
  fault := by
    rw [resolve_eq, List.findSome?_singleton, fault?]
    split <;> rfl
  same agrees := by
    have same : v'.asked hint raw = v.asked hint raw := agrees name param hint raw (by simp [taken])
    rw [resolve_eq, resolve_eq, same]

theorem coerce?_eq_none_iff {p : Parameter} {l : Literal} :
    coerce? p.type l = none ↔ p.admits l = false := by
  cases type : p.type <;> cases l <;> simp [coerce?, Parameter.admits, type, Literal.type]

theorem follows_checkArg (alike : v'.resolves = v.resolves) (name : String) (p : Parameter)
    (l : Literal) :
    Follows v v' (argSteps v.resolves name p l) (v.checkArg name p l) (v'.checkArg name p l) := by
  unfold checkArg argSteps
  cases coerced : coerce? p.type l with
  | none => exact .stop (by simp [fault?, coerce?_eq_none_iff.1 coerced]) _
  | some a =>
    have admits : p.admits l = true := by
      by_contra refused
      rw [Bool.not_eq_true, ← coerce?_eq_none_iff, coerced] at refused
      cases refused
    refine .pass (by simp [fault?, admits]) ?_
    rcases coerce?_cases coerced with rfl | ⟨-, n, rfl, rfl⟩
    · cases p.similarity with
      | none => exact .ok v v' a
      | some hint =>
        cases a with
        | str raw =>
          simp only [alike]
          by_cases resolves : v.resolves
          · simp only [resolves, if_true]
            exact (follows_resolve v v' name p.name hint raw).map Literal.str
          · simp only [resolves]
            exact .ok v v' _
        | _ => exact .ok v v' _
    · cases p.similarity <;> exact .ok v v' _

theorem checkArgs_cons (v : Validator) (name : String) (p : Parameter) (ps : List Parameter)
    (l : Literal) (ls : List Literal) :
    v.checkArgs name (p :: ps) (l :: ls) =
      (v.checkArg name p l).bind fun a => (v.checkArgs name ps ls).map (a :: ·) := by
  rw [checkArgs]
  cases v.checkArg name p l <;> rfl

theorem follows_checkArgs (alike : v'.resolves = v.resolves) (name : String) (ps : List Parameter)
    (ls : List Literal) :
    Follows v v' (List.zipWith (argSteps v.resolves name) ps ls).flatten (v.checkArgs name ps ls)
      (v'.checkArgs name ps ls) := by
  induction ps generalizing ls with
  | nil => exact .ok v v' []
  | cons p ps ih =>
    cases ls with
    | nil => exact .ok v v' []
    | cons l ls =>
      rw [List.zipWith_cons_cons, List.flatten_cons, checkArgs_cons, checkArgs_cons]
      exact (follows_checkArg alike name p l).bind fun a _ => (ih ls).map (a :: ·)

theorem follows_checkCall (alike : v'.resolves = v.resolves) (role : Role) (ops : OperationSet)
    (c : Call) :
    Follows v v' (callSteps v.resolves role ops c) (v.checkCall role ops c)
      (v'.checkCall role ops c) := by
  unfold checkCall callSteps
  cases found : ops.get? c.name with
  | none =>
    have absent : ops.contains c.name = false := by simp [ops.contains_eq_isSome_get?, found]
    exact .stop (by simp [fault?, absent]) _
  | some o =>
    have present : ops.contains c.name = true := by simp [ops.contains_eq_isSome_get?, found]
    have named : o.name = c.name := (OperationSet.get?_eq_some_iff.1 found).2
    refine .pass (by simp [fault?, present]) ?_
    by_cases arity : c.args.length = o.arity
    · simp only [arity, ne_eq, not_true_eq_false, if_false]
      exact .pass (by simp [fault?]) ((follows_checkArgs alike o.name o.params c.args).map _)
    · simp only [arity, ne_eq, not_false_eq_true, if_true]
      exact .stop (by simp [fault?, arity, named]) _

theorem checkCalls_cons (v : Validator) (role : Role) (ops : OperationSet) (c : Call)
    (cs : List Call) :
    v.checkCalls role ops (c :: cs) =
      (v.checkCall role ops c).bind fun checked =>
        (v.checkCalls role ops cs).map (checked :: ·) := by
  rw [checkCalls]
  cases v.checkCall role ops c <;> rfl

theorem follows_checkCalls (alike : v'.resolves = v.resolves) (role : Role) (ops : OperationSet)
    (cs : List Call) :
    Follows v v' (cs.flatMap (callSteps v.resolves role ops)) (v.checkCalls role ops cs)
      (v'.checkCalls role ops cs) := by
  induction cs with
  | nil => exact .ok v v' []
  | cons c cs ih =>
    rw [List.flatMap_cons, checkCalls_cons, checkCalls_cons]
    exact (follows_checkCall alike role ops c).bind fun checked _ => ih.map (checked :: ·)

theorem follows_check (alike : v'.resolves = v.resolves) (role : Role) (source : String)
    (view : View) :
    Follows v v' (textSteps v.resolves role source view) (v.check role source view)
      (v'.check role source view) := by
  unfold check textSteps
  cases read : Expression.read role source with
  | error e => exact .stop (by simp [fault?, read]) _
  | ok e => exact .pass (by simp [fault?, read]) (follows_checkCalls alike role _ e.calls)

theorem checkQuery_eq_bind (v : Validator) (filters actions : String) (view : View) :
    v.checkQuery filters actions view =
      (v.check .filter filters view).bind fun fs =>
        (v.check .action actions view).map (CheckedQuery.mk fs) := by
  rw [checkQuery]
  cases v.check .filter filters view <;> rfl

theorem follows_checkQuery (alike : v'.resolves = v.resolves) (filters actions : String)
    (view : View) :
    Follows v v' (querySteps v.resolves filters actions view) (v.checkQuery filters actions view)
      (v'.checkQuery filters actions view) := by
  rw [checkQuery_eq_bind, checkQuery_eq_bind]
  exact (follows_check alike .filter filters view).bind fun fs _ =>
    (follows_check alike .action actions view).map (CheckedQuery.mk fs)

theorem read_notMem_argSteps {resolves : Bool} {operation : String} {p : Parameter} {l : Literal}
    {role : Role} {source : String} : .read role source ∉ argSteps resolves operation p l := by
  simp only [argSteps, List.mem_cons, reduceCtorEq, false_or]
  split
  · split <;> simp
  · exact List.not_mem_nil

theorem read_notMem_callSteps {resolves : Bool} {role role' : Role} {ops : OperationSet} {c : Call}
    {source : String} : .read role' source ∉ callSteps resolves role ops c := by
  simp only [callSteps, List.mem_cons, reduceCtorEq, false_or]
  split
  · exact List.not_mem_nil
  · simp only [List.mem_cons, reduceCtorEq, false_or, List.mem_flatten, not_exists, not_and]
    intro steps ofArgument
    obtain ⟨i, inside, rfl⟩ := List.getElem_of_mem ofArgument
    rw [List.getElem_zipWith]
    exact read_notMem_argSteps

theorem isSemantic_of_fault? {e : QueryError} (other : ∀ role source, s ≠ .read role source)
    (fault : v.fault? s = some (.error e)) : e.kind.isSemantic = true := by
  cases s with
  | read role source => exact absurd rfl (other role source)
  | _ =>
    simp only [fault?] at fault
    split at fault <;> cases fault
    rfl

theorem isSemantic_of_checkCalls {role : Role} {ops : OperationSet} {cs : List Call}
    {e : QueryError} (fails : v.checkCalls role ops cs = .error (.error e)) :
    e.kind.isSemantic = true := by
  have first := (follows_checkCalls (v := v) rfl role ops cs).fault
  rw [fails] at first
  obtain ⟨s, member, fault⟩ := List.exists_of_findSome?_eq_some first.symm
  obtain ⟨c, -, member⟩ := List.mem_flatMap.1 member
  refine isSemantic_of_fault? (fun role' source same => ?_) fault
  exact read_notMem_callSteps (same ▸ member)

theorem kind_of_check {role : Role} {source : String} {view : View} {e : QueryError}
    (fails : v.check role source view = .error (.error e)) :
    (e.kind = .syntaxError ↔ Grammar.Rejects role source) ∧
      (e.kind = .syntaxError ∨ e.kind.isSemantic = true) := by
  unfold check at fails
  split at fails
  · next unread read =>
    obtain rfl := Stop.error.inj (Except.error.inj fails)
    exact ⟨iff_of_true rfl (Grammar.rejects_iff.2 ⟨unread, read⟩), .inl rfl⟩
  · next x read =>
    have isSemantic := isSemantic_of_checkCalls fails
    refine ⟨iff_of_false (fun same => ?_) fun rejects => ?_, .inr isSemantic⟩
    · rw [same] at isSemantic
      cases isSemantic
    · obtain ⟨unread, refused⟩ := Grammar.rejects_iff.1 rejects
      rw [read] at refused
      cases refused

theorem check_of_rejects {role : Role} {source : String} (rejects : Grammar.Rejects role source)
    (v : Validator) (view : View) :
    ∃ e, v.check role source view = .error (.error e) ∧ e.kind = .syntaxError := by
  obtain ⟨e, unread⟩ := Grammar.rejects_iff.1 rejects
  exact ⟨.read e, by rw [check, unread], rfl⟩

theorem checkQuery_eq_error_iff {filters actions : String} {view : View} {e : Stop QueryError} :
    v.checkQuery filters actions view = .error e ↔
      v.check .filter filters view = .error e ∨
        (∃ fs, v.check .filter filters view = .ok fs) ∧
          v.check .action actions view = .error e := by
  rw [checkQuery]
  cases v.check .filter filters view with
  | error e' => simp
  | ok fs => cases v.check .action actions view <;> simp [Except.map]

theorem syntaxError_iff {filters actions : String} {view : View} :
    (∃ e, v.checkQuery filters actions view = .error (.error e) ∧ e.kind = .syntaxError) ↔
      Grammar.Rejects .filter filters ∨
        (∃ fs, v.check .filter filters view = .ok fs) ∧ Grammar.Rejects .action actions := by
  simp only [checkQuery_eq_error_iff]
  constructor
  · rintro ⟨e, fails | ⟨passes, fails⟩, isSyntax⟩
    · exact .inl ((kind_of_check fails).1.1 isSyntax)
    · exact .inr ⟨passes, (kind_of_check fails).1.1 isSyntax⟩
  · rintro (rejects | ⟨passes, rejects⟩)
    · obtain ⟨e, fails, isSyntax⟩ := check_of_rejects rejects v view
      exact ⟨e, .inl fails, isSyntax⟩
    · obtain ⟨e, fails, isSyntax⟩ := check_of_rejects rejects v view
      exact ⟨e, .inr ⟨passes, fails⟩, isSyntax⟩

def NeverCrashes (v : Validator) : Prop := ∀ r ∈ v.resolvers, ∀ raw, r.2 raw ≠ .crashes

theorem NeverCrashes.fault?_ne (never : v.NeverCrashes) (s : Step) : v.fault? s ≠ some .crash := by
  intro fault
  cases s with
  | resolve operation param hint raw =>
    simp only [fault?] at fault
    split at fault
    · cases fault
    · next crashed =>
      unfold asked at crashed
      split at crashed
      · cases crashed
      next resolver named =>
        split at crashed
        · next crashes =>
          obtain ⟨r, first, rfl⟩ := Option.map_eq_some_iff.1 named
          exact never r (List.mem_of_find?_eq_some first) raw crashes
        · split at crashed
          · cases crashed
          · split at crashed <;> cases crashed
    · cases fault
  | _ =>
    simp only [fault?] at fault
    split at fault <;> cases fault

theorem NeverCrashes.checkQuery_ne (never : v.NeverCrashes) (filters actions : String)
    (view : View) : v.checkQuery filters actions view ≠ .error .crash := by
  intro crashed
  have first := (follows_checkQuery (v := v) rfl filters actions view).fault
  rw [crashed] at first
  obtain ⟨s, -, fault⟩ := List.exists_of_findSome?_eq_some first.symm
  exact never.fault?_ne s fault

/-- Two texts pass the check exactly if none of its steps is at fault, and fail with the error of
the first step that is. The resolvers asked are those of the steps up to that one: with others that
make the same of the texts asked there, late answers included, the check comes to the same. An error
is a syntax error exactly if the grammar rejects the text it is about. -/
theorem checkQuery_first_fault (v : Validator) (filters actions : String) (view : View) :
    let steps := querySteps v.resolves filters actions view
    ((∃ q, v.checkQuery filters actions view = .ok q) ↔ ∀ s ∈ steps, v.fault? s = none) ∧
    (∀ e, v.checkQuery filters actions view = .error e ↔
      ∃ before s after, steps = before ++ s :: after ∧ (∀ b ∈ before, v.fault? b = none) ∧
        v.fault? s = some e) ∧
    (v.NeverCrashes → v.checkQuery filters actions view ≠ .error .crash) ∧
    (∀ v' : Validator, v'.resolves = v.resolves → v.Agrees v' (v.taken steps) →
      v'.checkQuery filters actions view = v.checkQuery filters actions view) ∧
    ((∃ e, v.checkQuery filters actions view = .error (.error e) ∧ e.kind = .syntaxError) ↔
      Grammar.Rejects .filter filters ∨
        (∃ fs, v.check .filter filters view = .ok fs) ∧ Grammar.Rejects .action actions) ∧
    ∀ e, v.checkQuery filters actions view = .error (.error e) →
      e.kind = .syntaxError ∨ e.kind.isSemantic = true := by
  intro steps
  have first := (follows_checkQuery (v := v) rfl filters actions view).fault
  refine ⟨?_, fun e => ?_, fun never => never.checkQuery_ne filters actions view,
    fun v' alike agrees => (follows_checkQuery alike filters actions view).same agrees,
    syntaxError_iff, fun e fails => ?_⟩
  · rw [← List.findSome?_eq_none_iff, ← first]
    cases v.checkQuery filters actions view <;> simp [stop?]
  · have decided : v.checkQuery filters actions view = .error e ↔
        steps.findSome? v.fault? = some e := by
      rw [← first]
      cases v.checkQuery filters actions view <;> simp [stop?]
    rw [decided, List.findSome?_eq_some_iff]
    constructor
    · rintro ⟨before, s, after, split, fault, pass⟩
      exact ⟨before, s, after, split, pass, fault⟩
    · rintro ⟨before, s, after, split, pass, fault⟩
      exact ⟨before, s, after, split, fault, pass⟩
  · rcases checkQuery_eq_error_iff.1 fails with fails | ⟨-, fails⟩
    · exact (kind_of_check fails).2
    · exact (kind_of_check fails).2

-- Answers that are each as late as the limit allows pass together; behind a fault nothing is asked.
example :
    let trip : Operation :=
      ⟨"trip", [⟨"start", .str, some "city"⟩, ⟨"goal", .str, some "city"⟩, ⟨"seats", .int, none⟩,
        ⟨"stop", .str, some "city"⟩], ""⟩
    let view : View := ⟨"Trips", "", ⟨[trip], by decide, by decide⟩, ⟨[], by decide, by decide⟩⟩
    let city : Resolver := fun raw =>
      if raw = "Atlantis" then .crashes else .answers 10000 (.found raw)
    let v := Validator.default.withResolver "city" city
    v.checkQuery "trip('Oslo', 'Rome', 2, 'Paris')" "" view =
        .ok ⟨[⟨trip, [.str "Oslo", .str "Rome", .int 2, .str "Paris"]⟩], []⟩ ∧
      v.checkQuery "trip('Oslo', 'Rome', '2', 'Atlantis') and ghost()" "(" view =
        .error (.error (.type "trip" "seats" .int (.str "2"))) := by
  decide +kernel

end Validator

end ViewQuery
