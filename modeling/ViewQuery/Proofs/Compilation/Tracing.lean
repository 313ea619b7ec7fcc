import ViewQuery.Proofs.Compilation.Transform

set_option autoImplicit false

namespace ViewQuery

inductive Body where
  | filter (run : FilterBody)
  | action (run : ActionBody)

def Body.role : Body → Role
  | .filter _ => .filter
  | .action _ => .action

structure BodyCall where
  body : Body
  args : Arguments
  fault : Option InvocationFault

-- The walk over the calls with a record of every body that it runs; its result is the same.
structure Traced (α : Type) where
  -- the first one first
  invocations : List BodyCall
  result : Except CompileError α

namespace Traced

variable {α β : Type}

instance : Monad Traced where
  pure a := ⟨[], .ok a⟩
  bind x f :=
    match x.result with
    | .error e => ⟨x.invocations, .error e⟩
    | .ok a => ⟨x.invocations ++ (f a).invocations, (f a).result⟩

instance : LawfulMonad Traced := LawfulMonad.mk' Traced
  (by rintro α ⟨ran, e | a⟩ <;> simp [Functor.map])
  (by intro α β a f; simp [bind, pure])
  (by
    rintro α β γ ⟨ran, e | a⟩ f g
    · rfl
    · simp only [bind]
      cases (f a).result <;> simp)

def invoke (c : CheckedCall) (body : Body) : Except InvocationFault α → Traced α
  | .error fault => ⟨[⟨body, c.args, some fault⟩], .error (.invocation c.name fault)⟩
  | .ok a => ⟨[⟨body, c.args, none⟩], .ok a⟩

def error? (x : Traced α) : Option CompileError :=
  match x.result with
  | .error e => some e
  | .ok _ => none

theorem result_bind (x : Traced α) (f : α → Traced β) :
    (x >>= f).result = x.result >>= fun a => (f a).result := by
  rcases x with ⟨ran, e | a⟩ <;> rfl

theorem result_map (x : Traced α) (f : α → β) : (f <$> x).result = f <$> x.result := by
  rcases x with ⟨ran, e | a⟩ <;> rfl

theorem result_mapM (f : α → Traced β) (as : List α) :
    (as.mapM f).result = as.mapM fun a => (f a).result := by
  induction as with
  | nil => rfl
  | cons a as ih =>
    simp only [List.mapM_cons, result_bind, ih]
    rfl

theorem result_foldlM (f : β → α → Traced β) (b : β) (as : List α) :
    (as.foldlM f b).result = as.foldlM (fun b a => (f b a).result) b := by
  induction as generalizing b with
  | nil => rfl
  | cons a as ih => simp only [List.foldlM_cons, result_bind, ih]

end Traced

/-- The bodies of the calls run one after the other, up to the first that fails. -/
inductive Runs (owns : Role × CheckedCall → Body → Prop) :
    List (Role × CheckedCall) → List BodyCall → Option CompileError → Prop
  | done : Runs owns [] [] none
  | fails {call : Role × CheckedCall} {calls : List (Role × CheckedCall)} {body : Body}
      (own : owns call body) (fault : InvocationFault) :
      Runs owns (call :: calls) [⟨body, call.2.args, some fault⟩]
        (some (.invocation call.2.name fault))
  | next {call : Role × CheckedCall} {calls : List (Role × CheckedCall)} {body : Body}
      {ran : List BodyCall} {e : Option CompileError} (own : owns call body)
      (rest : Runs owns calls ran e) :
      Runs owns (call :: calls) (⟨body, call.2.args, none⟩ :: ran) e

variable {owns : Role × CheckedCall → Body → Prop} {calls calls' : List (Role × CheckedCall)}
  {ran ran' : List BodyCall} {α β : Type}

theorem Runs.append {e : Option CompileError} (front : Runs owns calls ran none)
    (back : Runs owns calls' ran' e) : Runs owns (calls ++ calls') (ran ++ ran') e := by
  generalize none : (none : Option CompileError) = ended at front
  induction front with
  | done => exact back
  | fails => cases none
  | next own _ ih => exact .next own (ih none)

theorem Runs.stopped {e : CompileError} (front : Runs owns calls ran (some e))
    (calls' : List (Role × CheckedCall)) : Runs owns (calls ++ calls') ran (some e) := by
  generalize failed : some e = ended at front ⊢
  induction front with
  | done => cases failed
  | fails own fault => exact .fails own fault
  | next own _ ih => exact .next own (ih failed)

theorem Runs.error_eq {e : CompileError} (runs : Runs owns calls ran (some e)) :
    ∃ call ∈ calls, ∃ fault, e = .invocation call.2.name fault := by
  generalize failed : some e = ended at runs
  induction runs with
  | done => cases failed
  | @fails call _ _ _ fault => exact ⟨call, by simp, fault, Option.some.inj failed⟩
  | next _ _ ih =>
    obtain ⟨call, member, same⟩ := ih failed
    exact ⟨call, List.mem_cons_of_mem _ member, same⟩

def Traced.Invokes (owns : Role × CheckedCall → Body → Prop) (calls : List (Role × CheckedCall))
    (x : Traced α) : Prop :=
  Runs owns calls x.invocations x.error?

namespace Traced.Invokes

theorem pure (a : α) : Invokes owns [] (Pure.pure a : Traced α) := .done

theorem bind {x : Traced α} {f : α → Traced β} (first : x.Invokes owns calls)
    (rest : ∀ a, (f a).Invokes owns calls') : (x >>= f).Invokes owns (calls ++ calls') := by
  rcases x with ⟨ran, e | a⟩
  · exact Runs.stopped first calls'
  · exact Runs.append first (rest a)

theorem map {x : Traced α} (invokes : x.Invokes owns calls) (f : α → β) :
    (f <$> x).Invokes owns calls := by
  have all : (x >>= fun a => Pure.pure (f a)).Invokes owns (calls ++ []) :=
    invokes.bind fun a => pure (f a)
  rwa [List.append_nil, ← map_eq_pure_bind] at all

theorem invoke {call : Role × CheckedCall} {body : Body} (own : owns call body)
    (outcome : Except InvocationFault α) : (invoke call.2 body outcome).Invokes owns [call] := by
  cases outcome with
  | error fault => exact .fails own fault
  | ok a => exact .next own .done

theorem mapM {f : α → Traced β} {call : α → Role × CheckedCall} {as : List α}
    (each : ∀ a ∈ as, (f a).Invokes owns [call a]) : (as.mapM f).Invokes owns (as.map call) := by
  induction as with
  | nil => exact pure []
  | cons a as ih =>
    obtain ⟨here, others⟩ := List.forall_mem_cons.1 each
    rw [List.mapM_cons]
    refine here.bind fun b => ?_
    simpa using (ih others).map (b :: ·)

theorem foldlM {f : β → α → Traced β} {call : α → Role × CheckedCall} {as : List α}
    (each : ∀ a ∈ as, ∀ b, (f b a).Invokes owns [call a]) (b : β) :
    (as.foldlM f b).Invokes owns (as.map call) := by
  induction as generalizing b with
  | nil => exact pure b
  | cons a as ih =>
    obtain ⟨here, others⟩ := List.forall_mem_cons.1 each
    rw [List.foldlM_cons]
    exact (here b).bind fun b' => ih others b'

end Traced.Invokes

namespace BoundView

variable (b : BoundView)

def body? (name : String) : Role → Option Body
  | .filter => (b.filter? name).map .filter
  | .action => (b.action? name).map .action

def tracedCondition (c : CheckedCall) : Traced Sql.Expr :=
  match b.filter? c.name with
  | none => ⟨[], .error (.unbound b.view.name c.name)⟩
  | some run => .invoke c (.filter run) (run c.args)

def tracedReshape (query : Sql.Select) (c : CheckedCall) : Traced Sql.Select :=
  match b.action? c.name with
  | none => ⟨[], .error (.unbound b.view.name c.name)⟩
  | some run => .invoke c (.action run) (run query c.args)

def traceText (role : Role) (query : Sql.Select) (cs : List CheckedCall) : Traced Sql.Select :=
  transformWith b.tracedCondition b.tracedReshape role query cs

def trace (q : CheckedQuery) : Traced Sql.Select := do
  let query ← b.traceText .filter b.base q.filters
  b.traceText .action query q.actions

theorem result_tracedCondition (c : CheckedCall) :
    (b.tracedCondition c).result = b.condition c := by
  unfold tracedCondition condition
  cases b.filter? c.name with
  | none => rfl
  | some run => simp only; cases run c.args <;> rfl

theorem result_tracedReshape (query : Sql.Select) (c : CheckedCall) :
    (b.tracedReshape query c).result = b.reshape query c := by
  unfold tracedReshape reshape
  cases b.action? c.name with
  | none => rfl
  | some run => simp only; cases run query c.args <;> rfl

theorem result_traceText (role : Role) (query : Sql.Select) (cs : List CheckedCall) :
    (b.traceText role query cs).result = b.transform role query cs := by
  rw [transform_eq, traceText]
  cases role with
  | filter =>
    simp only [transformWith, Traced.result_map, Traced.result_mapM, result_tracedCondition]
  | action => simp only [transformWith, Traced.result_foldlM, result_tracedReshape]

theorem result_trace (q : CheckedQuery) : (b.trace q).result = b.compile q := by
  simp only [trace, compile_eq_bind, Traced.result_bind, result_traceText]
  rfl

variable {b} {role : Role} {cs : List CheckedCall}

theorem invokes_tracedCondition {c : CheckedCall} {body : Body}
    (bound : b.body? c.name .filter = some body) (own : owns (.filter, c) body) :
    (b.tracedCondition c).Invokes owns [(.filter, c)] := by
  obtain ⟨run, found, rfl⟩ := Option.map_eq_some_iff.1 bound
  rw [tracedCondition, found]
  exact .invoke own (run c.args)

theorem invokes_tracedReshape {c : CheckedCall} {body : Body}
    (bound : b.body? c.name .action = some body) (own : owns (.action, c) body)
    (query : Sql.Select) : (b.tracedReshape query c).Invokes owns [(.action, c)] := by
  obtain ⟨run, found, rfl⟩ := Option.map_eq_some_iff.1 bound
  rw [tracedReshape, found]
  exact .invoke own (run query c.args)

theorem invokes_traceText
    (owned : ∀ c ∈ cs, ∃ body, b.body? c.name role = some body ∧ owns (role, c) body)
    (query : Sql.Select) : (b.traceText role query cs).Invokes owns (cs.map (role, ·)) := by
  cases role with
  | filter =>
    refine .map (.mapM fun c member => ?_) query.filterAll
    obtain ⟨body, bound, own⟩ := owned c member
    exact invokes_tracedCondition bound own
  | action =>
    refine .foldlM (fun c member query => ?_) query
    obtain ⟨body, bound, own⟩ := owned c member
    exact invokes_tracedReshape bound own query

end BoundView

end ViewQuery
