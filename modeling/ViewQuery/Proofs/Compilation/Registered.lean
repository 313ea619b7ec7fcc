import Mathlib.Data.List.Nodup
import ViewQuery.Proofs.Compilation.Entering
import ViewQuery.Proofs.Compilation.Tracing

set_option autoImplicit false

namespace ViewQuery

theorem find?_key_eq_some_iff {α : Type} {key : α → String} {as : List α} {name : String} {a : α}
    (nodup : (as.map key).Nodup) : as.find? (key · = name) = some a ↔ a ∈ as ∧ key a = name := by
  constructor
  · intro found
    exact ⟨List.mem_of_find?_eq_some found, by simpa using List.find?_some found⟩
  · rintro ⟨member, rfl⟩
    cases found : as.find? (key · = key a) with
    | none => simpa using List.find?_eq_none.1 found a member
    | some a' =>
      have same : key a' = key a := by simpa using List.find?_some found
      rw [List.inj_on_of_nodup_map nodup (List.mem_of_find?_eq_some found) member same]

structure Registration where
  operation : Operation
  body : Body

namespace Registration

def role (g : Registration) : Role := g.body.role

def name (g : Registration) : String := g.operation.name

end Registration

namespace Registrations

def add (r : Registrations) (g : Registration) : Registrations :=
  match g.body with
  | .filter run => r.filter g.operation run
  | .action run => r.action g.operation run

def addAll (r : Registrations) : List Registration → Registrations
  | [] => r
  | g :: gs => addAll (r.add g) gs

end Registrations

def Declaration.operations (d : Declaration) : Role → List Operation
  | .filter => d.filters
  | .action => d.actions

-- The bodies stored for a role, the latest first.
def bodiesOf (filters : List (String × FilterBody)) (actions : List (String × ActionBody)) :
    Role → List (String × Body)
  | .filter => filters.map fun f => (f.1, .filter f.2)
  | .action => actions.map fun a => (a.1, .action a.2)

theorem BoundView.body?_eq (b : BoundView) (name : String) (role : Role) :
    b.body? name role = ((bodiesOf b.filters b.actions role).find? (·.1 = name)).map Prod.snd := by
  cases role <;> simp [body?, filter?, action?, bodiesOf, List.find?_map, Function.comp_def]

namespace Registrations

variable {r : Registrations} {b : BoundView} {gs : List Registration} {role : Role}

theorem operations_add (r : Registrations) (g : Registration) (role : Role) :
    (r.add g).declaration.operations role =
      r.declaration.operations role ++ if g.role = role then [g.operation] else [] := by
  rcases g with ⟨o, run | run⟩ <;> cases role <;>
    simp [add, filter, action, Declaration.operations, Registration.role, Body.role]

theorem bodies_add (r : Registrations) (g : Registration) (role : Role) :
    bodiesOf (r.add g).filters (r.add g).actions role =
      (if g.role = role then [(g.name, g.body)] else []) ++ bodiesOf r.filters r.actions role := by
  rcases g with ⟨o, run | run⟩ <;> cases role <;>
    simp [add, filter, action, bodiesOf, Registration.role, Registration.name, Body.role]

theorem operations_addAll (r : Registrations) (gs : List Registration) (role : Role) :
    (r.addAll gs).declaration.operations role =
      r.declaration.operations role ++ (gs.filter (·.role = role)).map (·.operation) := by
  induction gs generalizing r with
  | nil => simp [addAll]
  | cons g gs ih =>
    have others := ih (r.add g)
    rw [operations_add, List.append_assoc] at others
    by_cases same : g.role = role
    · simpa [addAll, same] using others
    · simpa [addAll, same] using others

theorem bodies_addAll (r : Registrations) (gs : List Registration) (role : Role) :
    bodiesOf (r.addAll gs).filters (r.addAll gs).actions role =
      ((gs.filter (·.role = role)).map fun g => (g.name, g.body)).reverse ++
        bodiesOf r.filters r.actions role := by
  induction gs generalizing r with
  | nil => simp [addAll]
  | cons g gs ih =>
    have others := ih (r.add g)
    rw [bodies_add] at others
    by_cases same : g.role = role
    · simpa [addAll, same] using others
    · simpa [addAll, same] using others

end Registrations

theorem View.operations_of_ofDeclaration {d : Declaration} {view : View}
    (built : View.ofDeclaration d = .ok view) (role : Role) :
    (view.operations role).toList = d.operations role := by
  unfold View.ofDeclaration at built
  split at built
  · cases built
  next filters first =>
    split at built
    · cases built
    next actions second =>
      obtain rfl := Except.ok.inj built
      cases role with
      | filter => exact (OperationSet.ofList_eq_ok_iff.1 first).2
      | action => exact (OperationSet.ofList_eq_ok_iff.1 second).2

structure BoundView.BuiltFrom (b : BoundView) (gs : List Registration) : Prop where
  exposed : ∀ role, (b.view.operations role).toList =
    (gs.filter (·.role = role)).map (·.operation)
  stored : ∀ role, bodiesOf b.filters b.actions role =
    ((gs.filter (·.role = role)).map fun g => (g.name, g.body)).reverse

theorem Registrations.builtFrom_of_build {name description : String} {base : Sql.Select}
    {gs : List Registration} {b : BoundView}
    (built : ((start name description base).addAll gs).build = .ok b) : b.BuiltFrom gs := by
  unfold build at built
  split at built
  · cases built
  next view declared =>
    obtain rfl := Except.ok.inj built
    refine ⟨fun role => ?_, fun role => ?_⟩
    · rw [View.operations_of_ofDeclaration declared, operations_addAll]
      cases role <;> rfl
    · rw [bodies_addAll]
      cases role <;> exact List.append_nil _

namespace BoundView.BuiltFrom

variable {b : BoundView} {gs : List Registration} {role : Role} {name : String}

theorem get?_eq_some_iff (built : b.BuiltFrom gs) {o : Operation} :
    (b.view.operations role).get? name = some o ↔
      ∃ g ∈ gs, g.role = role ∧ g.name = name ∧ g.operation = o := by
  rw [OperationSet.get?_eq_some_iff, built.exposed]
  constructor
  · rintro ⟨member, rfl⟩
    obtain ⟨g, isOf, rfl⟩ := List.mem_map.1 member
    obtain ⟨member, ofRole⟩ := List.mem_filter.1 isOf
    exact ⟨g, member, of_decide_eq_true ofRole, rfl, rfl⟩
  · rintro ⟨g, member, ofRole, rfl, rfl⟩
    exact ⟨List.mem_map.2 ⟨g, List.mem_filter.2 ⟨member, decide_eq_true ofRole⟩, rfl⟩, rfl⟩

theorem body?_eq_some_iff (built : b.BuiltFrom gs) {body : Body} :
    b.body? name role = some body ↔
      ∃ g ∈ gs, g.role = role ∧ g.name = name ∧ g.body = body := by
  -- The names stored are those listed, which differ from each other.
  have nodup : ((bodiesOf b.filters b.actions role).map Prod.fst).Nodup := by
    have names := (b.view.operations role).wellFormed.names_nodup
    rw [built.exposed, List.map_map] at names
    rw [built.stored, List.map_reverse, List.nodup_reverse, List.map_map]
    exact names
  have isStored (f : String × Body) : f ∈ bodiesOf b.filters b.actions role ↔
      ∃ g ∈ gs, g.role = role ∧ (g.name, g.body) = f := by
    rw [built.stored, List.mem_reverse, List.mem_map]
    simp [and_assoc]
  rw [body?_eq, Option.map_eq_some_iff]
  simp only [find?_key_eq_some_iff nodup, isStored]
  constructor
  · rintro ⟨_, ⟨⟨g, member, ofRole, rfl⟩, named⟩, rfl⟩
    exact ⟨g, member, ofRole, named, rfl⟩
  · rintro ⟨g, member, ofRole, named, rfl⟩
    exact ⟨_, ⟨⟨g, member, ofRole, rfl⟩, named⟩, rfl⟩

theorem isSome_body? (built : b.BuiltFrom gs) (role : Role) (name : String) :
    (b.body? name role).isSome = (b.view.operations role).contains name := by
  rw [OperationSet.contains_eq_isSome_get?, Bool.eq_iff_iff, Option.isSome_iff_exists,
    Option.isSome_iff_exists]
  simp only [built.body?_eq_some_iff, built.get?_eq_some_iff]
  constructor
  · rintro ⟨_, g, member, ofRole, named, -⟩
    exact ⟨_, g, member, ofRole, named, rfl⟩
  · rintro ⟨_, g, member, ofRole, named, -⟩
    exact ⟨_, g, member, ofRole, named, rfl⟩

end BoundView.BuiltFrom

-- The body was registered with the operation of the call, for the role of the call.
def OwnBody (gs : List Registration) (call : Role × CheckedCall) (body : Body) : Prop :=
  ⟨call.2.operation, body⟩ ∈ gs ∧ body.role = call.1

theorem BoundView.BuiltFrom.owned {b : BoundView} {gs : List Registration} {v : Validator}
    {role : Role} {source : String} {cs : List CheckedCall} (built : b.BuiltFrom gs)
    (passes : v.check role source b.view = .ok cs) :
    ∀ c ∈ cs, ∃ body, b.body? c.name role = some body ∧ OwnBody gs (role, c) body := by
  intro c member
  obtain ⟨e, -, dispatches⟩ := Validator.dispatches_of_check passes
  obtain ⟨call, -, dispatch⟩ := exists_left_of_mem dispatches member
  have exposed := dispatch.member
  rw [built.exposed] at exposed
  obtain ⟨g, isOf, same⟩ := List.mem_map.1 exposed
  obtain ⟨registered, ofRole⟩ := List.mem_filter.1 isOf
  have ofRole : g.role = role := of_decide_eq_true ofRole
  refine ⟨g.body, built.body?_eq_some_iff.2 ⟨g, registered, ofRole, ?_, rfl⟩, ?_, ofRole⟩
  · rw [Registration.name, same, CheckedCall.name]
  · rwa [← same]

theorem Traced.Invokes.ne_unbound {α : Type} {owns : Role × CheckedCall → Body → Prop}
    {calls : List (Role × CheckedCall)} {x : Traced α} (invokes : x.Invokes owns calls)
    (view name : String) : x.result ≠ .error (.unbound view name) := by
  intro fails
  rw [Invokes, error?, fails] at invokes
  obtain ⟨call, -, fault, same⟩ := invokes.error_eq
  cases same

theorem Session.Enters.ne_unbound {r r' : Runner} {gs : List Registration} {role : Role}
    {source : String} {outcome : Except (Stop CompileError) Unit} (built : r.bound.BuiltFrom gs)
    (entered : Enters r role source outcome r') (view name : String) :
    outcome ≠ .error (.error (.unbound view name)) := by
  rintro rfl
  cases entered with
  | refused fails =>
    unfold Runner.checkText at fails
    split at fails <;> cases fails
  | failed passes fails =>
    have bound := (BoundView.invokes_traceText (built.owned passes) r.query).ne_unbound view name
    rw [BoundView.result_traceText, BoundView.transform_eq] at bound
    exact bound fails

namespace Registrations

/-- In a view that was built from registrations, a name is exposed exactly if it is bound, and both
its operation and its body are those of one registration. Calls that passed the check are carried
out by the bodies registered with their operations, each once and in order, up to the first that
fails; none is found unbound. -/
theorem build_binds_exposed {name description : String} {base : Sql.Select}
    {gs : List Registration} {b : BoundView}
    (built : ((start name description base).addAll gs).build = .ok b) :
    (∀ role, (b.view.operations role).toList =
      (gs.filter (·.role = role)).map (·.operation)) ∧
    (∀ role name, (b.body? name role).isSome = (b.view.operations role).contains name) ∧
    (∀ g ∈ gs, (b.view.operations g.role).get? g.name = some g.operation ∧
      b.body? g.name g.role = some g.body) ∧
    (∀ (v : Validator) (filters actions : String) (q : CheckedQuery),
      v.checkQuery filters actions b.view = .ok q →
        (b.trace q).Invokes (OwnBody gs)
            (q.filters.map (.filter, ·) ++ q.actions.map (.action, ·)) ∧
          (b.trace q).result = b.compile q ∧
          ∀ view name, b.compile q ≠ .error (.unbound view name)) ∧
    ∀ (r : Runner) (role : Role) (source : String), r.bound = b →
      let outcome := ((Session.enter role source).run r).run.1
      (∀ view name, outcome ≠ .error (.error (.unbound view name))) ∧
      ∀ cs, r.validator.check role source b.view = .ok cs →
        (b.traceText role r.query cs).Invokes (OwnBody gs) (cs.map (role, ·)) ∧
          outcome = ((b.traceText role r.query cs).result.map fun _ => ()).mapError .error := by
  have made := builtFrom_of_build built
  refine ⟨made.exposed, made.isSome_body?, fun g member => ⟨?_, ?_⟩, ?_, ?_⟩
  · exact made.get?_eq_some_iff.2 ⟨g, member, rfl, rfl, rfl⟩
  · exact made.body?_eq_some_iff.2 ⟨g, member, rfl, rfl, rfl⟩
  · intro v filters actions q passes
    obtain ⟨filtersPass, actionsPass⟩ := Validator.checkQuery_eq_ok_iff.1 passes
    have invokes : (b.trace q).Invokes (OwnBody gs)
        (q.filters.map (.filter, ·) ++ q.actions.map (.action, ·)) :=
      (BoundView.invokes_traceText (made.owned filtersPass) b.base).bind fun query =>
        BoundView.invokes_traceText (made.owned actionsPass) query
    refine ⟨invokes, b.result_trace q, fun view name => ?_⟩
    rw [← b.result_trace q]
    exact invokes.ne_unbound view name
  · rintro r role source rfl outcome
    have entered := Session.enters r role source
    refine ⟨entered.ne_unbound made, fun cs passes => ⟨?_, ?_⟩⟩
    · exact BoundView.invokes_traceText (made.owned passes) r.query
    · rw [BoundView.result_traceText]
      exact entered.outcome_eq passes

-- One name for both roles; the second action fails and the third is not reached.
theorem build_binds_exposed_top :
    let top : Operation := ⟨"top", [⟨"n", .int, none⟩], ""⟩
    let above : FilterBody := fun args =>
      (args.int 0).map fun n => .compare .gt (.ofName "n") (.literal (.int n))
    let limit : ActionBody := fun q args => (args.count 0).map q.limitTo
    let gs : List Registration := [⟨top, .filter above⟩, ⟨top, .action limit⟩]
    let b : BoundView :=
      ⟨⟨"Numbers", "", ⟨[top], by decide, by decide⟩, ⟨[top], by decide, by decide⟩⟩,
        .ofTable "numbers", [("top", above)], [("top", limit)]⟩
    let q : CheckedQuery :=
      ⟨[⟨top, [.int 2]⟩], [⟨top, [.int 3]⟩, ⟨top, [.int (-1)]⟩, ⟨top, [.int 5]⟩]⟩
    let fault : InvocationFault := .invalid "expected a non-negative count, got -1"
    ((start "Numbers" "" (.ofTable "numbers")).addAll gs).build = .ok b ∧
      Validator.default.checkQuery "top(2)" "top(3)\ntop(-1)\ntop(5)" b.view = .ok q ∧
      b.body? "top" .filter = some (.filter above) ∧
      b.body? "top" .action = some (.action limit) ∧
      (b.trace q).invocations = [⟨.filter above, [.int 2], none⟩, ⟨.action limit, [.int 3], none⟩,
        ⟨.action limit, [.int (-1)], some fault⟩] ∧
      (∀ view name, b.compile q ≠ .error (.unbound view name)) ∧
      b.compile q = .error (.invocation "top" fault) := by
  intro top above limit gs b q fault
  have built : ((start "Numbers" "" (.ofTable "numbers")).addAll gs).build = .ok b := rfl
  have passes :
      Validator.default.checkQuery "top(2)" "top(3)\ntop(-1)\ntop(5)" b.view = .ok q := rfl
  obtain ⟨-, -, own, compiled, -⟩ := build_binds_exposed built
  obtain ⟨-, -, bound⟩ := compiled .default _ _ q passes
  exact ⟨built, passes, (own ⟨top, .filter above⟩ (by simp [gs])).2,
    (own ⟨top, .action limit⟩ (by simp [gs])).2, rfl, bound, rfl⟩

end Registrations

end ViewQuery
