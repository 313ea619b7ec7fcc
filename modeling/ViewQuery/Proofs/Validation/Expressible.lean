import ViewQuery.Proofs.Compilation.Registered
import ViewQuery.Proofs.Validation.Rechecking

set_option autoImplicit false

namespace ViewQuery

open Decimal Grammar

structure Operation.Takes (o : Operation) (args : List Literal) : Prop where
  types : args.map Literal.type = o.params.map Parameter.type
  finite : ∀ x, .float x ∈ args → (ofFloat x).isFinite

variable {view : View} {role : Role} {o : Operation} {args : List Literal} {v : Validator}

theorem Expression.read_single_iff {c : Call}
    (finite : ∀ x, .float x ∈ c.args → (ofFloat x).isFinite) :
    Expression.read role c.text = .ok ⟨role, [c]⟩ ↔ Identifier c.name.toList := by
  constructor
  · intro read
    exact (Expression.writable_of_read read c (List.mem_singleton_self c)).name
  · intro name
    refine Expression.read_of_writable ⟨role, [c]⟩ fun d member => ?_
    rw [List.mem_singleton.1 member]
    exact ⟨name, finite⟩

theorem Operation.Takes.length_eq (takes : o.Takes args) : args.length = o.arity := by
  simpa [Operation.arity] using congrArg List.length takes.types

namespace Validator

theorem fits_self (off : v.resolves = false) {p : Parameter} {l : Literal}
    (type : l.type = p.type) : v.Fits p l l := by
  refine ⟨type, fun _ => .inl rfl, fun on => ?_⟩
  rw [off] at on
  cases on

theorem checkArgs_of_takes (off : v.resolves = false) (takes : o.Takes args) :
    v.checkArgs o.name o.params args = .ok args := by
  have count := takes.length_eq
  refine checkArgs_of_fits (settled_of_catalogs (.inl off)) count fun i p isParam => ?_
  have inside : i < args.length := count ▸ (List.getElem?_eq_some_iff.1 isParam).1
  have isArg := List.getElem?_eq_getElem inside
  have type : args[i].type = p.type := by
    simpa [isArg, isParam] using congrArg (·[i]?) takes.types
  exact ⟨args[i], args[i], isArg, fits_self off type⟩

theorem checkCalls_of_takes (off : v.resolves = false)
    (exposed : o ∈ (view.operations role).toList) (takes : o.Takes args) :
    v.checkCalls role (view.operations role) [⟨o.name, args⟩] = .ok [⟨o, args⟩] := by
  have found : (view.operations role).get? o.name = some o :=
    OperationSet.get?_eq_some_iff.2 ⟨exposed, rfl⟩
  simp only [checkCalls, checkCall, found, takes.length_eq, ne_eq, not_true_eq_false, if_false,
    checkArgs_of_takes off takes, Except.map]

theorem identifier_of_check {source : String} {kept : CheckedCall}
    (passes : v.check role source view = .ok [kept]) : Identifier kept.name.toList := by
  obtain ⟨e, read, dispatches⟩ := dispatches_of_check passes
  obtain ⟨c, rest, dispatch, -, same⟩ := List.forall₂_cons_right_iff.1 dispatches
  rw [CheckedCall.name, dispatch.named]
  exact (Expression.writable_of_read read c (same ▸ List.mem_cons_self)).name

/-- The text of a call of an exposed operation is read as that call, and passes the check as it, if
and only if the name of the operation is a name of the grammar. -/
theorem calls_exposed_iff (off : v.resolves = false)
    (exposed : o ∈ (view.operations role).toList) (takes : o.Takes args) :
    let c : Call := ⟨o.name, args⟩
    (Expression.read role c.text = .ok ⟨role, [c]⟩ ↔ Identifier o.name.toList) ∧
      (v.check role c.text view = .ok [⟨o, args⟩] ↔ Identifier o.name.toList) := by
  intro c
  have reads : Expression.read role c.text = .ok ⟨role, [c]⟩ ↔ Identifier o.name.toList :=
    Expression.read_single_iff takes.finite
  refine ⟨reads, identifier_of_check, fun name => ?_⟩
  rw [check, reads.2 name]
  exact checkCalls_of_takes off exposed takes

-- A name of the grammar, and an integer, a float and a text as arguments.
theorem calls_exposed_near :
    let near : Operation :=
      ⟨"near", [⟨"rank", .int, none⟩, ⟨"score", .float, none⟩, ⟨"city", .str, some "cities"⟩], ""⟩
    let view : View := ⟨"Cities", "", ⟨[near], by decide, by decide⟩, ⟨[], by decide, by decide⟩⟩
    let v : Validator := { Validator.default with resolves := false }
    let args : List Literal := [.int (-3), .float (Float.ofBits 1), .str "it's"]
    let c : Call := ⟨"near", args⟩
    Identifier near.name.toList ∧
      (Expression.read .filter c.text = .ok ⟨.filter, [c]⟩ ↔ Identifier near.name.toList) ∧
        (v.check .filter c.text view = .ok [⟨near, args⟩] ↔ Identifier near.name.toList) := by
  intro near view v args c
  have name : Identifier "near".toList :=
    .mk (c := 'n') (w := ['e', 'a', 'r']) (by decide) (List.all_eq_true.1 (by decide)) (by decide)
  have finite : (ofFloat (Float.ofBits 1)).isFinite := by decide +kernel
  have takes : near.Takes args := ⟨rfl, by simpa [args] using finite⟩
  have exposed : near ∈ (view.operations .filter).toList := List.mem_singleton_self near
  have off : v.resolves = false := rfl
  have both := calls_exposed_iff off exposed takes
  exact ⟨name, both⟩

-- A view takes a name with a hyphen, which no text can call.
theorem unreadable_hyphen :
    let fromCity : Operation := ⟨"from-city", [⟨"city", .str, none⟩], ""⟩
    ∃ view : View, View.ofDeclaration ⟨"Cities", "", [fromCity], []⟩ = .ok view ∧
      fromCity ∈ (view.operations .filter).toList ∧
        ∀ e, Expression.read .filter (Call.mk fromCity.name [.str "Paris"]).text ≠ .ok e := by
  intro fromCity
  refine ⟨⟨"Cities", "", ⟨[fromCity], by decide, by decide⟩, ⟨[], by decide, by decide⟩⟩, rfl,
    List.mem_singleton_self fromCity, fun e => ?_⟩
  have refused : (Expression.read .filter (Call.mk fromCity.name [.str "Paris"]).text).isOk =
      false := by decide +kernel
  intro read
  rw [read] at refused
  cases refused

end Validator

end ViewQuery
