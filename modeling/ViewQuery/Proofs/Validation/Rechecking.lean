import ViewQuery.Proofs.Catalog.Lookup
import ViewQuery.Proofs.Grammar.Writable
import ViewQuery.Proofs.Validation.Dispatch

set_option autoImplicit false

namespace ViewQuery

open Decimal

theorem Literal.isFinite_widen (n : Int64) : (ofFloat (Literal.widen n)).isFinite := by
  have within := Format.within_nearest precise_double (n.toInt.natAbs * twoTo double.unitExponent)
    Nat.one_pos
  have nearest := Format.isNearest_of_within (by decide) within
  rw [Literal.widen, Format.ofInt, Format.ofUnits]
  generalize double.nearest (n.toInt.natAbs * twoTo double.unitExponent) 1 = u at *
  have small : n.toInt.natAbs ≤ 2 ^ 63 := by
    have low := n.minValue_le_toInt
    have high := n.toInt_le
    rw [Int64.toInt_minValue] at low
    rw [Int64.toInt_maxValue] at high
    omega
  have scaled : n.toInt.natAbs * twoTo double.unitExponent ≤ 2 ^ (63 + double.unitExponent) := by
    generalize double.unitExponent = k
    rw [twoTo_eq, Nat.pow_add]
    exact Nat.mul_le_mul_right _ small
  have bound : u ≤ 2 ^ (63 + double.unitExponent) := by
    apply nearest.le_of_ge (Format.representable_two_pow (by decide) _)
    rw [Nat.cast_one, div_one]
    exact Nat.cast_le.2 scaled
  have below : u < double.limit := by
    apply bound.trans_lt
    rw [Format.limit, twoTo_eq]
    exact Nat.pow_lt_pow_right (by decide) (by decide)
  rw [if_pos below, ofFloat_toFloat _ nearest.representable below]
  rfl

namespace Validator

variable {v : Validator} {name : String} {p : Parameter} {l a : Literal} {role : Role}
  {ops : OperationSet} {view : View} {c : Call} {checked : CheckedCall}

-- What a resolver gives for a text in time, it gives for itself in time.
def Settled (v : Validator) : Prop :=
  v.resolves = true → ∀ hint resolver, v.resolver? hint = some resolver →
    ∀ raw after value, resolver raw = .answers after (.found value) → after ≤ v.timeLimit →
      ∃ again, resolver value = .answers again (.found value) ∧ again ≤ v.timeLimit

theorem settled_of_catalogs
    (catalogs : v.resolves = false ∨ ∀ r ∈ v.resolvers, ∃ c : Catalog, r.2 = .ofCatalog c) :
    v.Settled := by
  intro resolves hint resolver named raw after value answers _
  rcases catalogs with never | catalogs
  · rw [never] at resolves
    cases resolves
  · obtain ⟨r, first, rfl⟩ := Option.map_eq_some_iff.1 named
    obtain ⟨c, isCatalog⟩ := catalogs r (List.mem_of_find?_eq_some first)
    rw [isCatalog] at answers ⊢
    refine ⟨0, ?_, Nat.zero_le _⟩
    have found : c.lookup raw = some value := by
      unfold Resolver.ofCatalog at answers
      split at answers
      · next found =>
        obtain ⟨-, same⟩ := Resolution.answers.inj answers
        rw [found, Answer.found.inj same]
      · cases answers
    rw [Resolver.ofCatalog, Catalog.lookup_lookup found]

theorem coerce?_of_type (l : Literal) : coerce? l.type l = some l := by
  cases l <;> rfl

theorem resolve_settled {param hint raw value : String} {resolver : Resolver} {after : Nat}
    (named : v.resolver? hint = some resolver)
    (answers : resolver raw = .answers after (.found value)) (intime : after ≤ v.timeLimit) :
    v.resolve name param hint raw = .ok value := by
  simp only [resolve, named, answers, Resolution.within, if_neg (Nat.not_lt.2 intime)]

theorem checkArg_of_fits (settled : v.Settled) (fits : v.Fits p l a) :
    v.checkArg name p a = .ok a := by
  rw [checkArg, ← fits.type, coerce?_of_type]
  cases hinted : p.similarity with
  | none => rfl
  | some hint =>
    by_cases resolves : v.resolves
    · obtain ⟨raw, value, resolver, after, -, rfl, named, answers, intime⟩ :=
        fits.resolved resolves hint hinted
      obtain ⟨again, same, intime'⟩ :=
        settled resolves hint resolver named raw after value answers intime
      simp only [resolves, if_true, resolve_settled named same intime', Except.map]
    · cases a <;> simp [resolves]

theorem checkArgs_of_fits (settled : v.Settled) {ps : List Parameter} {as : List Literal}
    (count : as.length = ps.length)
    (fits : ∀ (i : Nat) (p : Parameter), ps[i]? = some p → ∃ l a, as[i]? = some a ∧ v.Fits p l a) :
    v.checkArgs name ps as = .ok as := by
  induction ps generalizing as with
  | nil =>
    obtain rfl := List.length_eq_zero_iff.1 count
    rfl
  | cons p ps ih =>
    obtain ⟨a, as, rfl⟩ := List.exists_cons_of_length_eq_add_one count
    obtain ⟨l, a', first, fit⟩ := fits 0 p rfl
    obtain rfl : a = a' := by simpa using first
    have rest : v.checkArgs name ps as = .ok as :=
      ih (by simpa using count) fun i q isParam => fits (i + 1) q (by simpa using isParam)
    simp only [checkArgs, checkArg_of_fits settled fit, rest, Except.map]

theorem checkCall_of_dispatches (settled : v.Settled) (dispatches : v.Dispatches ops c checked) :
    v.checkCall role ops checked.call = .ok checked := by
  have found : ops.get? checked.operation.name = some checked.operation :=
    OperationSet.get?_eq_some_iff.2 ⟨dispatches.member, rfl⟩
  have args : v.checkArgs checked.operation.name checked.operation.params checked.args =
      .ok checked.args := by
    apply checkArgs_of_fits settled dispatches.arity
    intro i p isParam
    obtain ⟨l, a, -, isKept, fit, -⟩ := dispatches.fits i p isParam
    exact ⟨l, a, isKept, fit⟩
  simp only [checkCall, CheckedCall.call, CheckedCall.name, found, dispatches.arity, ne_eq,
    not_true_eq_false, if_false, args, Except.map]

theorem checkCalls_of_dispatches (settled : v.Settled) {cs : List Call} {kept : List CheckedCall}
    (dispatches : List.Forall₂ (v.Dispatches ops) cs kept) :
    v.checkCalls role ops (kept.map CheckedCall.call) = .ok kept := by
  induction dispatches with
  | nil => rfl
  | cons first _ ih =>
    simp only [List.map_cons, checkCalls, checkCall_of_dispatches settled first, ih, Except.map]

theorem Fits.isFinite (fits : v.Fits p l a)
    (finite : ∀ x, l = .float x → (ofFloat x).isFinite) {x : Float} (isFloat : a = .float x) :
    (ofFloat x).isFinite := by
  subst isFloat
  have written : p.similarity = none ∨ v.resolves = false := by
    cases hinted : p.similarity with
    | none => exact .inl rfl
    | some hint =>
      refine .inr (Bool.eq_false_iff.2 fun resolves => ?_)
      obtain ⟨_, _, _, _, -, isText, -⟩ := fits.resolved resolves hint hinted
      cases isText
  rcases fits.written written with same | ⟨-, n, -, widened⟩
  · exact finite x same.symm
  · obtain rfl := Literal.float.inj widened
    exact Literal.isFinite_widen n

theorem writable_of_dispatches (dispatches : v.Dispatches ops c checked) (writable : c.Writable) :
    checked.call.Writable := by
  refine ⟨?_, fun x member => ?_⟩
  · rw [CheckedCall.call, CheckedCall.name, dispatches.named]
    exact writable.name
  · obtain ⟨i, at_i⟩ := List.mem_iff_getElem?.1 member
    have inside : i < checked.operation.params.length := by
      have := (List.getElem?_eq_some_iff.1 at_i).1
      rwa [CheckedCall.call, dispatches.arity] at this
    obtain ⟨l, a, isWritten, isKept, fits, -⟩ :=
      dispatches.fits i _ (List.getElem?_eq_getElem inside)
    have isFloat : a = .float x := Option.some.inj (isKept.symm.trans at_i)
    refine fits.isFinite (fun y same => ?_) isFloat
    exact writable.finite y (same ▸ List.mem_of_getElem? isWritten)

theorem joined_texts {separator : String} (same : separator.toList = Expression.separator role)
    (cs : List CheckedCall) :
    joined separator (cs.map CheckedCall.text) =
      (Expression.mk role (cs.map CheckedCall.call)).text := by
  have chars (c : CheckedCall) : c.text.toList = c.call.chars := String.toList_ofList
  simp only [joined, Expression.text, Expression.chars, same, List.map_map, Function.comp_def, chars]

theorem check_joined {source : String} {kept : List CheckedCall} (settled : v.Settled)
    (separator : String) (same : separator.toList = Expression.separator role)
    (passes : v.check role source view = .ok kept) :
    v.check role (joined separator (kept.map CheckedCall.text)) view = .ok kept := by
  obtain ⟨e, read, dispatches⟩ := dispatches_of_check passes
  have writable : ∀ c ∈ kept.map CheckedCall.call, c.Writable := by
    intro c member
    obtain ⟨checked, isKept, rfl⟩ := List.mem_map.1 member
    obtain ⟨written, isWritten, dispatch⟩ := exists_left_of_mem dispatches isKept
    exact writable_of_dispatches dispatch (Expression.writable_of_read read written isWritten)
  have again := Expression.read_of_writable ⟨role, kept.map CheckedCall.call⟩ writable
  rw [joined_texts same, check, again]
  exact checkCalls_of_dispatches settled dispatches

/-- The text of a checked query passes the check again and gives the same query. -/
theorem checkQuery_joined {filters actions : String} {q : CheckedQuery}
    (catalogs : v.resolves = false ∨ ∀ r ∈ v.resolvers, ∃ c : Catalog, r.2 = .ofCatalog c)
    (passes : v.checkQuery filters actions view = .ok q) :
    ∃ q', v.checkQuery (joined " and " (q.filters.map CheckedCall.text))
        (joined "\n" (q.actions.map CheckedCall.text)) view = .ok q' ∧
      q' = q ∧ q'.fingerprint = q.fingerprint := by
  have settled := settled_of_catalogs catalogs
  obtain ⟨keepsFilters, keepsActions⟩ := checkQuery_eq_ok_iff.1 passes
  have again := check_joined settled " and " rfl keepsFilters
  have againActions := check_joined settled "\n" rfl keepsActions
  exact ⟨q, checkQuery_eq_ok_iff.2 ⟨again, againActions⟩, rfl, rfl⟩

-- A text that stands for another one, and an integer that becomes a float.
theorem checkQuery_joined_city :
    let inCity : Operation := ⟨"in_city", [⟨"city", .str, some "cities"⟩], ""⟩
    let above : Operation := ⟨"above", [⟨"score", .float, none⟩], ""⟩
    let limit : Operation := ⟨"limit", [⟨"n", .int, none⟩], ""⟩
    let view : View :=
      ⟨"Cities", "", ⟨[inCity, above], by decide, by decide⟩, ⟨[limit], by decide, by decide⟩⟩
    let v := Validator.default.withResolver "cities" (.ofCatalog (.ofList ["New York", "Paris"]))
    let q : CheckedQuery :=
      ⟨[⟨inCity, [.str "New York"]⟩, ⟨above, [.float (Literal.widen 2)]⟩], [⟨limit, [.int 5]⟩]⟩
    v.checkQuery "in_city('new') and above(2)" "\nlimit(5)" view = .ok q ∧
      ∃ q', v.checkQuery (joined " and " (q.filters.map CheckedCall.text))
          (joined "\n" (q.actions.map CheckedCall.text)) view = .ok q' ∧
        q' = q ∧ q'.fingerprint = q.fingerprint := by
  intro inCity above limit view v q
  have passes : v.checkQuery "in_city('new') and above(2)" "\nlimit(5)" view = .ok q := by
    decide +kernel
  have catalogs : v.resolves = false ∨ ∀ r ∈ v.resolvers, ∃ c : Catalog, r.2 = .ofCatalog c := by
    refine .inr fun r member => ?_
    rw [List.mem_singleton.1 member]
    exact ⟨_, rfl⟩
  exact ⟨passes, checkQuery_joined catalogs passes⟩

end Validator

end ViewQuery
