import ViewQuery.Call.Json
import ViewQuery.Proofs.Json.Records

set_option autoImplicit false

namespace ViewQuery

open Decimal Grammar

section written

theorem Literal.toJson_inj {a b : Literal} : a.toJson = b.toJson ↔ a = b := by
  constructor
  · intro same
    cases a <;> cases b <;> simp [Literal.toJson, Int64.toInt_inj] at same ⊢ <;> exact same
  · rintro rfl
    rfl

theorem Literal.ofJson?_int (n : Int64) : ofJson? (.int n.toInt) = some (.int n) := by
  have inside := And.intro n.minValue_le_toInt n.toInt_le
  rw [ofJson?, if_pos inside, Int64.ofInt_toInt]

theorem Literal.kept_toJson (l : Literal) : kept l.toJson = .ok l := by
  have kind : ofJson? l.toJson = some l := by
    cases l with
    | int n => exact ofJson?_int n
    | _ => rfl
  simp only [kept, kind]

theorem Call.toJson_inj {c d : Call} : c.toJson = d.toJson ↔ c = d := by
  constructor
  · intro same
    simp only [Call.toJson, Json.obj.injEq, List.cons.injEq, Prod.mk.injEq, true_and, and_true,
      Json.str.injEq, Json.arr.injEq] at same
    obtain ⟨name, args⟩ := same
    have injective : Function.Injective Literal.toJson := fun _ _ => Literal.toJson_inj.1
    cases c
    cases d
    exact congrArg₂ Call.mk name (List.map_injective_iff.2 injective args)
  · rintro rfl
    rfl

def Call.IsFinite (c : Call) : Prop := ∀ x, .float x ∈ c.args → (ofFloat x).isFinite

theorem Literal.finite_toJson {l : Literal} (finite : ∀ x, l = .float x → (ofFloat x).isFinite) :
    l.toJson.Finite := by
  cases l with
  | bool b => exact .bool b
  | int n => exact .int n.toInt
  | float x => exact .float (finite x rfl)
  | str s => exact .str s

theorem Call.finite_args {c : Call} (finite : c.IsFinite) :
    ∀ j ∈ c.args.map Literal.toJson, j.Finite := by
  refine List.forall_mem_map.2 fun l member => Literal.finite_toJson ?_
  rintro x rfl
  exact finite x member

theorem Call.finite_toJson {c : Call} (finite : c.IsFinite) : c.toJson.Finite := by
  refine .obj (List.forall_mem_cons.2 ⟨.str c.name, ?_⟩)
  exact List.forall_mem_singleton.2 (.arr (Call.finite_args finite))

end written

namespace Json.Read

section values

variable {cs rest : List Char} {depth : Nat} {n : Number}

theorem value_number (starts : ∃ c tail, cs = c :: tail ∧ startsNumber c)
    (read : number cs = .ok (n, rest)) : value depth cs = .ok (n.toJson, rest) := by
  obtain ⟨c, tail, rfl, starts⟩ := starts
  have noWord : simpleWord c tail = none := by
    have apart (d : Char) (other : startsNumber d = false) : c ≠ d := ne_of_apart starts other
    simp [simpleWord, apart 'n' rfl, apart 't' rfl, apart 'f' rfl]
  rw [value, valueUpTo, skipBlank_cons (starts_of_number starts).visible]
  simp only [noWord, starts, if_true, read]
  rfl

theorem starts_append {t : List Char} (starts : ∃ c tail, t = c :: tail ∧ startsNumber c)
    (rest : List Char) : ∃ c tail, t ++ rest = c :: tail ∧ startsNumber c := by
  obtain ⟨c, tail, rfl, starts⟩ := starts
  exact ⟨c, tail ++ rest, rfl, starts⟩

theorem reads_bool (b : Bool) : Reads value depth (.bool b) (.bool b) := by
  intro rest _
  cases b <;> rfl

theorem reads_str (s : String) : Reads value depth (.str s) (.str s) := by
  intro rest _
  have noNumber : startsNumber '"' = false := rfl
  have noWord (tail : List Char) : simpleWord '"' tail = none := rfl
  simp only [chars, stringText, List.cons_append, List.append_assoc, List.nil_append]
  rw [value, valueUpTo, skipBlank_cons rfl]
  simp only [noWord, noNumber, Bool.false_eq_true, if_false, if_true, stringBody_escaped,
    Except.map, String.ofList_toList]

theorem reads_int {k : Int} (low : -twoTo 63 ≤ k) (high : k < twoTo 64) :
    Reads value depth (.int k) (.int k) := by
  intro rest stop
  have starts := startsNumber_of_int (intText_spells k)
  exact value_number (starts_append starts rest) (number_append (number_intText low high) stop)

def Number.nearest : Number → Float
  | .int n => toFloat (double.ofInt n)
  | .float x => x

/-- The text of the float is read as a number that stands for it. -/
def ReadsBack (x : Float) : Prop := ∃ n, number (floatText x) = .ok (n, []) ∧ n.nearest = x

-- What is read is no integer, so that the float itself is read.
theorem reads_float {x : Float} (finite : (ofFloat x).isFinite) (back : ReadsBack x) :
    Reads value depth (.float x) (.float x) := by
  intro rest stop
  obtain ⟨p, text, -⟩ := layout_spells numberLayout finite
  obtain ⟨n, read, rfl⟩ := back
  obtain ⟨y, rfl⟩ := exists_float_of_text text read
  have starts := startsNumber_of_float text
  exact value_number (starts_append starts rest) (number_append read stop)

end values

theorem reads_int64 (n : Int64) {depth : Nat} :
    Reads value depth (.int n.toInt) (.int n.toInt) := by
  have low := n.minValue_le_toInt
  have high := n.toInt_le
  rw [Int64.toInt_minValue] at low
  rw [Int64.toInt_maxValue] at high
  exact reads_int (low.trans' (by decide)) (lt_of_le_of_lt high (by decide))

theorem Reads.literal {l : Literal} {depth : Nat}
    (finite : ∀ x, l = .float x → (ofFloat x).isFinite) (back : ∀ x, l = .float x → ReadsBack x) :
    Reads Literal.reader depth l.toJson l := by
  have reads : Reads value depth l.toJson l.toJson := by
    cases l with
    | bool b => exact reads_bool b
    | int n => exact reads_int64 n
    | float x => exact reads_float (finite x rfl) (back x rfl)
    | str s => exact reads_str s
  intro rest stop
  simp only [Literal.reader, reads rest stop, Literal.kept_toJson]

theorem Reads.call {c : Call} {depth : Nat} (deep : 2 < depth) (finite : c.IsFinite)
    (back : ∀ x, .float x ∈ c.args → ReadsBack x) : Reads Call.reader depth c.toJson c := by
  have literals : List.Forall₂ (Reads Literal.reader (depth - 1 - 1))
      (c.args.map Literal.toJson) c.args := by
    rw [List.forall₂_map_left_iff, List.forall₂_same]
    intro l member
    refine .literal ?_ ?_
    · rintro x rfl
      exact finite x member
    · rintro x rfl
      exact back x member
  have args := Reads.list literals (by omega) (Call.finite_args finite)
  have covers : Covers (Call.shape Read.string (Read.list Literal.reader)) ["name", "args"] := by
    simp [Covers, Call.shape, Field.of]
  have fills : Fills (Call.shape Read.string (Read.list Literal.reader)) (depth - 1) ⟨"", []⟩
      [("name", .str c.name), ("args", .arr (c.args.map Literal.toJson))] c :=
    .of (fun c name => { c with name := name }) rfl (fun _ => rfl) (.string _ c.name)
      (.of (fun c args => { c with args := args }) rfl (fun _ => rfl) args .nil)
  exact .record fills (by omega) (by simp) covers

theorem Reads.variant {names : List String} {name : String} (known : name ∈ names) (depth : Nat) :
    Reads (Read.variant names) depth (.str name) name := by
  intro rest _
  simp only [chars, stringText, List.cons_append, List.append_assoc, List.nil_append]
  rw [Read.variant, skipBlank_cons rfl]
  simp only [if_true, stringBody_escaped, String.ofList_toList, known]

theorem reads_type (role : Role) (depth : Nat) :
    Reads Expression.typeReader depth (.str (Expression.typeName role)) role := by
  have known : Expression.typeName role ∈ ["Conjunction", "Sequence"] := by cases role <;> decide
  have same : (Expression.ofTypeName? (Expression.typeName role)).getD .filter = role := by
    cases role <;> rfl
  intro rest stop
  rw [Expression.typeReader, Reads.variant known depth rest stop]
  simp only [Except.map, same]

theorem reads_withType (role : Role) (depth : Nat) :
    Reads (Expression.withType .nothing) depth (.str (Expression.typeName role)) (.typed role) := by
  intro rest stop
  simp only [Expression.withType, reads_type role depth rest stop]

theorem reads_withCalls {e : Expression} {depth : Nat} (deep : 3 < depth)
    (finite : ∀ c ∈ e.calls, c.IsFinite)
    (back : ∀ c ∈ e.calls, ∀ x, .float x ∈ c.args → ReadsBack x) :
    Reads (Expression.withCalls (.typed e.role)) depth (.arr (e.calls.map Call.toJson))
      (.complete e) := by
  have calls : List.Forall₂ (Reads Call.reader (depth - 1)) (e.calls.map Call.toJson) e.calls := by
    rw [List.forall₂_map_left_iff, List.forall₂_same]
    exact fun c member => .call (by omega) (finite c member) (back c member)
  have finiteCalls : ∀ j ∈ e.calls.map Call.toJson, j.Finite :=
    List.forall_mem_map.2 fun c member => Call.finite_toJson (finite c member)
  have list := Reads.list calls (by omega) finiteCalls
  intro rest stop
  simp only [Expression.withCalls, list rest stop]
  rfl

end Json.Read

open Json.Read

/-- The JSON text of an expression is read back as it, with literals of the same kinds. -/
theorem Expression.read_compact (e : Expression) (finite : ∀ c ∈ e.calls, c.IsFinite)
    (back : ∀ c ∈ e.calls, ∀ x, .float x ∈ c.args → ReadsBack x) :
    Json.Read.text Expression.reader e.toJson.compact = .ok e := by
  have calls := reads_withCalls (by decide : 3 < greatestDepth - 1) finite back
  have fills : Fills Expression.shape (greatestDepth - 1) .nothing
      [("type", .str (typeName e.role)), ("calls", .arr (e.calls.map Call.toJson))]
      (.complete e) :=
    .cons rfl (reads_withType e.role _) (.cons rfl calls .nil)
  have covers : Covers Expression.shape ["type", "calls"] := by
    simp [Covers, Expression.shape, Expression.typeField, Expression.callsField]
  have record := Reads.record fills (by decide) (by simp) covers
  refine Reads.text fun rest stop => ?_
  simp only [Expression.reader, Expression.toJson, record rest stop]

-- A whole-valued float, the negative zero, the least and the greatest double, the least integer and
-- strings that look like other literals.
theorem Expression.read_compact_kinds :
    let floats : List Float := [2.0, Float.ofBits 0x8000000000000000, Float.ofBits 1,
      Float.ofBits 0x7fefffffffffffff]
    let e : Expression := ⟨.action, [⟨"at", floats.map .float⟩,
      ⟨"among", [.int Int64.minValue, .int 2, .str "2", .str "true", .bool true]⟩]⟩
    (∀ x ∈ floats, (ofFloat x).isFinite ∧ ReadsBack x) ∧
      Json.Read.text Expression.reader e.toJson.compact = .ok e := by
  intro floats e
  have finite : ∀ x ∈ floats, (ofFloat x).isFinite := by decide +kernel
  have reading : ∀ x ∈ floats, number (Json.floatText x) = .ok (.float x, []) := by decide +kernel
  have back : ∀ x ∈ floats, ReadsBack x := fun x member => ⟨.float x, reading x member, rfl⟩
  have read := Expression.read_compact e (by simpa [e, Call.IsFinite] using finite)
    (by simpa [e] using back)
  exact ⟨fun x member => ⟨finite x member, back x member⟩, read⟩

end ViewQuery
