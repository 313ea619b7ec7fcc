import ViewQuery.Json.Record
import ViewQuery.Proofs.Json.Compact

set_option autoImplicit false

namespace ViewQuery.Json.Read

open Decimal Grammar

section

variable {α σ : Type}

/-- The text of the value is read as `a`, whatever may follow it. -/
def Reads (r : Reader α) (depth : Nat) (j : Json) (a : α) : Prop :=
  ∀ rest, Stops isNumeric rest → r depth (j.chars ++ rest) = .ok (a, rest)

end

section starts

variable {c : Char} {cs rest : List Char} {first : Bool}

structure Starts (c : Char) : Prop where
  visible : isBlank c = false
  noComma : c ≠ ','
  noBracket : c ≠ ']'

theorem starts_of_number (number : startsNumber c) : Starts c where
  visible := by
    have apart (d : Char) (other : startsNumber d = false) : c ≠ d := ne_of_apart number other
    simp [isBlank, apart ' ' rfl, apart '\n' rfl, apart '\t' rfl, apart '\r' rfl]
  noComma := ne_of_apart number rfl
  noBracket := ne_of_apart number rfl

theorem starts_of_lead (j : Json) : Starts j.lead := by
  have each : ∀ c ∈ ['n', 't', 'f', '0', '"', '[', openBrace],
      isBlank c = false ∧ c ≠ ',' ∧ c ≠ ']' := by
    simp [isBlank, openBrace]
  obtain ⟨visible, noComma, noBracket⟩ := each j.lead (lead_mem j)
  exact ⟨visible, noComma, noBracket⟩

theorem exists_starts {j : Json} (finite : j.Finite) : ∃ c cs, j.chars = c :: cs ∧ Starts c := by
  obtain ⟨c, cs, text, lead⟩ := exists_lead finite
  refine ⟨c, cs, text, ?_⟩
  unfold leadOf at lead
  split at lead
  · next number => exact starts_of_number number
  · exact lead ▸ starts_of_lead j

theorem skipBlank_cons (visible : isBlank c = false) : skipBlank (c :: cs) = c :: cs := by
  simp [skipBlank, visible]

theorem skipBlank_chars {j : Json} (finite : j.Finite) (rest : List Char) :
    skipBlank (j.chars ++ rest) = j.chars ++ rest := by
  obtain ⟨c, cs, text, starts⟩ := exists_starts finite
  rw [text]
  exact skipBlank_cons starts.visible

theorem nextElement_first {j : Json} (finite : j.Finite) (rest : List Char) :
    nextElement true (j.chars ++ rest) = .ok (some (j.chars ++ rest)) := by
  obtain ⟨c, cs, text, starts⟩ := exists_starts finite
  rw [nextElement, skipBlank_chars finite, text]
  simp [starts.noBracket, starts.noComma]

theorem nextElement_comma {j : Json} (finite : j.Finite) (rest : List Char) :
    nextElement false (',' :: (j.chars ++ rest)) = .ok (some (j.chars ++ rest)) := by
  obtain ⟨c, cs, text, starts⟩ := exists_starts finite
  rw [nextElement, skipBlank_cons rfl]
  simp only [skipBlank_chars finite]
  simp [text, starts.noBracket]

end starts

section lists

variable {α : Type} {item : Reader α} {depth n : Nat} {first : Bool} {j : Json} {js : List Json}
variable {a : α} {as : List α} {cs rest : List Char}

def afterElement (rest : List Char) : List Json → List Char
  | [] => ']' :: rest
  | j :: js => ',' :: (j.chars ++ afterElement rest js)

theorem itemsChars_append (j : Json) (js : List Json) (rest : List Char) :
    itemsChars (j :: js) ++ ']' :: rest = j.chars ++ afterElement rest js := by
  induction js generalizing j with
  | nil => rfl
  | cons k js ih =>
    rw [itemsChars, List.append_assoc, List.cons_append, ih, afterElement]
    exact List.cons_ne_nil k js

theorem stops_afterElement (js : List Json) : Stops isNumeric (afterElement rest js) := by
  cases js <;> exact stops_cons.2 rfl

theorem elements_step (next : nextElement first cs = .ok (some (j.chars ++ rest)))
    (reads : Reads item depth j a) (stop : Stops isNumeric rest) :
    elements (item depth) (n + 1) first cs =
      (elements (item depth) n false rest).map fun r => (a :: r.1, r.2) := by
  simp only [elements, next, reads rest stop]

theorem elements_afterElement (parts : List.Forall₂ (Reads item depth) js as)
    (finite : ∀ j ∈ js, j.Finite) (fuel : js.length < n) :
    elements (item depth) n false (afterElement rest js) = .ok (as, rest) := by
  induction parts generalizing n with
  | nil =>
    obtain ⟨n, rfl⟩ := Nat.exists_eq_succ_of_ne_zero (Nat.ne_zero_of_lt fuel)
    rfl
  | @cons j a js as reads _ ih =>
    obtain ⟨finiteFirst, finiteOthers⟩ := List.forall_mem_cons.1 finite
    obtain ⟨n, rfl⟩ := Nat.exists_eq_succ_of_ne_zero (Nat.ne_zero_of_lt fuel)
    have next := nextElement_comma finiteFirst (afterElement rest js)
    have others := ih finiteOthers (Nat.lt_of_succ_lt_succ fuel)
    rw [afterElement, elements_step next reads (stops_afterElement js), others]
    rfl

theorem elements_items (parts : List.Forall₂ (Reads item depth) js as)
    (finite : ∀ j ∈ js, j.Finite) (fuel : js.length < n) :
    elements (item depth) n true (itemsChars js ++ ']' :: rest) = .ok (as, rest) := by
  obtain ⟨n, rfl⟩ := Nat.exists_eq_succ_of_ne_zero (Nat.ne_zero_of_lt fuel)
  cases parts with
  | nil => rfl
  | @cons j a js as reads parts =>
    obtain ⟨finiteFirst, finiteOthers⟩ := List.forall_mem_cons.1 finite
    have next := nextElement_first finiteFirst (afterElement rest js)
    have fuel := Nat.lt_of_succ_lt_succ fuel
    rw [itemsChars_append, elements_step next reads (stops_afterElement js),
      elements_afterElement parts finiteOthers fuel]
    rfl

theorem length_lt_afterElement (js : List Json) (rest : List Char) :
    js.length < (afterElement rest js).length := by
  induction js with
  | nil => exact Nat.succ_pos _
  | cons j js ih =>
    simp only [afterElement, List.length_cons, List.length_append]
    omega

theorem length_le_items (js : List Json) (rest : List Char) :
    js.length ≤ (itemsChars js ++ ']' :: rest).length := by
  cases js with
  | nil => exact Nat.zero_le _
  | cons j js =>
    have long := length_lt_afterElement js rest
    rw [itemsChars_append, List.length_append, List.length_cons]
    omega

theorem enter_eq (deep : 1 < depth) : enter depth cs = .ok (depth - 1) := if_neg (Nat.not_le.2 deep)

theorem Reads.list (parts : List.Forall₂ (Reads item (depth - 1)) js as) (deep : 1 < depth)
    (finite : ∀ j ∈ js, j.Finite) : Reads (Read.list item) depth (.arr js) as := by
  intro rest _
  simp only [chars, List.cons_append, List.append_assoc, List.nil_append]
  rw [Read.list, skipBlank_cons rfl]
  simp only [enter_eq deep]
  exact elements_items parts finite (Nat.lt_succ_of_le (length_le_items js rest))

end lists

theorem Reads.map {α β : Type} {r : Reader α} {depth : Nat} {j : Json} {a : α} (f : α → β)
    (reads : Reads r depth j a) : Reads (r.map f) depth j (f a) := by
  intro rest stop
  rw [Reader.map, reads rest stop]
  rfl

theorem Reads.string (depth : Nat) (s : String) : Reads Read.string depth (.str s) s := by
  intro rest _
  simp only [chars, stringText, List.cons_append, List.append_assoc, List.nil_append]
  rw [Read.string, skipBlank_cons rfl]
  simp only [stringBody_escaped, Except.map, String.ofList_toList]

theorem Reads.optional {α : Type} {r : Reader α} {depth : Nat} {j : Json} {a : α}
    (reads : Reads r depth j a) (finite : j.Finite) (noNull : j.lead ≠ 'n') :
    Reads (Read.optional r) depth j (some a) := by
  intro rest stop
  obtain ⟨c, cs, text, lead⟩ := exists_lead finite
  have apart : c ≠ 'n' := by
    rintro rfl
    exact noNull lead.symm
  have read := reads rest stop
  rw [Read.optional, skipBlank_chars finite]
  split
  · next same =>
    rw [text] at same
    exact absurd (List.cons.inj same).1 apart
  · rw [read]
    rfl

section records

variable {σ : Type} {s : Shape Reader σ} {depth n : Nat} {seen : List String} {x y z : σ}
variable {first : Bool} {k : String} {j : Json} {f : Field Reader σ} {cs rest : List Char}
variable {fields gs : List (String × Json)}

def afterField (rest : List Char) : List (String × Json) → List Char
  | [] => closeBrace :: rest
  | f :: fields => ',' :: (fieldChars f ++ afterField rest fields)

theorem fieldsChars_append (f : String × Json) (fields : List (String × Json)) (rest : List Char) :
    fieldsChars (f :: fields) ++ closeBrace :: rest = fieldChars f ++ afterField rest fields := by
  induction fields generalizing f with
  | nil => rfl
  | cons g fields ih =>
    rw [fieldsChars, List.append_assoc, List.cons_append, ih, afterField]
    · simp [fieldChars]
    · exact List.cons_ne_nil g fields

theorem stops_afterField (fields : List (String × Json)) :
    Stops isNumeric (afterField rest fields) := by
  cases fields <;> exact stops_cons.2 rfl

theorem keyAt_field (k : String) (j : Json) (rest : List Char) :
    keyAt (fieldChars (k, j) ++ rest) = .ok (k.toList, ':' :: (j.chars ++ rest)) := by
  simp only [fieldChars, stringText, List.cons_append, List.append_assoc, List.nil_append, keyAt,
    stringBody_escaped]

theorem nextKey_first (k : String) (j : Json) (rest : List Char) :
    nextKey true (fieldChars (k, j) ++ rest) =
      .ok (some (k.toList, ':' :: (j.chars ++ rest))) := by
  have key := keyAt_field k j rest
  simp only [fieldChars, stringText, List.cons_append] at key ⊢
  rw [nextKey, skipBlank_cons rfl]
  dsimp only
  rw [key]
  rfl

theorem nextKey_comma (k : String) (j : Json) (rest : List Char) :
    nextKey false (',' :: (fieldChars (k, j) ++ rest)) =
      .ok (some (k.toList, ':' :: (j.chars ++ rest))) := by
  have key := keyAt_field k j rest
  simp only [fieldChars, stringText, List.cons_append] at key ⊢
  rw [nextKey, skipBlank_cons rfl]
  dsimp only
  rw [skipBlank_cons rfl, key]
  rfl

theorem namedFields_step (next : nextKey first cs = .ok (some (k.toList, ':' :: (j.chars ++ rest))))
    (found : s.field? k = some f) (fresh : k ∉ seen) (reads : Reads (f.read x) depth j y)
    (stop : Stops isNumeric rest) :
    namedFields s depth (n + 1) first seen x cs =
      namedFields s depth n false (k :: seen) y rest := by
  have colon : colon (':' :: (j.chars ++ rest)) = .ok ((), j.chars ++ rest) := rfl
  simp only [namedFields, next, String.ofList_toList, found, fresh, if_false, colon,
    reads rest stop]

/-- The fields take a record from `x` to `y`, each read by the field of its name. -/
inductive Fills (s : Shape Reader σ) (depth : Nat) : σ → List (String × Json) → σ → Prop
  | nil {x : σ} : Fills s depth x [] x
  | cons {x y z : σ} {k : String} {j : Json} {f : Field Reader σ} {fields : List (String × Json)} :
      s.field? k = some f → Reads (f.read x) depth j y → Fills s depth y fields z →
      Fills s depth x ((k, j) :: fields) z

theorem Fills.append (fills : Fills s depth x fields y) (more : Fills s depth y gs z) :
    Fills s depth x (fields ++ gs) z := by
  induction fills with
  | nil => exact more
  | cons found reads _ ih => exact .cons found reads (ih more)

theorem Fills.of {α : Type} {r : Reader α} {a : α} (set : σ → α → σ) (found : s.field? k = some f)
    (read : ∀ x, f.read x = r.map (set x)) (reads : Reads r depth j a)
    (fills : Fills s depth (set x a) fields z) : Fills s depth x ((k, j) :: fields) z :=
  .cons found (read x ▸ reads.map (set x)) fills

theorem Fills.optionalField (set : σ → Option String → σ) (found : s.field? k = some f)
    (read : ∀ x, f.read x = (optional string).map (set x)) (absent : set x none = x)
    (o : Option String) : Fills s depth x (optionalField k .str o) (set x o) := by
  cases o with
  | none =>
    rw [absent]
    exact .nil
  | some a =>
    have noNull : '"' ≠ 'n' := by decide
    exact .of set found read (.optional (.string depth a) (.str a) noNull) .nil

theorem keys_optionalField (k : String) (o : Option String) :
    ((optionalField k Json.str o).map Prod.fst).Sublist [k] := by
  cases o with
  | none => exact List.nil_sublist [k]
  | some a => exact List.Sublist.refl [k]

def Covers (s : Shape Reader σ) (seen : List String) : Prop :=
  ∀ f ∈ s.fields, f.required → f.name ∈ seen

theorem missing?_eq_none (covers : Covers s seen) : s.missing? seen = none := by
  refine List.find?_eq_none.2 fun f member missing => ?_
  simp only [Bool.and_eq_true, decide_eq_true_eq] at missing
  exact missing.2 (covers f member missing.1)

theorem namedFields_afterField (fills : Fills s depth x fields y)
    (distinct : ((fields.map Prod.fst).reverse ++ seen).Nodup)
    (covers : Covers s ((fields.map Prod.fst).reverse ++ seen)) (fuel : fields.length < n) :
    namedFields s depth n false seen x (afterField rest fields) = .ok (y, rest) := by
  induction fills generalizing n seen with
  | nil =>
    obtain ⟨n, rfl⟩ := Nat.exists_eq_succ_of_ne_zero (Nat.ne_zero_of_lt fuel)
    have close : nextKey false (closeBrace :: rest) = .ok none := rfl
    have complete : s.missing? seen = none := missing?_eq_none covers
    rw [afterField, namedFields, close]
    dsimp only
    rw [complete]
    rfl
  | @cons x y z k j f fields found reads _ ih =>
    obtain ⟨n, rfl⟩ := Nat.exists_eq_succ_of_ne_zero (Nat.ne_zero_of_lt fuel)
    have next := nextKey_comma k j (afterField rest fields)
    have shift : ((k :: fields.map Prod.fst).reverse ++ seen) =
        (fields.map Prod.fst).reverse ++ k :: seen := by simp
    rw [List.map_cons, shift] at distinct covers
    have fresh : k ∉ seen := (List.nodup_cons.1 (List.nodup_append.1 distinct).2.1).1
    rw [afterField, namedFields_step next found fresh reads (stops_afterField fields)]
    exact ih distinct covers (Nat.lt_of_succ_lt_succ fuel)

theorem namedFields_fields (fills : Fills s depth x fields y)
    (distinct : (fields.map Prod.fst).Nodup) (covers : Covers s (fields.map Prod.fst))
    (fuel : fields.length < n) :
    namedFields s depth n true [] x (fieldsChars fields ++ closeBrace :: rest) = .ok (y, rest) := by
  obtain ⟨n, rfl⟩ := Nat.exists_eq_succ_of_ne_zero (Nat.ne_zero_of_lt fuel)
  have distinct := List.nodup_reverse.2 distinct
  have covers : Covers s (fields.map Prod.fst).reverse :=
    fun f member required => List.mem_reverse.2 (covers f member required)
  cases fills with
  | nil =>
    have close : nextKey true (closeBrace :: rest) = .ok none := rfl
    have complete : s.missing? [] = none := missing?_eq_none covers
    rw [fieldsChars, List.nil_append, namedFields, close]
    dsimp only
    rw [complete]
    rfl
  | @cons x y z k j f fields found reads fills =>
    have next := nextKey_first k j (afterField rest fields)
    rw [List.map_cons, List.reverse_cons] at distinct covers
    rw [fieldsChars_append,
      namedFields_step next found List.not_mem_nil reads (stops_afterField fields)]
    exact namedFields_afterField fills distinct covers (Nat.lt_of_succ_lt_succ fuel)

theorem length_lt_afterField (fields : List (String × Json)) (rest : List Char) :
    fields.length < (afterField rest fields).length := by
  induction fields with
  | nil => exact Nat.succ_pos _
  | cons f fields ih =>
    simp only [afterField, List.length_cons, List.length_append]
    omega

theorem length_le_fields (fields : List (String × Json)) (rest : List Char) :
    fields.length ≤ (fieldsChars fields ++ closeBrace :: rest).length := by
  cases fields with
  | nil => exact Nat.zero_le _
  | cons f fields =>
    have long := length_lt_afterField fields rest
    rw [fieldsChars_append, List.length_append, List.length_cons]
    omega

theorem Reads.record (fills : Fills s (depth - 1) s.default fields y) (deep : 1 < depth)
    (distinct : (fields.map Prod.fst).Nodup) (covers : Covers s (fields.map Prod.fst)) :
    Reads (Read.record s) depth (.obj fields) y := by
  intro rest _
  have noList : openBrace ≠ '[' := by decide
  simp only [chars, List.cons_append, List.append_assoc, List.nil_append]
  rw [Read.record, skipBlank_cons rfl]
  simp only [if_neg noList, if_true, enter_eq deep]
  exact namedFields_fields fills distinct covers (Nat.lt_succ_of_le (length_le_fields fields rest))

end records

theorem Reads.text {α : Type} {r : Reader α} {j : Json} {a : α}
    (reads : Reads r greatestDepth j a) : Read.text r j.compact = .ok a := by
  have read := reads [] stops_nil
  rw [List.append_nil] at read
  rw [Read.text, compact, String.toList_ofList, whole?, read]
  rfl

end ViewQuery.Json.Read
