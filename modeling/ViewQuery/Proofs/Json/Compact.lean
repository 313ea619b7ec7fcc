import ViewQuery.Proofs.Json.Scalars

set_option autoImplicit false

namespace ViewQuery.Json

open Decimal Grammar Read

inductive Finite : Json → Prop
  | null : Finite .null
  | bool (b : Bool) : Finite (.bool b)
  | int (n : Int) : Finite (.int n)
  | float {x : Float} : (ofFloat x).isFinite → Finite (.float x)
  | str (s : String) : Finite (.str s)
  | arr {items : List Json} : (∀ j ∈ items, Finite j) → Finite (.arr items)
  | obj {fields : List (String × Json)} : (∀ f ∈ fields, Finite f.2) → Finite (.obj fields)

def fieldChars (f : String × Json) : List Char := stringText f.1 ++ ':' :: f.2.chars

theorem itemsChars_eq (items : List Json) :
    itemsChars items = joinWith [','] (items.map chars) := by
  induction items with
  | nil => rfl
  | cons j items ih =>
    cases items with
    | nil => rfl
    | cons k items =>
      rw [itemsChars, ih]
      · simp [joinWith]
      · exact List.cons_ne_nil k items

theorem fieldsChars_eq (fields : List (String × Json)) :
    fieldsChars fields = joinWith [','] (fields.map fieldChars) := by
  induction fields with
  | nil => rfl
  | cons f fields ih =>
    cases fields with
    | nil => rfl
    | cons g fields =>
      rw [fieldsChars, ih]
      · simp [joinWith, fieldChars]
      · exact List.cons_ne_nil g fields

section starts

variable {ds t : List Char}

theorem startsNumber_of_run (negative : Bool) (run : DigitRun ds) (tail : List Char) :
    ∃ c cs, signText negative ++ ds ++ tail = c :: cs ∧ startsNumber c := by
  cases negative with
  | true => exact ⟨'-', ds ++ tail, rfl, rfl⟩
  | false =>
    obtain ⟨d, ds, rfl⟩ := List.exists_cons_of_ne_nil run.1
    exact ⟨d, ds ++ tail, rfl, by simp [Read.startsNumber, run.2 d]⟩

theorem startsNumber_of_int {n : Int} (text : IntText n t) :
    ∃ c cs, t = c :: cs ∧ startsNumber c := by
  obtain ⟨negative, whole⟩ := text
  simpa using startsNumber_of_run negative whole.run []

theorem startsNumber_of_float {n : Numeral} (text : FloatText n t) :
    ∃ c cs, t = c :: cs ∧ startsNumber c := by
  obtain ⟨negative, run, -⟩ := text
  exact startsNumber_of_run negative run _

def lead : Json → Char
  | .null => 'n'
  | .bool true => 't'
  | .bool false => 'f'
  | .int _ => '0'
  | .float _ => '0'
  | .str _ => '"'
  | .arr _ => '['
  | .obj _ => openBrace

def leadOf (c : Char) : Char := if startsNumber c then '0' else c

theorem lead_mem (j : Json) : j.lead ∈ ['n', 't', 'f', '0', '"', '[', openBrace] := by
  cases j with
  | bool b => cases b <;> simp [lead]
  | _ => simp [lead]

theorem exists_lead {j : Json} (finite : j.Finite) :
    ∃ c cs, j.chars = c :: cs ∧ leadOf c = j.lead := by
  cases finite with
  | null => exact ⟨_, _, rfl, rfl⟩
  | bool b => cases b <;> exact ⟨_, _, rfl, rfl⟩
  | int n =>
    obtain ⟨c, cs, text, starts⟩ := startsNumber_of_int (intText_spells n)
    exact ⟨c, cs, text, if_pos starts⟩
  | @float x finite =>
    obtain ⟨n, spelled, -⟩ := layout_spells numberLayout finite
    obtain ⟨c, cs, text, starts⟩ := startsNumber_of_float spelled
    exact ⟨c, cs, text, if_pos starts⟩
  | str s => exact ⟨_, _, rfl, rfl⟩
  | arr _ => exact ⟨_, _, rfl, rfl⟩
  | obj _ => exact ⟨_, _, rfl, rfl⟩

theorem lead_eq_of_append {a b : Json} {r s : List Char} (finite : a.Finite) (finite' : b.Finite)
    (same : a.chars ++ r = b.chars ++ s) : a.lead = b.lead := by
  obtain ⟨c, cs, text, lead⟩ := exists_lead finite
  obtain ⟨d, ds, text', lead'⟩ := exists_lead finite'
  rw [text, text'] at same
  rw [← lead, ← lead', (List.cons.inj same).1]

end starts

section numbers

variable {t t' r s : List Char}

theorem numeric_append_inj (inside : ∀ c ∈ t, isNumeric c) (inside' : ∀ c ∈ t', isNumeric c)
    (stop : Stops isNumeric r) (stop' : Stops isNumeric s) (same : t ++ r = t' ++ s) :
    t = t' ∧ r = s := by
  constructor
  · rw [← takeWhile_append inside stop, same, takeWhile_append inside' stop']
  · rw [← dropWhile_append inside stop, same, dropWhile_append inside' stop']

theorem not_float_of_int {n : Int} {p : Numeral} (int : IntText n t) : ¬ FloatText p t := by
  intro float
  have none : float? (t ++ []) = none := float?_int int stops_nil stops_nil
  rw [float?_complete float stops_nil] at none
  cases none

theorem eq_of_float_text {x y : Float} (finite : (ofFloat x).isFinite)
    (finite' : (ofFloat y).isFinite) (same : floatText x = floatText y) : x = y := by
  obtain ⟨n, text, double⟩ := layout_spells numberLayout finite
  obtain ⟨m, text', double'⟩ := layout_spells numberLayout finite'
  have value := (float_value_iff text).2 ⟨x, rfl, double⟩
  have value' := (float_value_iff text').2 ⟨y, rfl, double'⟩
  change numberLayout.text _ _ = numberLayout.text _ _ at same
  rw [same, value'] at value
  exact (Literal.float.inj (Except.ok.inj value)).symm

theorem eq_of_int_text {n m : Int} (same : intText n = intText m) : n = m := by
  rw [← (intText_spells n).value, same, (intText_spells m).value]

theorem numeric_int (n : Int) : ∀ c ∈ intText n, isNumeric c := (intText_spells n).isNumeric

theorem numeric_float {x : Float} (finite : (ofFloat x).isFinite) :
    ∀ c ∈ floatText x, isNumeric c := by
  obtain ⟨n, text, -⟩ := layout_spells numberLayout finite
  exact text.isNumeric

theorem int_ne_float {n : Int} {x : Float} (finite : (ofFloat x).isFinite) :
    intText n ≠ floatText x := by
  obtain ⟨p, text, -⟩ := layout_spells numberLayout finite
  change FloatText p (floatText x) at text
  intro same
  rw [← same] at text
  exact not_float_of_int (intText_spells n) text

end numbers

section lists

variable {α : Type} {text : α → List Char} {fits : α → Prop} {close : Char}
variable {as bs : List α} {r s : List Char}

def Told (text : α → List Char) (fits : α → Prop) (a : α) : Prop :=
  ∀ b r s, fits b → Stops isNumeric r → Stops isNumeric s → text a ++ r = text b ++ s →
    a = b ∧ r = s

-- The bracket ends a list and starts none of its elements.
structure Closes (text : α → List Char) (fits : α → Prop) (close : Char) : Prop where
  noComma : close ≠ ','
  noNumeric : isNumeric close = false
  starts : ∀ a, fits a → ∃ c cs, text a = c :: cs ∧ c ≠ close

theorem Closes.stops (closes : Closes text fits close) (as : List α) (r : List Char) :
    Stops isNumeric ((as.map text).flatMap ([','] ++ ·) ++ close :: r) := by
  cases as with
  | nil => exact stops_cons.2 closes.noNumeric
  | cons a as => exact stops_cons.2 rfl

theorem rest_inj (closes : Closes text fits close) (told : ∀ a ∈ as, Told text fits a)
    (fit : ∀ b ∈ bs, fits b)
    (same : (as.map text).flatMap ([','] ++ ·) ++ close :: r =
      (bs.map text).flatMap ([','] ++ ·) ++ close :: s) :
    as = bs ∧ r = s := by
  induction as generalizing bs with
  | nil =>
    cases bs with
    | nil => exact ⟨rfl, (List.cons.inj same).2⟩
    | cons b bs => exact absurd (List.cons.inj same).1 closes.noComma
  | cons a as ih =>
    obtain ⟨first, others⟩ := List.forall_mem_cons.1 told
    cases bs with
    | nil => exact absurd (List.cons.inj same).1.symm closes.noComma
    | cons b bs =>
      obtain ⟨fitsFirst, fitOthers⟩ := List.forall_mem_cons.1 fit
      simp only [List.map_cons, List.flatMap_cons, List.cons_append, List.nil_append,
        List.append_assoc, List.cons.injEq, true_and] at same
      obtain ⟨rfl, more⟩ := first b _ _ fitsFirst (closes.stops as r) (closes.stops bs s) same
      obtain ⟨rfl, after⟩ := ih others fitOthers more
      exact ⟨rfl, after⟩

theorem joinWith_inj (closes : Closes text fits close) (told : ∀ a ∈ as, Told text fits a)
    (fit : ∀ a ∈ as, fits a) (fit' : ∀ b ∈ bs, fits b)
    (same : joinWith [','] (as.map text) ++ close :: r =
      joinWith [','] (bs.map text) ++ close :: s) :
    as = bs ∧ r = s := by
  have apart {a : α} {t t' : List Char} (fitsFirst : fits a) : text a ++ t ≠ close :: t' := by
    obtain ⟨c, cs, starts, apart⟩ := closes.starts a fitsFirst
    rw [starts]
    exact fun same => apart (List.cons.inj same).1
  cases as with
  | nil =>
    cases bs with
    | nil => exact ⟨rfl, (List.cons.inj same).2⟩
    | cons b bs =>
      rw [List.map_cons, joinWith_cons, List.append_assoc] at same
      exact absurd same.symm (apart (fit' b List.mem_cons_self))
  | cons a as =>
    rw [List.map_cons, joinWith_cons, List.append_assoc] at same
    cases bs with
    | nil => exact absurd same (apart (fit a List.mem_cons_self))
    | cons b bs =>
      rw [List.map_cons, joinWith_cons, List.append_assoc] at same
      refine rest_inj closes told fit' ?_
      simpa using same

end lists

section kinds

theorem string_told (s : String) : Told stringText (fun _ => True) s := by
  intro s' r r' _ _ _ same
  simp only [stringText, List.cons_append, List.append_assoc, List.cons.injEq, true_and,
    List.nil_append] at same
  have read := stringBody_escaped s.toList r
  rw [same, stringBody_escaped] at read
  obtain ⟨body, rest⟩ := Prod.mk.inj (Except.ok.inj read)
  exact ⟨String.toList_injective body.symm, rest.symm⟩

theorem field_told {f : String × Json} (told : Told chars Finite f.2) :
    Told fieldChars (fun g => Finite g.2) f := by
  intro g r s finite stop stop' same
  simp only [fieldChars, List.append_assoc, List.cons_append] at same
  obtain ⟨key, same⟩ := string_told f.1 g.1 _ _ trivial (stops_cons.2 rfl) (stops_cons.2 rfl) same
  obtain ⟨value, rest⟩ := told g.2 r s finite stop stop' (List.cons.inj same).2
  exact ⟨Prod.ext key value, rest⟩

theorem closes_items : Closes chars Finite ']' where
  noComma := by decide
  noNumeric := by decide
  starts := by
    intro j finite
    obtain ⟨c, cs, text, lead⟩ := exists_lead finite
    refine ⟨c, cs, text, ?_⟩
    rintro rfl
    have member := lead_mem j
    rw [← lead] at member
    exact absurd member (by decide)

theorem closes_fields : Closes fieldChars (fun f => Finite f.2) closeBrace where
  noComma := by decide
  noNumeric := by decide
  starts := fun _ _ => ⟨'"', _, rfl, by decide⟩

theorem null_told : Told chars Finite .null := by
  intro k r s finite _ _ same
  have lead := lead_eq_of_append .null finite same
  cases k with
  | null => exact ⟨rfl, List.append_cancel_left same⟩
  | bool b => cases b <;> simp [Json.lead] at lead
  | _ => simp [Json.lead, openBrace] at lead

theorem bool_told (b : Bool) : Told chars Finite (.bool b) := by
  intro k r s finite _ _ same
  have lead := lead_eq_of_append (.bool b) finite same
  cases k with
  | bool c =>
    obtain rfl : b = c := by cases b <;> cases c <;> simp_all [Json.lead]
    exact ⟨rfl, List.append_cancel_left same⟩
  | _ => cases b <;> simp [Json.lead, openBrace] at lead

theorem int_told (n : Int) : Told chars Finite (.int n) := by
  intro k r s finite stop stop' same
  have lead := lead_eq_of_append (.int n) finite same
  cases finite with
  | int m =>
    obtain ⟨text, rest⟩ := numeric_append_inj (numeric_int n) (numeric_int m) stop stop' same
    exact ⟨congrArg Json.int (eq_of_int_text text), rest⟩
  | float isFinite =>
    have inside := numeric_float isFinite
    obtain ⟨text, -⟩ := numeric_append_inj (numeric_int n) inside stop stop' same
    exact absurd text (int_ne_float isFinite)
  | bool b => cases b <;> simp [Json.lead] at lead
  | _ => simp [Json.lead, openBrace] at lead

theorem float_told {x : Float} (isFinite : (ofFloat x).isFinite) :
    Told chars Finite (.float x) := by
  intro k r s finite stop stop' same
  have lead := lead_eq_of_append (.float isFinite) finite same
  have inside := numeric_float isFinite
  cases finite with
  | int m =>
    obtain ⟨text, -⟩ := numeric_append_inj inside (numeric_int m) stop stop' same
    exact absurd text.symm (int_ne_float isFinite)
  | float isFinite' =>
    obtain ⟨text, rest⟩ := numeric_append_inj inside (numeric_float isFinite') stop stop' same
    exact ⟨congrArg Json.float (eq_of_float_text isFinite isFinite' text), rest⟩
  | bool b => cases b <;> simp [Json.lead] at lead
  | _ => simp [Json.lead, openBrace] at lead

theorem str_told (s : String) : Told chars Finite (.str s) := by
  intro k r r' finite stop stop' same
  have lead := lead_eq_of_append (.str s) finite same
  cases k with
  | str s' =>
    obtain ⟨rfl, rest⟩ := string_told s s' r r' trivial stop stop' same
    exact ⟨rfl, rest⟩
  | bool b => cases b <;> simp [Json.lead] at lead
  | _ => simp [Json.lead, openBrace] at lead

theorem arr_told {items : List Json} (finite : ∀ j ∈ items, j.Finite)
    (told : ∀ j ∈ items, Told chars Finite j) : Told chars Finite (.arr items) := by
  intro k r s finite' _ _ same
  have lead := lead_eq_of_append (.arr finite) finite' same
  cases finite' with
  | @arr others finite' =>
    simp only [chars, itemsChars_eq, List.cons_append, List.append_assoc, List.cons.injEq,
      true_and, List.nil_append] at same
    obtain ⟨rfl, rest⟩ := joinWith_inj closes_items told finite finite' same
    exact ⟨rfl, rest⟩
  | bool b => cases b <;> simp [Json.lead] at lead
  | _ => simp [Json.lead, openBrace] at lead

theorem obj_told {fields : List (String × Json)} (finite : ∀ f ∈ fields, f.2.Finite)
    (told : ∀ f ∈ fields, Told chars Finite f.2) : Told chars Finite (.obj fields) := by
  intro k r s finite' _ _ same
  have lead := lead_eq_of_append (.obj finite) finite' same
  cases finite' with
  | @obj others finite' =>
    simp only [chars, fieldsChars_eq, List.cons_append, List.append_assoc, List.cons.injEq,
      true_and, List.nil_append] at same
    have fieldTold : ∀ f ∈ fields, Told fieldChars (fun g => Finite g.2) f :=
      fun f member => field_told (told f member)
    obtain ⟨rfl, rest⟩ := joinWith_inj closes_fields fieldTold finite finite' same
    exact ⟨rfl, rest⟩
  | bool b => cases b <;> simp [Json.lead, openBrace] at lead
  | _ => simp [Json.lead, openBrace] at lead

end kinds

theorem told {j : Json} (finite : j.Finite) : Told chars Finite j := by
  induction finite with
  | null => exact null_told
  | bool b => exact bool_told b
  | int n => exact int_told n
  | float isFinite => exact float_told isFinite
  | str s => exact str_told s
  | arr finite ih => exact arr_told finite ih
  | obj finite ih => exact obj_told finite ih

theorem compact_inj {a b : Json} (finite : a.Finite) (finite' : b.Finite) :
    a.compact = b.compact ↔ a = b := by
  constructor
  · intro same
    have text : a.chars ++ [] = b.chars ++ [] := by simpa [compact, String.ofList_inj] using same
    exact (told finite b [] [] finite' stops_nil stops_nil text).1
  · rintro rfl
    rfl

section lines

theorem hexDigit_ne_newline (n : Nat) : hexDigit n ≠ '\n' := by
  have each : ∀ k < 16, Nat.digitChar k ≠ '\n' := by decide
  exact each (n % 16) (Nat.mod_lt n (by decide))

theorem newline_notMem_escapeChar (c : Char) : '\n' ∉ escapeChar c := by
  have high := hexDigit_ne_newline (c.toNat / 16)
  have low := hexDigit_ne_newline c.toNat
  unfold escapeChar
  split_ifs with _ _ plain
  · decide
  · decide
  · rintro member
    rw [← List.mem_singleton.1 member] at plain
    exact absurd plain (by decide)
  all_goals simp [high.symm, low.symm]

theorem newline_notMem_stringText (s : String) : '\n' ∉ stringText s := by
  simp [stringText, newline_notMem_escapeChar]

theorem newline_notMem_numeric {t : List Char} (inside : ∀ c ∈ t, isNumeric c) : '\n' ∉ t :=
  fun member => absurd (inside _ member) (by decide)

theorem newline_notMem_joinWith {parts : List (List Char)} (inside : ∀ p ∈ parts, '\n' ∉ p) :
    '\n' ∉ joinWith [','] parts := by
  cases parts with
  | nil => exact List.not_mem_nil
  | cons part rest =>
    obtain ⟨first, others⟩ := List.forall_mem_cons.1 inside
    rw [joinWith_cons]
    simp only [List.mem_append, List.mem_flatMap, List.mem_singleton, not_or, not_exists, not_and]
    exact ⟨first, fun p member => ⟨by decide, others p member⟩⟩

theorem newline_notMem_chars {j : Json} (finite : j.Finite) : '\n' ∉ j.chars := by
  induction finite with
  | null => decide
  | bool b => cases b <;> decide
  | int n => exact newline_notMem_numeric (numeric_int n)
  | float isFinite => exact newline_notMem_numeric (numeric_float isFinite)
  | str s => exact newline_notMem_stringText s
  | arr _ ih =>
    have items := newline_notMem_joinWith (List.forall_mem_map.2 ih)
    simpa [chars, itemsChars_eq] using items
  | @obj fields _ ih =>
    have each : ∀ f ∈ fields, '\n' ∉ fieldChars f := by
      intro f member
      simp [fieldChars, newline_notMem_stringText, ih f member]
    have fields := newline_notMem_joinWith (List.forall_mem_map.2 each)
    simpa [chars, fieldsChars_eq, openBrace, closeBrace] using fields

end lines

end ViewQuery.Json
