import ViewQuery.Proofs.Grammar.Scanning
import ViewQuery.Scoring

set_option autoImplicit false

namespace ViewQuery

namespace Grammar

open Decimal

section breaks

variable {ds t : List Char} {c : Char}

theorem not_break {p : Char → Bool} (inside : ∀ c ∈ t, p c) (apart : p '\n' = false) :
    '\n' ∉ t := by
  intro member
  have holds := inside _ member
  rw [apart] at holds
  cases holds

theorem DigitRun.not_break (run : DigitRun ds) : '\n' ∉ ds :=
  Grammar.not_break run.2 (by decide)

theorem SpaceRun.not_break (space : SpaceRun t) : '\n' ∉ t :=
  Grammar.not_break space (by decide)

theorem signText_not_break (negative : Bool) : '\n' ∉ signText negative := by
  cases negative <;> simp [signText]

theorem FloatTail.not_break {e : Int} (text : FloatTail ds e t) : '\n' ∉ t :=
  Grammar.not_break text.isNumeric (by decide)

theorem BodyText.not_break {quote : Char} {s : List Char} (text : BodyText quote s t) :
    '\n' ∉ t := by
  induction text with
  | nil => simp
  | plain _ _ notLine _ _ ih => simp [Ne.symm notLine, ih]
  | escape isEscape _ ih => cases isEscape <;> simpa using ih

theorem LexemeText.not_break {l : Lexeme} (text : LexemeText l t) : '\n' ∉ t := by
  rcases text with ⟨⟨negative, run, tail⟩⟩ | ⟨⟨negative, whole⟩⟩ | ⟨b⟩ | ⟨⟨isQuote, body⟩⟩
  · simp [signText_not_break, run.not_break, tail.not_break]
  · simp [signText_not_break, whole.run.not_break]
  · cases b <;> simp [boolText]
  · rcases isQuote with rfl | rfl <;> simp [body.not_break]

theorem ItemsText.not_break {ls : List Lexeme} (items : ItemsText LexemeText ls t) : '\n' ∉ t := by
  induction items with
  | last before text after => simp [before.not_break, text.not_break, after.not_break]
  | more before text after _ ih => simp [before.not_break, text.not_break, after.not_break, ih]

theorem ArgsText.not_break {ls : List Lexeme} (args : ArgsText LexemeText ls t) : '\n' ∉ t := by
  cases args with
  | none space => exact space.not_break
  | some items => exact items.not_break

theorem Identifier.not_break (name : Identifier t) : '\n' ∉ t := by
  cases name with
  | @mk c w start inside _ =>
    have word : ∀ d ∈ c :: w, isWordChar d :=
      List.forall_mem_cons.2 ⟨isWordChar_of_isWordStart start, inside⟩
    exact Grammar.not_break word (by decide)

theorem RawCall.Spells.not_break {call : RawCall} (text : call.Spells t) : '\n' ∉ t := by
  obtain ⟨w, ls⟩ := call
  cases text with
  | mk name space args => simp [name.not_break, space.not_break, args.not_break]

theorem rdropWhile_append_cons {p : Char → Bool} (stop : p c = false) (before after : List Char) :
    (before ++ c :: after).rdropWhile p = before ++ c :: after.rdropWhile p := by
  have reversed : (before ++ c :: after).reverse = after.reverse ++ c :: before.reverse := by simp
  rw [List.rdropWhile, reversed, List.dropWhile_append, List.rdropWhile]
  split
  · next nothing =>
    rw [List.isEmpty_iff.1 nothing]
    simp [stop]
  · simp

theorem RawCall.Spells.break_iff {call : RawCall} (text : call.Spells t)
    (before after : List Char) :
    '\n' ∈ (before ++ t ++ after).rdropWhile isLayout ↔
      '\n' ∈ before ∨ '\n' ∈ after.rdropWhile isLayout := by
  have noBreak := text.not_break
  have close : ∃ inner, t = inner ++ [')'] := by
    cases text with
    | mk _ _ _ => exact ⟨_, rfl⟩
  obtain ⟨inner, rfl⟩ := close
  have shape : before ++ (inner ++ [')']) ++ after = (before ++ inner) ++ ')' :: after := by simp
  rw [shape, rdropWhile_append_cons (by decide)]
  simp_all

end breaks

section scanning

variable {cs gap : List Char} {raw : List RawCall} (names : List (List Char))

def found (o : Option Scan) : Option (List (List Char)) :=
  o.bind fun s => if s.isComplete then some s.names.reverse else none

-- A line feed before the `and` takes the scan back to its start, where no `and` is due; a line feed
-- after it stands where an operand is.
theorem scans_and {before after rest : List Char} (beforeLayout : LayoutRun before)
    (afterLayout : LayoutRun after) (stop : ¬ startsWord (after ++ rest)) :
    ∃ gap, SpaceRun gap ∧
      Scans (some ⟨[], .afterOperand, names⟩) (before ++ "and".toList ++ after ++ rest)
        (if '\n' ∈ before ++ "and".toList ++ after then none else some ⟨[], .operand, names⟩)
        (gap ++ rest) := by
  have noWord := startsWord_eq_false_iff.1 (eq_false_of_ne_true stop)
  obtain ⟨space, isSpace, toAnd⟩ :
      ∃ space, SpaceRun space ∧
        Scans (some ⟨[], .afterOperand, names⟩) ([] ++ before ++ ("and".toList ++ (after ++ rest)))
          (if '\n' ∈ before then some ⟨[], .start, names⟩ else some ⟨[], .afterOperand, names⟩)
          (space ++ ("and".toList ++ (after ++ rest))) :=
    scans_layout beforeLayout rfl rfl spaceRun_nil
  have onlyAnd : '\n' ∈ before ++ "and".toList ++ after ↔ '\n' ∈ before ∨ '\n' ∈ after := by simp
  by_cases early : '\n' ∈ before
  · have word : Scans (some ⟨[], .start, names⟩) (space ++ "and".toList ++ (after ++ rest)) none
        (after ++ rest) := scans_word isSpace isWord_and noWord
    obtain ⟨gap, gapSpace, toCall⟩ :
        ∃ gap, SpaceRun gap ∧ Scans none ([] ++ after ++ rest)
          (if '\n' ∈ after then none else none) (gap ++ rest) :=
      scans_layout afterLayout rfl rfl spaceRun_nil
    refine ⟨gap, gapSpace, ?_⟩
    rw [if_pos early] at toAnd
    rw [if_pos (onlyAnd.2 (.inl early))]
    rw [ite_self] at toCall
    simpa using toAnd.trans (by simpa using word.trans toCall)
  · have word : Scans (some ⟨[], .afterOperand, names⟩) (space ++ "and".toList ++ (after ++ rest))
        (some ⟨[], .operand, names⟩) (after ++ rest) := scans_word isSpace isWord_and noWord
    obtain ⟨gap, gapSpace, toCall⟩ :
        ∃ gap, SpaceRun gap ∧ Scans (some ⟨[], .operand, names⟩) ([] ++ after ++ rest)
          (if '\n' ∈ after then none else some ⟨[], .operand, names⟩) (gap ++ rest) :=
      scans_layout afterLayout rfl rfl spaceRun_nil
    refine ⟨gap, gapSpace, ?_⟩
    rw [if_neg early] at toAnd
    simp only [onlyAnd, early, false_or]
    simpa using toAnd.trans (by simpa using word.trans toCall)

-- A line feed before the joining word ends the expression that is scanned.
theorem scans_rest (text : RestText .filter RawCall.Spells raw cs) :
    ∃ o gap, SpaceRun gap ∧ Scans (some ⟨[], .afterOperand, names⟩) cs o gap ∧
      found o = if '\n' ∈ cs.rdropWhile isLayout then none
        else some (names.reverse ++ raw.map RawCall.name) := by
  -- The scan enters each further call with the names of those before it.
  induction text generalizing names with
  | @done gap layout =>
    obtain ⟨space, isSpace, scans⟩ :
        ∃ space, SpaceRun space ∧ Scans (some ⟨[], .afterOperand, names⟩) ([] ++ gap ++ [])
          (if '\n' ∈ gap then some ⟨[], .start, names⟩ else some ⟨[], .afterOperand, names⟩)
          (space ++ []) :=
      scans_layout layout rfl rfl spaceRun_nil
    have trimmed : gap.rdropWhile isLayout = [] := List.rdropWhile_eq_nil_iff.2 layout
    rw [List.nil_append, List.append_nil, List.append_nil] at scans
    refine ⟨_, space, isSpace, scans, ?_⟩
    split <;> simp [found, Scan.isComplete, trimmed]
  | @more c raw gap t rest joins spells _ ih =>
    obtain ⟨before, after, beforeLayout, afterLayout, rfl, stop⟩ := joins
    obtain ⟨space, isSpace, toCall⟩ := scans_and names beforeLayout afterLayout stop
    obtain ⟨o, last, lastSpace, fromCall, result⟩ := ih (c.name :: names)
    rw [← List.append_assoc, ← List.append_assoc] at toCall
    have overCall : Scans (some ⟨[], .operand, names⟩) (space ++ t ++ rest)
        (some ⟨[], .afterOperand, c.name :: names⟩) rest :=
      scans_call spells (.inr rfl) isSpace
    simp only [spells.break_iff]
    by_cases line : '\n' ∈ before ++ "and".toList ++ after
    -- A scan that has failed only has to reach the end of the text.
    · rw [if_pos line] at toCall
      refine ⟨none, last, lastSpace, toCall.trans (overCall.failed.trans fromCall.failed), ?_⟩
      rw [if_pos (.inl line)]
      rfl
    · rw [if_neg line] at toCall
      refine ⟨o, last, lastSpace, (toCall.trans overCall).trans fromCall, ?_⟩
      simp only [line, false_or]
      rw [result]
      simp

theorem mentions?_of_layout (layout : LayoutRun cs) : mentions? cs = some [] := by
  obtain ⟨space, isSpace, scans⟩ := scans_start [] layout []
  rw [List.append_nil, List.append_nil] at scans
  exact scans.mentions isSpace

theorem mentions?_of_first {c : RawCall} {t rest last : List Char} {o : Option Scan}
    (layout : LayoutRun gap) (spells : c.Spells t) (lastSpace : SpaceRun last)
    (fromCall : Scans (some ⟨[], .afterOperand, [c.name]⟩) rest o last) :
    mentions? (gap ++ t ++ rest) = found o := by
  obtain ⟨space, isSpace, scans⟩ := scans_start [] layout (t ++ rest)
  have overCall : Scans (some .empty) (space ++ t ++ rest)
      (some ⟨[], .afterOperand, [c.name]⟩) rest := scans_call spells (.inl rfl) isSpace
  rw [← List.append_assoc, ← List.append_assoc] at scans
  exact ((scans.trans overCall).trans fromCall).mentions lastSpace

theorem mentions?_of_text (text : QueryText .filter RawCall.Spells raw cs) :
    mentions? cs = if '\n' ∈ Text.trimBy isLayout cs then none
      else some (raw.map RawCall.name) := by
  cases text with
  | none layout =>
    rw [mentions?_of_layout layout, Text.trimBy, show cs.dropWhile isLayout = [] from
      skipLayout_eq_nil layout]
    rfl
  | @some c raw gap t rest layout spells text =>
    obtain ⟨o, last, lastSpace, fromCall, result⟩ := scans_rest [c.name] text
    have trimmed : (gap ++ t ++ rest).dropWhile isLayout = [] ++ t ++ rest := by
      rw [List.append_assoc]
      exact skipLayout_call layout spells
    have breaks : '\n' ∈ Text.trimBy isLayout (gap ++ t ++ rest) ↔
        '\n' ∈ rest.rdropWhile isLayout := by
      change '\n' ∈ ((gap ++ t ++ rest).dropWhile isLayout).rdropWhile isLayout ↔ _
      rw [trimmed, spells.break_iff]
      simp
    rw [mentions?_of_first layout spells lastSpace fromCall]
    simp only [breaks]
    exact result

end scanning

theorem map_name_of_values {raw : List RawCall} {calls : List Call}
    (valued : List.Forall₂ (fun c call => c.value = .ok call) raw calls) :
    (raw.map RawCall.name).map String.ofList = calls.map Call.name := by
  induction valued with
  | nil => rfl
  | cons value _ ih =>
    obtain ⟨name, -⟩ := RawCall.value_eq_ok_iff.1 value
    simp only [List.map_cons, ih, name]

end Grammar

open Grammar

variable {source : String} {e : Expression}

theorem mentionedNames?_of_read (read : Expression.read .filter source = .ok e) :
    mentionedNames? source =
      if '\n' ∈ Text.trimBy isLayout source.toList then none else some (e.calls.map Call.name) := by
  obtain ⟨role, text⟩ := Expression.read_sound read
  obtain ⟨raw, isRaw, valued⟩ := (queryText_iff call_spells_iff).1 text
  rw [role] at isRaw
  rw [mentionedNames?, mentions?_of_text isRaw]
  split
  · rfl
  · rw [Option.map_some, map_name_of_values valued]

theorem OperationSet.mentions_of_read (ops : OperationSet)
    (read : Expression.read .filter source = .ok e) :
    ops.mentions source =
      if '\n' ∈ Text.trimBy isLayout source.toList then (0, 0)
      else (e.calls.countP fun c => !ops.contains c.name, e.calls.length) := by
  rw [OperationSet.mentions, mentionedNames?_of_read read]
  split
  · next names found =>
    split at found
    · cases found
    · next noBreak =>
      obtain rfl := Option.some.inj found
      rw [if_neg noBreak, List.countP_map, List.length_map]
      rfl
  · next found =>
    split at found
    · next isBreak => rw [if_pos isBreak]
    · cases found

theorem Validator.read_of_check {v : Validator} {role : Role} {view : View}
    (checked : (∃ cs, v.check role source view = .ok cs) ∨
      ∃ name, v.check role source view = .error (.error (.unsupported role name))) :
    ∃ e, Expression.read role source = .ok e := by
  cases read : Expression.read role source with
  | ok e => exact ⟨e, rfl⟩
  | error fault =>
    simp only [Validator.check, read] at checked
    rcases checked with ⟨cs, accepted⟩ | ⟨name, refused⟩
    · cases accepted
    · cases refused

/-- The names of a filter text are found, and its calls counted, unless a line feed stands between
its first call and its last. -/
theorem mentions_filter_text (v : Validator) (view : View) (source : String) :
    (∀ e, Expression.read .filter source = .ok e →
      mentionedNames? source =
        if '\n' ∈ Text.trimBy isLayout source.toList then none
        else some (e.calls.map Call.name)) ∧
    ((∃ cs, v.check .filter source view = .ok cs) ∨
        (∃ name, v.check .filter source view = .error (.error (.unsupported .filter name))) →
      ∃ e, Expression.read .filter source = .ok e ∧
        view.filters.mentions source =
          (if '\n' ∈ Text.trimBy isLayout source.toList then (0, 0)
          else (e.calls.countP fun c => !view.filters.contains c.name, e.calls.length)) ∧
        (view.filters.mentions source = (0, 0) ↔
          e.calls = [] ∨ '\n' ∈ Text.trimBy isLayout source.toList)) := by
  refine ⟨fun e read => mentionedNames?_of_read read, fun checked => ?_⟩
  obtain ⟨e, read⟩ := Validator.read_of_check checked
  have counts := OperationSet.mentions_of_read view.filters read
  refine ⟨e, read, counts, ?_⟩
  rw [counts]
  split
  · next isBreak => simp [isBreak]
  · next noBreak =>
    constructor
    · intro zero
      exact .inl (List.length_eq_zero_iff.1 (Prod.mk.inj zero).2)
    · rintro (nothing | isBreak)
      · simp [nothing]
      · exact absurd isBreak noBreak

example : mentionedNames? "a(1)\nand b(2)" = none := by decide +kernel
example : mentionedNames? "\na(1) and b(2)\n" = some ["a", "b"] := by decide +kernel

end ViewQuery
