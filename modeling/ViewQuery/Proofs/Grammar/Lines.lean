import ViewQuery.Proofs.Grammar.Mentions
import ViewQuery.Proofs.Validation.Refusal

set_option autoImplicit false

namespace ViewQuery

namespace Grammar

variable {cs : List Char} {raw : List RawCall}

-- A line feed after a call takes the scan back to where an expression may start.
theorem scans_lines (names : List (List Char)) (text : RestText .action RawCall.Spells raw cs) :
    ∃ o gap, SpaceRun gap ∧ Scans (some ⟨[], .afterOperand, names⟩) cs o gap ∧
      found o = some (names.reverse ++ raw.map RawCall.name) := by
  -- The scan enters each further call with the names of those before it.
  induction text generalizing names with
  | @done gap layout =>
    obtain ⟨space, isSpace, scans⟩ := scans_afterOperand names layout []
    rw [List.append_nil, List.append_nil] at scans
    refine ⟨_, space, isSpace, scans, ?_⟩
    split <;> simp [found, Scan.isComplete]
  | @more c raw gap t rest joins spells _ ih =>
    obtain ⟨layout, line⟩ := joins
    obtain ⟨space, isSpace, toCall⟩ := scans_afterOperand names layout (t ++ rest)
    have overCall : Scans (some ⟨[], .start, names⟩) (space ++ t ++ rest)
        (some ⟨[], .afterOperand, c.name :: names⟩) rest := scans_call spells (.inl rfl) isSpace
    obtain ⟨o, last, lastSpace, fromCall, result⟩ := ih (c.name :: names)
    rw [if_pos line, ← List.append_assoc, ← List.append_assoc] at toCall
    refine ⟨o, last, lastSpace, (toCall.trans overCall).trans fromCall, ?_⟩
    rw [result]
    simp

theorem mentions?_of_lines (text : QueryText .action RawCall.Spells raw cs) :
    mentions? cs = some (raw.map RawCall.name) := by
  cases text with
  | none layout => exact mentions?_of_layout layout
  | @some c raw gap t rest layout spells text =>
    obtain ⟨o, last, lastSpace, fromCall, result⟩ := scans_lines [c.name] text
    rw [mentions?_of_first layout spells lastSpace fromCall, result]
    rfl

end Grammar

open Grammar

variable {source name : String} {e : Expression}

theorem mentionedNames?_of_lines (read : Expression.read .action source = .ok e) :
    mentionedNames? source = some (e.calls.map Call.name) := by
  obtain ⟨role, text⟩ := Expression.read_sound read
  obtain ⟨raw, isRaw, valued⟩ := (queryText_iff call_spells_iff).1 text
  rw [role] at isRaw
  rw [mentionedNames?, mentions?_of_lines isRaw, Option.map_some, map_name_of_values valued]

theorem names_of_read {role : Role} (read : Expression.read role source = .ok e)
    {names : List String} (found : mentionedNames? source = some names) :
    names = e.calls.map Call.name := by
  cases role with
  | filter =>
    rw [mentionedNames?_of_read read] at found
    split at found
    · cases found
    · exact (Option.some.inj found).symm
  | action =>
    rw [mentionedNames?_of_lines read] at found
    exact (Option.some.inj found).symm

theorem OperationSet.mentions_of_lines (ops : OperationSet)
    (read : Expression.read .action source = .ok e) :
    ops.mentions source =
      (e.calls.countP fun c => !ops.contains c.name, e.calls.length) := by
  rw [OperationSet.mentions, mentionedNames?_of_lines read]
  simp only [List.countP_map, List.length_map]
  rfl

theorem unknown_of_refused {v : Validator} {view : View}
    (fails : v.check .action source view = .error (.error (.unsupported .action name))) :
    name ∈ (mentionedNames? source).getD [] ∧ view.actions.contains name = false ∧
      0 < (view.actions.mentions source).1 := by
  obtain ⟨-, e, read, c, member, rfl, absent⟩ := Validator.unsupported_of_check fails
  rw [mentionedNames?_of_lines read, OperationSet.mentions_of_lines _ read]
  have unknown : (!view.actions.contains c.name) = true := by
    rw [Bool.not_eq_true']
    exact absent
  exact ⟨List.mem_map_of_mem member, absent, List.countP_pos_iff.2 ⟨c, member, unknown⟩⟩

/-- All calls of an action text are found, and where an operation of it is refused, one at least is
counted as unknown. -/
theorem mentions_action_text (v : Validator) (view : View) (source : String) :
    (∀ e, Expression.read .action source = .ok e →
      mentionedNames? source = some (e.calls.map Call.name)) ∧
    (∀ name, v.check .action source view = .error (.error (.unsupported .action name)) →
      name ∈ (mentionedNames? source).getD [] ∧ view.actions.contains name = false ∧
        0 < (view.actions.mentions source).1) ∧
    ∀ (e : Example) (name : String), e.actions = source →
      v.checkQuery e.filters e.actions view = .error (.error (.unsupported .action name)) →
      ∃ counts, v.score? view e = some counts ∧ 0 < counts.unknownActions := by
  refine ⟨fun e read => mentionedNames?_of_lines read, fun name fails => unknown_of_refused fails,
    fun e name same fails => ?_⟩
  have counted := (unknown_of_refused (Validator.check_action_of_checkQuery fails)).2.2
  exact ⟨_, by rw [Validator.score?, fails], counted⟩

theorem mentions_action_text_in :
    let limit : Operation := ⟨"limit", [⟨"n", .int, none⟩], ""⟩
    let view : View :=
      ⟨"Cities", "", ⟨[], by decide, by decide⟩, ⟨[limit], by decide, by decide⟩⟩
    let source := "limit(-1)\r\n\nin('x', 1e3)\n"
    Validator.default.check .action source view =
        .error (.error (.unsupported .action "in")) ∧
      "in" ∈ (mentionedNames? source).getD [] ∧ 0 < (view.actions.mentions source).1 := by
  intro limit view source
  have fails : Validator.default.check .action source view =
      .error (.error (.unsupported .action "in")) := by decide +kernel
  obtain ⟨found, -, counted⟩ := (mentions_action_text .default view source).2.1 "in" fails
  exact ⟨fails, found, counted⟩

end ViewQuery
