import ViewQuery.Proofs.Grammar.Called

/-!
The scan of a text finds the names that the text calls.

A step of the scan either reads a word, which may turn out to be called, or opens the bracket of the
name before it, or leaves the names as they are. Between the two the name is pending; so at every
point of a scan that goes through, the names found, the pending one and those that the rest of the
text calls are the same list.
-/

set_option autoImplicit false

namespace ViewQuery

namespace Grammar

section steps

namespace Turn

def name? : Turn → Option (List Char)
  | .afterName w _ => some w
  | _ => none

end Turn

namespace Scan

variable {s s' : Scan} {t : Token}

-- What a step does to the names, and which name may be called next.
inductive Advances (s : Scan) : Token → Scan → Prop
  | name {w : List Char} {s' : Scan} : isKeyword w = false → s'.names = s.names →
      s'.turn.name? = some w → Advances s (.word w) s'
  | operator {w : List Char} {s' : Scan} : isKeyword w ∨ isOperatorName w → s'.names = s.names →
      s'.turn.name? = none → Advances s (.word w) s'
  | opening {s' : Scan} : s'.names = s.turn.name?.toList ++ s.names → s'.turn.name? = none →
      Advances s (.opening .round) s'
  | other {t : Token} {s' : Scan} : (∀ w, t ≠ .word w) → t ≠ .opening .round →
      s'.names = s.names → s'.turn.name? = none → Advances s t s'

theorem advances_of_leave {b : Bracket} (step : s.leave b = some s') :
    s.Advances (.closing b) s' := by
  unfold leave at step
  split at step
  · obtain ⟨-, ⟨⟩⟩ := Option.ite_none_right_eq_some.1 step
    exact .other (by simp) (by simp) rfl rfl
  · cases step

theorem advances_of_stepOperand (noName : s.turn.name? = none) (step : s.stepOperand t = some s') :
    s.Advances t s' := by
  cases t with
  | word w =>
    simp only [stepOperand, go] at step
    split at step
    · next isNot =>
      obtain rfl := Option.some.inj step
      exact .operator (.inl (isNot ▸ rfl)) rfl rfl
    · split at step
      · next isBool =>
        obtain rfl := Option.some.inj step
        refine .operator (.inl ?_) rfl rfl
        rcases isBool with rfl | rfl <;> rfl
      · split at step
        · cases step
        · next noKeyword =>
          obtain rfl := Option.some.inj step
          exact .name (by simpa using noKeyword) rfl rfl
  | opening b =>
    cases b with
    | round =>
      obtain rfl := Option.some.inj step
      exact .opening (by rw [noName]; rfl) rfl
    | square =>
      obtain rfl := Option.some.inj step
      exact .other (by simp) (by simp) rfl rfl
  | number | str | sign | tilde =>
    obtain rfl := Option.some.inj step
    exact .other (by simp) (by simp) rfl rfl
  | _ => cases step

theorem advances_of_stepAfter (step : s.stepAfter t = some s') : s.Advances t s' := by
  cases t with
  | word w =>
    simp only [stepAfter, go] at step
    split at step
    · next isOperator =>
      obtain rfl := Option.some.inj step
      refine .operator ?_ rfl rfl
      rcases isOperator with rfl | rfl | rfl
      · exact .inl rfl
      · exact .inl rfl
      · exact .inr rfl
    · split at step
      · next isNot =>
        obtain rfl := Option.some.inj step
        exact .operator (.inl (isNot ▸ rfl)) rfl rfl
      · split at step
        · next isIs =>
          obtain rfl := Option.some.inj step
          exact .operator (.inr (isIs ▸ rfl)) rfl rfl
        · cases step
  | sign | operator =>
    obtain rfl := Option.some.inj step
    exact .other (by simp) (by simp) rfl rfl
  | comma =>
    obtain ⟨-, ⟨⟩⟩ := Option.ite_none_left_eq_some.1 step
    exact .other (by simp) (by simp) rfl rfl
  | semicolon =>
    obtain ⟨-, ⟨⟩⟩ := Option.ite_none_right_eq_some.1 step
    exact .other (by simp) (by simp) rfl rfl
  | newline =>
    simp only [stepAfter, go] at step
    split at step
    · cases step
      exact .other (by simp) (by simp) rfl rfl
    · cases step
      exact .other (by simp) (by simp) rfl rfl
  | closing b => exact advances_of_leave step
  | _ => cases step

theorem advances_of_step (step : s.step t = some s') : s.Advances t s' := by
  unfold Scan.step at step
  split at step
  · next start =>
    have noName : s.turn.name? = none := by rw [start]; rfl
    split at step
    · cases step
      exact .other (by simp) (by simp) rfl noName
    · obtain ⟨-, ⟨⟩⟩ := Option.ite_none_right_eq_some.1 step
      exact .other (by simp) (by simp) rfl noName
    · exact advances_of_leave step
    · exact advances_of_stepOperand noName step
  · next operand =>
    have noName : s.turn.name? = none := by rw [operand]; rfl
    split at step
    · obtain ⟨-, ⟨⟩⟩ := Option.ite_none_left_eq_some.1 step
      exact .other (by simp) (by simp) rfl noName
    · exact advances_of_stepOperand noName step
  · next sameLine => exact advances_of_stepOperand (by rw [sameLine]; rfl) step
  · next name first afterName =>
    split at step
    · cases step
      exact .other (by simp) (by simp) rfl rfl
    · cases step
      exact .opening (by rw [afterName]; rfl) rfl
    · obtain ⟨-, ⟨⟩⟩ := Option.ite_none_right_eq_some.1 step
      exact .other (by simp) (by simp) rfl rfl
    · exact advances_of_stepAfter step
  · next afterPoint =>
    split at step
    · obtain ⟨noKeyword, ⟨⟩⟩ := Option.ite_none_left_eq_some.1 step
      exact .name (by simpa using noKeyword) rfl rfl
    · cases step
  · next afterNot =>
    split at step
    · obtain ⟨isIn, ⟨⟩⟩ := Option.ite_none_right_eq_some.1 step
      exact .operator (.inr (isIn ▸ rfl)) rfl rfl
    · cases step
  · next afterIs =>
    have noName : s.turn.name? = none := by rw [afterIs]; rfl
    split at step
    · split at step
      · next isNot =>
        cases step
        exact .operator (.inl (isNot ▸ rfl)) rfl rfl
      · exact advances_of_stepOperand noName step
    · obtain ⟨-, ⟨⟩⟩ := Option.ite_none_left_eq_some.1 step
      exact .other (by simp) (by simp) rfl rfl
    · exact advances_of_stepOperand noName step
  · exact advances_of_stepAfter step

theorem turn_of_number (step : s.step .number = some s') : s'.turn = .afterOperand := by
  obtain ⟨_, turn, _⟩ := s
  cases turn <;> cases step <;> rfl

end Scan

end steps

section run

variable {n : Nat} {cs : List Char} {ts : List Token} {s s' : Scan}

theorem tokensUpTo_cases (tokens : tokensUpTo n cs = some ts) :
    skipSpace cs = [] ∧ ts = [] ∨ ∃ m t rest ts', ReadFrom (skipSpace cs) rest t ∧ ts = t :: ts' ∧
      n = m + 1 ∧ tokensUpTo m rest = some ts' := by
  cases n with
  | zero => cases tokens
  | succ m =>
    rw [tokensUpTo] at tokens
    split at tokens
    · next nothing => exact .inl ⟨nothing, (Option.some.inj tokens).symm⟩
    · split at tokens
      · next t rest read =>
        obtain ⟨ts', others, rfl⟩ := Option.map_eq_some_iff.1 tokens
        exact .inr ⟨m, t, rest, ts', readFrom_of_token read, rfl, rfl, others⟩
      · cases tokens

-- No bracket opens after a complete operand.
theorem opensCall_afterOperand (tokens : tokensUpTo n cs = some ts)
    (run : ts.foldlM Scan.step s = some s') (operand : s.turn = .afterOperand) :
    opensCall cs = false := by
  apply decide_eq_false
  intro opens
  rcases tokensUpTo_cases tokens with ⟨nothing, -⟩ | ⟨_, t, _, _, read, rfl, -, -⟩
  · simp [nothing] at opens
  · obtain rfl := (head_opening read).1 opens
    have refused : s.step (.opening .round) = none := by
      obtain ⟨_, turn, _⟩ := s
      obtain rfl : turn = .afterOperand := operand
      rfl
    simp [refused] at run

def Turn.pending (turn : Turn) (cs : List Char) : List (List Char) :=
  if opensCall cs then turn.name?.toList else []

-- A name is found when its bracket is read, and told when the name itself is; in between it is
-- pending.
theorem names_of_run (tokens : tokensUpTo n cs = some ts) (run : ts.foldlM Scan.step s = some s') :
    s'.names.reverse.filter (!isOperatorName ·) =
      (s.names.reverse ++ s.turn.pending cs ++ called cs).filter (!isOperatorName ·) := by
  induction ts generalizing n cs s with
  | nil =>
    obtain rfl : s = s' := Option.some.inj run
    rcases tokensUpTo_cases tokens with ⟨nothing, -⟩ | ⟨_, _, _, _, -, more, -⟩
    · rw [called_skipSpace, nothing]
      simp [Turn.pending, opensCall, nothing, called, calledFrom, runs]
    · cases more
  | cons t ts ih =>
    rcases tokensUpTo_cases tokens with ⟨-, none⟩ | ⟨m, _, rest, _, read, ⟨⟩, rfl, others⟩
    · cases none
    · obtain ⟨s₁, step, later⟩ := Option.bind_eq_some_iff.1 run
      have closed : t = .number → opensCall rest = false := by
        rintro rfl
        exact opensCall_afterOperand others later (Scan.turn_of_number step)
      rw [ih others later, called_skipSpace cs, called_token read closed]
      have opens : opensCall cs = decide (t = .opening .round) := by
        rw [opensCall, decide_eq_decide]
        exact head_opening read
      cases Scan.advances_of_step step with
      | @name w _ noKeyword names turn =>
        simp [Turn.pending, Token.called, opens, names, turn, noKeyword]
      | @operator w _ isOperator names turn =>
        rcases isOperator with isKey | isOperator
        · simp [Turn.pending, Token.called, opens, names, turn, isKey]
        · by_cases following : isKeyword w = false ∧ opensCall rest
          · simp [Turn.pending, Token.called, opens, names, turn, isOperator, following]
          · simp [Turn.pending, Token.called, opens, names, turn, following]
      | opening names turn =>
        have reversed : s.turn.name?.toList.reverse = s.turn.name?.toList := by
          cases s.turn.name? <;> rfl
        simp [Turn.pending, Token.called, opens, names, turn, reversed]
      | other noWord noBracket names turn =>
        have uncalled : t.called rest = [] := by
          cases t with
          | word w => exact absurd rfl (noWord w)
          | _ => rfl
        simp [Turn.pending, uncalled, opens, noBracket, names, turn]

end run

end Grammar

/-- A text that can be read mentions each name as often as it calls it, in the order of the text and
nothing else, up to `in` and `is`. -/
theorem mentionedNames?_eq_calledNames {source : String} {names : List String}
    (read : mentionedNames? source = some names) :
    names.filter (fun name => name ≠ "in" ∧ name ≠ "is") =
      (calledNames source).filter fun name => name ≠ "in" ∧ name ≠ "is" := by
  obtain ⟨found, mentions, rfl⟩ := Option.map_eq_some_iff.1 read
  have own (w : List Char) :
      decide (String.ofList w ≠ "in" ∧ String.ofList w ≠ "is") = !Grammar.isOperatorName w := by
    have same (k : String) : String.ofList w = k ↔ w = k.toList := by
      rw [← String.toList_inj, String.toList_ofList]
    simp [Grammar.isOperatorName, same]
  have same : found.filter (!Grammar.isOperatorName ·) =
      (Grammar.called source.toList).filter (!Grammar.isOperatorName ·) := by
    unfold Grammar.mentions? at mentions
    split at mentions
    · cases mentions
    · next ts tokens =>
      split at mentions
      · next s run =>
        obtain ⟨-, same⟩ := Option.ite_none_right_eq_some.1 mentions
        obtain rfl := Option.some.inj same
        have named := Grammar.names_of_run tokens run
        simpa [Grammar.Scan.empty, Grammar.Turn.pending, Grammar.Turn.name?] using named
      · cases mentions
  simp only [calledNames, List.filter_map, Function.comp_def, own, same]

theorem mentionedNames?_eq_calledNames_nested :
    let source := "not a.b(1, x=[c('d(', \"e\\\"(\")]) is f(g\t(2.5e3)) or (x) in(y);\nin(-h(.5e1))"
    let names := ["b", "c", "f", "g", "in", "h"]
    mentionedNames? source = some names ∧
      names.filter (fun name => name ≠ "in" ∧ name ≠ "is") =
        (calledNames source).filter fun name => name ≠ "in" ∧ name ≠ "is" := by
  intro source names
  have read : mentionedNames? source = some names := by decide +kernel
  exact ⟨read, mentionedNames?_eq_calledNames read⟩

end ViewQuery
