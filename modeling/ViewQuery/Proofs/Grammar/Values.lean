import ViewQuery.Proofs.Grammar.Literals

set_option autoImplicit false

namespace ViewQuery.Grammar

open Decimal

section numerals

variable {ds fs t : List Char} {e : Int} {negative : Bool}

theorem digits_nil (inside : ∀ d ∈ ds, isDigit d) : digits ds = (ds, []) := by
  have read : digits (ds ++ []) = (ds, []) := digits_complete inside stops_nil
  rwa [List.append_nil] at read

theorem sign_digits (run : DigitRun ds) (tail : List Char) :
    sign (ds ++ tail) = (false, ds ++ tail) := by
  obtain ⟨nonempty, digits⟩ := run
  cases ds with
  | nil => exact absurd rfl nonempty
  | cons d ds =>
    have digit := digits d (by simp)
    have plus := of_decide_eq_false (ne_of_isDigit (c := '+') digit rfl)
    have minus := of_decide_eq_false (ne_of_isDigit (c := '-') digit rfl)
    simp [sign, plus, minus]

theorem sign_signText (run : DigitRun ds) (tail : List Char) :
    sign (signText negative ++ ds ++ tail) = (negative, ds ++ tail) := by
  cases negative with
  | true => rfl
  | false => exact sign_digits run tail

theorem ExponentText.value (text : ExponentText e t) : Decimal.exponent? t = some e := by
  cases text with
  | @plain mark ds isMark run =>
    have sign : sign ds = (false, ds) := by simpa using sign_digits run []
    simp [Decimal.exponent?, sign, isMark, run.isEmpty, List.all_eq_true.2 run.2]
  | plus isMark run =>
    simp [Decimal.exponent?, sign, isMark, run.isEmpty, List.all_eq_true.2 run.2]
  | minus isMark run =>
    simp [Decimal.exponent?, sign, isMark, run.isEmpty, List.all_eq_true.2 run.2]

theorem FloatTail.value (tail : FloatTail fs e t) (run : DigitRun ds) :
    unsigned? negative (ds ++ t) = some ⟨negative, digitsValue (ds ++ fs), e - fs.length⟩ := by
  have whole : digits (ds ++ t) = (ds, t) := by
    have stop : Stops isDigit t := by simpa using tail.stops []
    exact digits_complete run.2 stop
  cases tail with
  | fraction fraction =>
    simp [unsigned?, whole, digits_nil fraction.2, run.isEmpty, Decimal.exponent?]
  | both fraction exponent =>
    have stop := exponent.stops (fun _ => not_isDigit_of_exponentMark) []
    rw [List.append_nil] at stop
    rw [List.cons_append] at whole ⊢
    simp [unsigned?, whole, digits_complete fraction.2 stop, run.isEmpty, exponent.value]
  | exponent exponent =>
    have noPoint := exponent.stops (fun _ => not_point_of_exponentMark) []
    cases t with
    | nil => cases exponent
    | cons c t =>
      have apart : c ≠ '.' := by simpa using noPoint
      simp [unsigned?, whole, run.isEmpty, exponent.value, apart]

theorem FloatText.ofText?_eq {n : Numeral} (text : FloatText n t) :
    ofText? double t = some (n.round double) := by
  cases text with
  | mk negative run tail => simp only [ofText?, numeral?, sign_signText run, tail.value run]

theorem FloatText.value {n : Numeral} (text : FloatText n t) : floatValue t = n.round double := by
  rw [floatValue, text.ofText?_eq, Option.getD_some]

theorem IntText.value {n : Int} (text : IntText n t) : intValue t = n := by
  cases text with
  | @mk negative ds whole =>
    have noMinus := whole.run.stops (fun d digit => ne_of_isDigit digit isDigit_minus) []
    rw [List.append_nil] at noMinus
    rw [intValue, minus_complete negative noMinus]
    cases negative <;> rfl

end numerals

theorem isDouble_iff {n : Numeral} {x : Float} :
    n.IsDouble x ↔ ∃ u, n.round double = .finite n.negative u ∧
      x = toFloat (.finite n.negative u) := by
  constructor
  · rintro ⟨u, nearest, finite, read⟩
    exact ⟨u, round_eq_finite_iff.2 ⟨rfl, nearest, finite⟩, read⟩
  · rintro ⟨u, rounded, read⟩
    obtain ⟨-, nearest, finite⟩ := round_eq_finite_iff.1 rounded
    exact ⟨u, nearest, finite, read⟩

theorem float_value_iff {n : Numeral} {t : List Char} {v : Literal} (text : FloatText n t) :
    (Lexeme.float t).value = .ok v ↔ ∃ x, v = .float x ∧ n.IsDouble x := by
  simp only [Lexeme.value, text.value, isDouble_iff]
  cases rounded : n.round double with
  | nan => simp [Binary.isFinite]
  | infinite negative => simp [Binary.isFinite]
  | finite negative u =>
    obtain ⟨rfl, -⟩ := round_eq_finite_iff.1 rounded
    simp [Binary.isFinite, eq_comm]

theorem int_value_iff {n : Int} {t : List Char} {v : Literal} (text : IntText n t) :
    (Lexeme.int t).value = .ok v ↔ ∃ m : Int64, v = .int m ∧ m.toInt = n := by
  simp only [Lexeme.value, text.value]
  constructor
  · intro valued
    split at valued
    · cases valued
    · next low =>
      split at valued
      · cases valued
      · next high =>
        obtain rfl := Except.ok.inj valued
        rw [Int64.toInt_maxValue] at low
        rw [Int64.toInt_minValue] at high
        exact ⟨_, rfl, Int64.toInt_ofInt_of_le (by omega) (by omega)⟩
  · rintro ⟨m, rfl, rfl⟩
    have low := m.minValue_le_toInt
    have high := m.toInt_le
    rw [if_neg (by omega), if_neg (by omega), Int64.ofInt_toInt]

theorem literalText_iff {v : Literal} {t : List Char} :
    LiteralText v t ↔ ∃ l, LexemeText l t ∧ l.value = .ok v := by
  constructor
  · rintro (⟨text, double⟩ | text | b | text)
    · exact ⟨_, .float text, (float_value_iff text).2 ⟨_, rfl, double⟩⟩
    · exact ⟨_, .int text, (int_value_iff text).2 ⟨_, rfl, rfl⟩⟩
    · exact ⟨_, .bool b, rfl⟩
    · exact ⟨_, .str text, by simp [Lexeme.value]⟩
  · rintro ⟨l, text | text | b | text, valued⟩
    · obtain ⟨x, rfl, double⟩ := (float_value_iff text).1 valued
      exact .float text double
    · obtain ⟨m, rfl, rfl⟩ := (int_value_iff text).1 valued
      exact .int text
    · obtain rfl := Except.ok.inj valued
      exact .bool b
    · obtain rfl := Except.ok.inj valued
      exact .str (by simpa using text)

end ViewQuery.Grammar
