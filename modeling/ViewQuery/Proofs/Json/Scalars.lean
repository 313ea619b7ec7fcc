import ViewQuery.Json.Value
import ViewQuery.Proofs.Grammar.Printing

set_option autoImplicit false

namespace ViewQuery.Json.Read

open Decimal Grammar

section strings

theorem hexValue4?_hexDigits {n : Nat} (small : n < 32) :
    hexValue4? '0' '0' (hexDigit (n / 16)) (hexDigit n) = some n := by
  revert n
  decide

theorem stringBody_control {c : Char} (rest : List Char) (control : c.toNat < 32) :
    stringBody ('\\' :: 'u' :: '0' :: '0' :: hexDigit (c.toNat / 16) :: hexDigit c.toNat :: rest) =
      prepend c (stringBody rest) := by
  have noLow : isLowSurrogate c.toNat = false := by
    simp only [isLowSurrogate, Bool.and_eq_false_iff, decide_eq_false_iff_not]
    omega
  have noHigh : isHighSurrogate c.toNat = false := by
    simp only [isHighSurrogate, Bool.and_eq_false_iff, decide_eq_false_iff_not]
    omega
  rw [stringBody]
  simp only [hexValue4?_hexDigits control, noLow, noHigh, Char.ofNat_toNat]
  rfl

theorem stringBody_plain {c : Char} (rest : List Char) (noQuote : c ≠ '"') (noSlash : c ≠ '\\')
    (noControl : 32 ≤ c.toNat) : stringBody (c :: rest) = prepend c (stringBody rest) := by
  rw [stringBody.eq_def]
  split <;> simp_all

theorem stringBody_escapeChar (c : Char) (rest : List Char) :
    stringBody (escapeChar c ++ rest) = prepend c (stringBody rest) := by
  unfold escapeChar
  split_ifs with isQuote isSlash isPlain isLine isReturn isTab isBack isFeed
  · subst isQuote
    rfl
  · subst isSlash
    rfl
  · exact stringBody_plain rest isQuote isSlash isPlain
  · subst isLine
    rfl
  · subst isReturn
    rfl
  · subst isTab
    rfl
  · subst isBack
    rfl
  · subst isFeed
    rfl
  · exact stringBody_control rest (Nat.lt_of_not_le isPlain)

theorem stringBody_escaped (cs rest : List Char) :
    stringBody (cs.flatMap escapeChar ++ '"' :: rest) = .ok (cs, rest) := by
  induction cs with
  | nil => rfl
  | cons c cs ih =>
    rw [List.flatMap_cons, List.append_assoc, stringBody_escapeChar, ih]
    rfl

end strings

section numbers

variable {cs ds rest r t : List Char} {negative : Bool} {s : Nat} {start : Int} {n : Number}

theorem digits_append (cs : List Char) (stop : Stops isDigit rest) :
    digits (cs ++ rest) = ((digits cs).1, (digits cs).2 ++ rest) := by
  induction cs with
  | nil => exact digits_complete (List.forall_mem_nil _) stop
  | cons c cs ih =>
    simp only [digits, Prod.mk.injEq] at ih
    by_cases digit : isDigit c
    · simp [digits, digit, ih]
    · simp [digits, digit]

theorem sign_append {c : Char} (cs rest : List Char) :
    sign (c :: cs ++ rest) = ((sign (c :: cs)).1, (sign (c :: cs)).2 ++ rest) := by
  by_cases minus : c = '-'
  · subst minus
    rfl
  · by_cases plus : c = '+'
    · subst plus
      rfl
    · simp [sign, minus, plus]

theorem noDigit_of_noNumeric (stop : Stops isNumeric rest) : Stops isDigit rest :=
  stop.mono fun _ => isNumeric_of_isDigit

theorem noMark_of_noNumeric (stop : Stops isNumeric rest) : Stops exponentMark rest :=
  stop.mono fun _ mark => isNumeric_of_isWordChar (isWordChar_of_exponentMark mark)

theorem noPoint_of_noNumeric (stop : Stops isNumeric rest) : Stops (· = '.') rest :=
  stop.mono fun c point => by
    rw [of_decide_eq_true point]
    rfl

def signedExponent (negative : Bool) (s : Nat) (start : Int) (down : Bool) (cs : List Char) :
    Reading Number :=
  let (ds, rest) := digits cs
  if ds.isEmpty then
    .error (if rest.isEmpty then .after .valueMissing rest else .upon .numberInvalid rest)
  else
    match overLimit greatestExponent 0 ds with
    | some unread =>
      if s ≠ 0 ∧ !down then .error (.after .numberOutOfRange (unread ++ rest))
      else .ok (.float (if negative then -0.0 else 0.0), rest)
    | none =>
      let e : Int := digitsValue ds
      float negative s (if down then start - e else start + e) rest

theorem exponent_eq (cs : List Char) :
    exponent negative s start cs = signedExponent negative s start (sign cs).1 (sign cs).2 := by
  cases cs with
  | nil => rfl
  | cons c cs =>
    by_cases minus : c = '-'
    · subst minus
      rfl
    · by_cases plus : c = '+'
      · subst plus
        rfl
      · have unsigned : sign (c :: cs) = (false, c :: cs) := by simp [sign, minus, plus]
        rw [unsigned, exponent]
        · rfl
        · simp [plus]
        · simp [minus]

theorem float_append {e : Int} (read : float negative s e cs = .ok (n, r)) :
    float negative s e (cs ++ rest) = .ok (n, r ++ rest) := by
  unfold float at read ⊢
  split at read
  · next x found =>
    obtain ⟨rfl, rfl⟩ := Prod.mk.inj (Except.ok.inj read)
    rfl
  · cases read

theorem signedExponent_append {down : Bool}
    (read : signedExponent negative s start down cs = .ok (n, r)) (stop : Stops isNumeric rest) :
    signedExponent negative s start down (cs ++ rest) = .ok (n, r ++ rest) := by
  unfold signedExponent at read ⊢
  rw [digits_append cs (noDigit_of_noNumeric stop)]
  dsimp only at read ⊢
  split at read
  · cases read
  · next nonempty =>
    rw [if_neg nonempty]
    split at read
    · split at read
      · cases read
      · next small =>
        obtain ⟨rfl, rfl⟩ := Prod.mk.inj (Except.ok.inj read)
        rw [if_neg small]
    · exact float_append read

theorem exponent_append (read : exponent negative s start cs = .ok (n, r))
    (stop : Stops isNumeric rest) :
    exponent negative s start (cs ++ rest) = .ok (n, r ++ rest) := by
  rw [exponent_eq] at read ⊢
  cases cs with
  | nil => cases read
  | cons c cs =>
    rw [sign_append]
    exact signedExponent_append read stop

def fractionEnd (negative : Bool) (s : Nat) (start : Int) : List Char → Reading Number
  | c :: r =>
    if exponentMark c then exponent negative s start r else float negative s start (c :: r)
  | [] => float negative s start []

theorem fractionEnd_append (read : fractionEnd negative s start cs = .ok (n, r))
    (stop : Stops isNumeric rest) :
    fractionEnd negative s start (cs ++ rest) = .ok (n, r ++ rest) := by
  cases cs with
  | nil =>
    have taken : float negative s start ([] ++ rest) = .ok (n, r ++ rest) := float_append read
    cases rest with
    | nil => exact taken
    | cons d rest =>
      have noMark := stops_cons.1 (noMark_of_noNumeric stop)
      rwa [List.nil_append, fractionEnd, noMark, if_neg Bool.false_ne_true]
  | cons c cs =>
    rw [List.cons_append, fractionEnd]
    rw [fractionEnd] at read
    split at read
    · next mark =>
      rw [if_pos mark]
      exact exponent_append read stop
    · next noMark =>
      rw [if_neg noMark]
      exact float_append read

theorem fractional_point (cs : List Char) :
    fractional negative s start ('.' :: cs) =
      if (digits cs).1.isEmpty then
        .error (if (digits cs).2.isEmpty then .after .valueMissing (digits cs).2
          else .upon .numberInvalid (digits cs).2)
      else
        fractionEnd negative (extend s (digits cs).1).1
          (start - ((digits cs).1.length - (extend s (digits cs).1).2.length)) (digits cs).2 := by
  rw [fractional]
  generalize digits cs = cut
  obtain ⟨ds, rest⟩ := cut
  cases rest <;> rfl

theorem fractional_other (noPoint : Stops (· = '.') cs) :
    fractional negative s start cs = fractionEnd negative s start cs := by
  cases cs with
  | nil => rfl
  | cons c cs =>
    have apart : c ≠ '.' := of_decide_eq_false (stops_cons.1 noPoint)
    rw [fractional]
    · rfl
    · exact apart

theorem point_or_stops (cs : List Char) : (∃ tail, cs = '.' :: tail) ∨ Stops (· = '.') cs := by
  cases cs with
  | nil => exact .inr stops_nil
  | cons c cs =>
    by_cases point : c = '.'
    · exact .inl ⟨cs, by rw [point]⟩
    · exact .inr (stops_cons.2 (decide_eq_false point))

theorem stops_append {p : Char → Bool} (stop : Stops p cs) (stop' : Stops p rest) :
    Stops p (cs ++ rest) := by
  cases cs with
  | nil => exact stop'
  | cons c cs => exact stops_cons.2 (stops_cons.1 stop)

theorem fractional_append (read : fractional negative s start cs = .ok (n, r))
    (stop : Stops isNumeric rest) :
    fractional negative s start (cs ++ rest) = .ok (n, r ++ rest) := by
  rcases point_or_stops cs with ⟨tail, rfl⟩ | noPoint
  · rw [fractional_point] at read
    rw [List.cons_append, fractional_point, digits_append tail (noDigit_of_noNumeric stop)]
    dsimp only
    split at read
    · cases read
    · next nonempty =>
      rw [if_neg nonempty]
      exact fractionEnd_append read stop
  · rw [fractional_other noPoint] at read
    rw [fractional_other (stops_append noPoint (noPoint_of_noNumeric stop))]
    exact fractionEnd_append read stop

theorem startsFraction_append (cs : List Char) (stop : Stops isNumeric rest) :
    startsFraction (cs ++ rest) = startsFraction cs := by
  cases cs with
  | nil =>
    cases rest with
    | nil => rfl
    | cons d rest =>
      have noMark := stops_cons.1 (noMark_of_noNumeric stop)
      have noPoint := stops_cons.1 (noPoint_of_noNumeric stop)
      simp [startsFraction, noMark, noPoint]
  | cons c cs => rfl

theorem unsigned_zero (cs : List Char) :
    unsigned negative ('0' :: cs) =
      if (digits cs).1.isEmpty then
        if startsFraction cs then fractional negative 0 0 cs else .ok (whole negative 0, cs)
      else .error (.upon .numberInvalid cs) := by
  rw [unsigned]

theorem unsigned_other {c : Char} (noZero : c ≠ '0') (cs : List Char) :
    unsigned negative (c :: cs) =
      if (digits (c :: cs)).1.isEmpty then .error (.upon .numberInvalid (c :: cs))
      else if (extend 0 (digits (c :: cs)).1).2.isEmpty && !startsFraction (digits (c :: cs)).2 then
        .ok (whole negative (extend 0 (digits (c :: cs)).1).1, (digits (c :: cs)).2)
      else
        fractional negative (extend 0 (digits (c :: cs)).1).1
          (extend 0 (digits (c :: cs)).1).2.length (digits (c :: cs)).2 := by
  rw [unsigned]
  · simp
  · exact fun tail same => noZero (List.cons.inj same).1

theorem unsigned_append (read : unsigned negative cs = .ok (n, r)) (stop : Stops isNumeric rest) :
    unsigned negative (cs ++ rest) = .ok (n, r ++ rest) := by
  have noDigit := noDigit_of_noNumeric stop
  cases cs with
  | nil => cases read
  | cons c cs =>
    by_cases zero : c = '0'
    · subst zero
      rw [unsigned_zero] at read
      rw [List.cons_append, unsigned_zero, digits_append cs noDigit, startsFraction_append cs stop]
      dsimp only
      split at read
      · next alone =>
        rw [if_pos alone]
        split at read
        · next fraction =>
          rw [if_pos fraction]
          exact fractional_append read stop
        · next noFraction =>
          obtain ⟨rfl, rfl⟩ := Prod.mk.inj (Except.ok.inj read)
          rw [if_neg noFraction]
      · cases read
    · rw [unsigned_other zero] at read
      rw [List.cons_append, unsigned_other zero, ← List.cons_append,
        digits_append (c :: cs) noDigit]
      dsimp only
      rw [startsFraction_append _ stop]
      split at read
      · cases read
      · next nonempty =>
        rw [if_neg nonempty]
        split at read
        · next plain =>
          obtain ⟨rfl, rfl⟩ := Prod.mk.inj (Except.ok.inj read)
          rw [if_pos plain]
        · next fraction =>
          rw [if_neg fraction]
          exact fractional_append read stop

theorem number_signText (negative : Bool) (noMinus : Stops (· = '-') cs) :
    number (signText negative ++ cs) = unsigned negative cs := by
  cases negative with
  | true => rfl
  | false =>
    change number cs = unsigned false cs
    cases cs with
    | nil => rfl
    | cons c cs =>
      have apart : c ≠ '-' := of_decide_eq_false (stops_cons.1 noMinus)
      rw [number]
      exact fun _ same => apart (List.cons.inj same).1

theorem number_append (read : number cs = .ok (n, r)) (stop : Stops isNumeric rest) :
    number (cs ++ rest) = .ok (n, r ++ rest) := by
  cases cs with
  | nil => cases read
  | cons c cs =>
    by_cases minus : c = '-'
    · subst minus
      have taken : unsigned true (cs ++ rest) = .ok (n, r ++ rest) := unsigned_append read stop
      exact taken
    · have noMinus (tail : List Char) : Stops (· = '-') (c :: tail) :=
        stops_cons.2 (decide_eq_false minus)
      have alone : unsigned false (c :: cs) = .ok (n, r) :=
        (number_signText false (noMinus cs)).symm.trans read
      exact (number_signText false (noMinus (cs ++ rest))).trans (unsigned_append alone stop)

theorem extend_of_small {m : Nat} (small : Nat.ofDigitChars 10 ds m < twoTo 64) :
    extend m ds = (Nat.ofDigitChars 10 ds m, []) := by
  induction ds generalizing m with
  | nil => rfl
  | cons d ds ih =>
    rw [Nat.ofDigitChars_cons] at small ⊢
    have next : 10 * m + digitValue d < twoTo 64 := by
      refine Nat.lt_of_le_of_lt ?_ small
      rw [Nat.ofDigitChars_eq_ofDigitChars_zero]
      exact (Nat.le_mul_of_pos_left _ (by positivity)).trans (Nat.le_add_right _ _)
    simp only [extend, next, if_true]
    exact ih small

theorem unsigned_natText {m : Nat} (small : m < twoTo 64) :
    unsigned negative (natText m) = .ok (whole negative m, []) := by
  by_cases zero : m = 0
  · subst zero
    rfl
  · have value := digitsValue_natText m
    have alone := digits_nil (digitRun_natText m).2
    have text := wholeNumber_natText m
    generalize natText m = cs at *
    cases text with
    | zeros k =>
      have nothing : digitsValue (List.replicate (k + 1) '0') = 0 := by
        exact (congrArg digitsValue (List.append_nil _).symm).trans (digitsValue_zeros (k + 1) [])
      exact absurd (value.symm.trans nothing) zero
    | @leading d ds digit apart inside =>
      have fits : extend 0 (d :: ds) = (Nat.ofDigitChars 10 (d :: ds) 0, []) :=
        extend_of_small (by rwa [← digitsValue_eq, value])
      rw [unsigned_other apart, alone]
      dsimp only
      rw [fits, ← digitsValue_eq, value]
      rfl

theorem noMinus_natText (m : Nat) : Stops (· = '-') (natText m) := by
  simpa using (digitRun_natText m).stops (fun d digit => ne_of_isDigit digit isDigit_minus) []

theorem number_intText {k : Int} (low : -twoTo 63 ≤ k) (high : k < twoTo 64) :
    number (intText k) = .ok (.int k, []) := by
  cases k with
  | ofNat m =>
    have small : m < twoTo 64 := Int.ofNat_lt.1 high
    exact (number_signText false (noMinus_natText m)).trans (unsigned_natText small)
  | negSucc m =>
    have fits : m + 1 ≤ twoTo 63 := by
      rw [Int.negSucc_eq] at low
      omega
    have small : m + 1 < twoTo 64 := Nat.lt_of_le_of_lt fits (by decide)
    refine (number_signText true (noMinus_natText (m + 1))).trans ?_
    rw [unsigned_natText small, whole, if_pos rfl, if_neg (by omega)]
    rfl

theorem exists_float {e : Int} (read : float negative s e cs = .ok (n, r)) : ∃ x, n = .float x := by
  unfold float at read
  split at read
  · next x _ => exact ⟨x, (congrArg Prod.fst (Except.ok.inj read)).symm⟩
  · cases read

theorem exists_float_of_exponent (read : exponent negative s start cs = .ok (n, r)) :
    ∃ x, n = .float x := by
  rw [exponent_eq, signedExponent] at read
  dsimp only at read
  split at read
  · cases read
  · split at read
    · split at read
      · cases read
      · exact ⟨_, (congrArg Prod.fst (Except.ok.inj read)).symm⟩
    · exact exists_float read

theorem exists_float_of_fractionEnd (read : fractionEnd negative s start cs = .ok (n, r)) :
    ∃ x, n = .float x := by
  unfold fractionEnd at read
  split at read
  · split at read
    · exact exists_float_of_exponent read
    · exact exists_float read
  · exact exists_float read

theorem exists_float_of_fractional (read : fractional negative s start cs = .ok (n, r)) :
    ∃ x, n = .float x := by
  rcases point_or_stops cs with ⟨tail, rfl⟩ | noPoint
  · rw [fractional_point] at read
    split at read
    · cases read
    · exact exists_float_of_fractionEnd read
  · rw [fractional_other noPoint] at read
    exact exists_float_of_fractionEnd read

theorem startsFraction_of_tail {fs : List Char} {e : Int} (tail : FloatTail fs e t) :
    startsFraction t := by
  rcases tail with _ | _ | (⟨mark, _⟩ | ⟨mark, _⟩ | ⟨mark, _⟩)
  · rfl
  · rfl
  all_goals simp [startsFraction, mark]

theorem exists_float_of_text {p : Numeral} (text : FloatText p t) (read : number t = .ok (n, r)) :
    ∃ x, n = .float x := by
  cases text with
  | @mk negative ds fs tailText e run tail =>
    have noMinus := run.stops (fun d digit => ne_of_isDigit digit isDigit_minus) tailText
    have noDigit : Stops isDigit tailText := by simpa using tail.stops []
    have fraction := startsFraction_of_tail tail
    rw [List.append_assoc, number_signText negative noMinus] at read
    obtain ⟨d, ds, rfl⟩ := List.exists_cons_of_ne_nil run.1
    obtain ⟨-, inside⟩ := List.forall_mem_cons.1 run.2
    rw [List.cons_append] at read
    by_cases zero : d = '0'
    · subst zero
      rw [unsigned_zero, digits_complete inside noDigit] at read
      dsimp only at read
      split at read
      · next alone =>
        rw [List.isEmpty_iff.1 alone, List.nil_append, if_pos fraction] at read
        exact exists_float_of_fractional read
      · cases read
    · rw [unsigned_other zero, ← List.cons_append, digits_complete run.2 noDigit] at read
      dsimp only at read
      rw [fraction, Bool.not_true, Bool.and_false, if_neg Bool.false_ne_true] at read
      split at read
      · cases read
      · exact exists_float_of_fractional read

end numbers

end ViewQuery.Json.Read
