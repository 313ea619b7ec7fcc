import ViewQuery.Proofs.Grammar.Lexemes

set_option autoImplicit false

namespace ViewQuery.Grammar

open Decimal

section numbers

variable {cs rest ds t : List Char}

theorem DigitRun.stops {p : Char → Bool} (run : DigitRun ds) (apart : ∀ d, isDigit d → p d = false)
    (tail : List Char) : Stops p (ds ++ tail) := by
  obtain ⟨nonempty, digits⟩ := run
  cases ds with
  | nil => exact absurd rfl nonempty
  | cons d ds => simpa using apart d (digits d (by simp))

theorem ne_of_isDigit {c d : Char} (digit : isDigit d) (apart : isDigit c = false) :
    decide (d = c) = false :=
  decide_eq_false (ne_of_apart digit apart)

theorem minus_complete (negative : Bool) (stop : Stops (· = '-') rest) :
    minus (signText negative ++ rest) = (signText negative, rest) := by
  cases negative with
  | true => rfl
  | false =>
    cases rest with
    | nil => rfl
    | cons c rest =>
      have apart : c ≠ '-' := by simpa using stop
      simp [signText, minus, apart]

theorem minus_sound (cs : List Char) :
    ∃ negative, (minus cs).1 = signText negative ∧ cs = signText negative ++ (minus cs).2 := by
  unfold minus
  split
  · exact ⟨true, rfl, rfl⟩
  · exact ⟨false, rfl, rfl⟩

theorem exponentSign_digits (run : DigitRun ds) (tail : List Char) :
    exponentSign (ds ++ tail) = ([], ds ++ tail) := by
  obtain ⟨nonempty, digits⟩ := run
  cases ds with
  | nil => exact absurd rfl nonempty
  | cons d ds =>
    have digit := digits d (by simp)
    have plus := of_decide_eq_false (ne_of_isDigit (c := '+') digit rfl)
    have minus := of_decide_eq_false (ne_of_isDigit (c := '-') digit rfl)
    simp [exponentSign, plus, minus]

theorem DigitRun.isEmpty (run : DigitRun ds) : ds.isEmpty = false := by
  simpa using run.1

theorem exponent?_complete {e : Int} (text : ExponentText e t) (stop : Stops isDigit rest) :
    exponent? (t ++ rest) = some (t, rest) := by
  cases text with
  | plain mark run =>
    simp [exponent?, exponentSign_digits run, digits_complete run.2 stop, mark, run.isEmpty]
  | plus mark run =>
    simp [exponent?, exponentSign, digits_complete run.2 stop, mark, run.isEmpty]
  | minus mark run =>
    simp [exponent?, exponentSign, digits_complete run.2 stop, mark, run.isEmpty]

theorem exponentSign_cases (cs : List Char) : ∃ tail,
    cs = '+' :: tail ∧ exponentSign cs = (['+'], tail) ∨
      cs = '-' :: tail ∧ exponentSign cs = (['-'], tail) ∨
      cs = tail ∧ exponentSign cs = ([], tail) := by
  unfold exponentSign
  split
  · exact ⟨_, .inl ⟨rfl, rfl⟩⟩
  · exact ⟨_, .inr (.inl ⟨rfl, rfl⟩)⟩
  · exact ⟨_, .inr (.inr ⟨rfl, rfl⟩)⟩

theorem exponent?_sound (read : exponent? cs = some (t, rest)) :
    cs = t ++ rest ∧ ∃ e, ExponentText e t := by
  cases cs with
  | nil => simp [exponent?] at read
  | cons mark cs =>
    obtain ⟨tail, sign⟩ := exponentSign_cases cs
    obtain ⟨text, inside, -⟩ := digits_sound tail
    rcases sign with ⟨rfl, sign⟩ | ⟨rfl, sign⟩ | ⟨rfl, sign⟩
    all_goals
      simp only [exponent?, sign, Bool.and_eq_true, Bool.not_eq_true', List.isEmpty_eq_false_iff,
        Option.ite_none_right_eq_some, Option.some.injEq, Prod.mk.injEq] at read
      obtain ⟨⟨isMark, nonempty⟩, rfl, rfl⟩ := read
    · exact ⟨congrArg (mark :: '+' :: ·) text, _, .plus isMark ⟨nonempty, inside⟩⟩
    · exact ⟨congrArg (mark :: '-' :: ·) text, _, .minus isMark ⟨nonempty, inside⟩⟩
    · exact ⟨congrArg (mark :: ·) text, _, .plain isMark ⟨nonempty, inside⟩⟩

theorem exponent?_eq_none (stop : Stops exponentMark rest) : exponent? rest = none := by
  cases rest with
  | nil => rfl
  | cons c rest => simp [exponent?, stops_cons.1 stop]

theorem ExponentText.stops {p : Char → Bool} {e : Int} (text : ExponentText e t)
    (apart : ∀ c, exponentMark c → p c = false) (tail : List Char) : Stops p (t ++ tail) := by
  cases text with
  | plain mark _ => simpa using apart _ mark
  | plus mark _ => simpa using apart _ mark
  | minus mark _ => simpa using apart _ mark

theorem not_isDigit_of_exponentMark {c : Char} (mark : exponentMark c) : isDigit c = false := by
  simp only [exponentMark, Bool.or_eq_true, decide_eq_true_eq] at mark
  rcases mark with rfl | rfl <;> decide

theorem not_point_of_exponentMark {c : Char} (mark : exponentMark c) :
    decide (c = '.') = false := by
  simp only [exponentMark, Bool.or_eq_true, decide_eq_true_eq] at mark
  rcases mark with rfl | rfl <;> decide

theorem fraction?_complete (run : DigitRun ds) (stop : Stops isDigit rest) :
    fraction? ('.' :: ds ++ rest) = some ('.' :: ds, rest) := by
  simp [fraction?, digits_complete run.2 stop, run.isEmpty]

theorem fraction?_sound (read : fraction? cs = some (t, rest)) :
    cs = t ++ rest ∧ ∃ ds, t = '.' :: ds ∧ DigitRun ds := by
  unfold fraction? at read
  split at read
  · next tail =>
    obtain ⟨text, inside, -⟩ := digits_sound tail
    simp only [List.isEmpty_iff, Option.ite_none_left_eq_some, Option.some.injEq,
      Prod.mk.injEq] at read
    obtain ⟨nonempty, rfl, rfl⟩ := read
    exact ⟨congrArg ('.' :: ·) text, _, rfl, nonempty, inside⟩
  · simp at read

theorem fraction?_eq_none (stop : Stops (· = '.') rest) : fraction? rest = none := by
  cases rest with
  | nil => rfl
  | cons c rest =>
    have apart : c ≠ '.' := by simpa using stop
    simp [fraction?, apart]

theorem floatTail?_complete {e : Int} (text : FloatTail ds e t) (stop : Stops isWordChar rest) :
    floatTail? (t ++ rest) = some (t, rest) := by
  have noDigit : Stops isDigit rest := stop.mono fun _ => isWordChar_of_isDigit
  have noMark : Stops exponentMark rest := stop.mono fun _ => isWordChar_of_exponentMark
  cases text with
  | fraction run =>
    simp only [floatTail?, fraction?_complete run noDigit, exponent?_eq_none noMark]
  | both run exponent =>
    have after := exponent.stops (fun _ => not_isDigit_of_exponentMark) rest
    rw [List.append_assoc]
    simp only [floatTail?, fraction?_complete run after, exponent?_complete exponent noDigit]
  | exponent exponent =>
    have noPoint := exponent.stops (fun _ => not_point_of_exponentMark) rest
    simp only [floatTail?, fraction?_eq_none noPoint, exponent?_complete exponent noDigit]

theorem floatTail?_sound (read : floatTail? cs = some (t, rest)) :
    cs = t ++ rest ∧ ∃ ds e, FloatTail ds e t := by
  unfold floatTail? at read
  split at read
  · next isFraction =>
    obtain ⟨text, ds, rfl, run⟩ := fraction?_sound isFraction
    split at read
    · next isExponent =>
      obtain ⟨exponentText, e, exponent⟩ := exponent?_sound isExponent
      obtain ⟨rfl, rfl⟩ := Prod.mk.inj (Option.some.inj read)
      exact ⟨by rw [text, exponentText, List.append_assoc], ds, e, .both run exponent⟩
    · obtain ⟨rfl, rfl⟩ := Prod.mk.inj (Option.some.inj read)
      exact ⟨text, ds, 0, .fraction run⟩
  · obtain ⟨text, e, exponent⟩ := exponent?_sound read
    exact ⟨text, [], e, .exponent exponent⟩

theorem FloatTail.stops {e : Int} (text : FloatTail ds e t) (tail : List Char) :
    Stops isDigit (t ++ tail) := by
  cases text with
  | fraction _ => simp [isDigit]
  | both _ _ => simp [isDigit]
  | exponent exponent => exact exponent.stops (fun _ => not_isDigit_of_exponentMark) tail

def isNumeric (c : Char) : Bool := isWordChar c || c = '.' || c = '+' || c = '-'

theorem isNumeric_of_isWordChar {c : Char} (word : isWordChar c) : isNumeric c := by
  simp [isNumeric, word]

theorem isNumeric_of_isDigit {c : Char} (digit : isDigit c) : isNumeric c :=
  isNumeric_of_isWordChar (isWordChar_of_isDigit digit)

theorem DigitRun.isNumeric (run : DigitRun ds) : ∀ d ∈ ds, Grammar.isNumeric d :=
  fun d member => isNumeric_of_isDigit (run.2 d member)

theorem ExponentText.isNumeric {e : Int} (text : ExponentText e t) :
    ∀ c ∈ t, Grammar.isNumeric c := by
  have mark {c : Char} (isMark : exponentMark c) : Grammar.isNumeric c :=
    isNumeric_of_isWordChar (isWordChar_of_exponentMark isMark)
  cases text with
  | plain isMark run => exact List.forall_mem_cons.2 ⟨mark isMark, run.isNumeric⟩
  | plus isMark run =>
    exact List.forall_mem_cons.2 ⟨mark isMark, List.forall_mem_cons.2 ⟨rfl, run.isNumeric⟩⟩
  | minus isMark run =>
    exact List.forall_mem_cons.2 ⟨mark isMark, List.forall_mem_cons.2 ⟨rfl, run.isNumeric⟩⟩

theorem FloatTail.isNumeric {e : Int} (text : FloatTail ds e t) :
    ∀ c ∈ t, Grammar.isNumeric c := by
  cases text with
  | fraction run => exact List.forall_mem_cons.2 ⟨rfl, run.isNumeric⟩
  | both run exponent =>
    exact List.forall_mem_append.2
      ⟨List.forall_mem_cons.2 ⟨rfl, run.isNumeric⟩, exponent.isNumeric⟩
  | exponent exponent => exact exponent.isNumeric

theorem isDigit_minus : isDigit '-' = false := by decide

theorem float?_complete {n : Numeral} (text : FloatText n t) (stop : Stops isWordChar rest) :
    float? (t ++ rest) = some (.float t, rest) := by
  cases text with
  | @mk negative ds fs tailText e run tail =>
    have whole := digits_complete run.2 (tail.stops rest)
    have noMinus := run.stops (fun d digit => ne_of_isDigit digit isDigit_minus) (tailText ++ rest)
    rw [List.append_assoc, List.append_assoc]
    simp only [float?, minus_complete negative noMinus, whole, run.isEmpty,
      floatTail?_complete tail stop, startsWord_eq_false_iff.2 stop]
    simp

theorem float?_sound {l : Lexeme} (read : float? cs = some (l, rest)) :
    ∃ t, cs = t ++ rest ∧ LexemeText l t := by
  obtain ⟨negative, sign, text⟩ := minus_sound cs
  obtain ⟨wholeText, inside, -⟩ := digits_sound (minus cs).2
  simp only [float?] at read
  split at read
  · simp at read
  · next nonempty =>
    split at read
    · next tail rest' isTail =>
      split at read
      · simp at read
      · obtain ⟨tailText, fs, e, floatTail⟩ := floatTail?_sound isTail
        obtain ⟨rfl, rfl⟩ := Prod.mk.inj (Option.some.inj read)
        have run : DigitRun (digits (minus cs).2).1 := ⟨by simpa using nonempty, inside⟩
        rw [sign]
        refine ⟨_, ?_, .float (.mk negative run floatTail)⟩
        rw [List.append_assoc, List.append_assoc, ← tailText, ← wholeText]
        exact text
    · simp at read

theorem WholeNumber.run (whole : WholeNumber ds) : DigitRun ds := by
  cases whole with
  | zeros n =>
    refine ⟨by simp, fun d member => ?_⟩
    rw [List.eq_of_mem_replicate member]
    decide
  | leading digit _ inside =>
    exact ⟨List.cons_ne_nil _ _, List.forall_mem_cons.2 ⟨digit, inside⟩⟩

theorem signText_isNumeric (negative : Bool) : ∀ c ∈ signText negative, isNumeric c := by
  cases negative with
  | true => exact List.forall_mem_singleton.2 rfl
  | false => exact fun _ member => nomatch member

theorem IntText.isNumeric {n : Int} (text : IntText n t) : ∀ c ∈ t, Grammar.isNumeric c := by
  obtain ⟨negative, whole⟩ := text
  exact List.forall_mem_append.2 ⟨signText_isNumeric negative, whole.run.isNumeric⟩

theorem FloatText.isNumeric {n : Numeral} (text : FloatText n t) :
    ∀ c ∈ t, Grammar.isNumeric c := by
  obtain ⟨negative, run, tail⟩ := text
  have digits := List.forall_mem_append.2 ⟨signText_isNumeric negative, run.isNumeric⟩
  exact List.forall_mem_append.2 ⟨digits, tail.isNumeric⟩

theorem wholeDigits_complete (whole : WholeNumber ds) (stop : Stops isDigit rest) :
    wholeDigits (ds ++ rest) = (ds, rest) := by
  cases whole with
  | zeros n =>
    have inside : ∀ c ∈ List.replicate (n + 1) '0', decide (c = '0') := by simp
    have noZero : Stops (· = '0') rest := stop.mono fun c zero => by
      rw [of_decide_eq_true zero]
      decide
    have unfolded : wholeDigits (List.replicate (n + 1) '0' ++ rest) =
        ((List.replicate (n + 1) '0' ++ rest).takeWhile (· = '0'),
          (List.replicate (n + 1) '0' ++ rest).dropWhile (· = '0')) := rfl
    rw [unfolded, takeWhile_append inside noZero, dropWhile_append inside noZero]
  | leading digit apart inside =>
    have read := digits_complete (List.forall_mem_cons.2 ⟨digit, inside⟩) stop
    rw [List.cons_append] at read ⊢
    simp [wholeDigits, apart, read]

theorem wholeDigits_sound (cs : List Char) :
    cs = (wholeDigits cs).1 ++ (wholeDigits cs).2 ∧
      ((wholeDigits cs).1 ≠ [] → WholeNumber (wholeDigits cs).1) := by
  unfold wholeDigits
  split
  · next tail =>
    refine ⟨(List.takeWhile_append_dropWhile (p := (· = '0'))).symm, fun _ => ?_⟩
    have zeros : ('0' :: tail).takeWhile (· = '0') =
        List.replicate ((tail.takeWhile (· = '0')).length + 1) '0' := by
      rw [List.eq_replicate_iff]
      constructor
      · simp
      · exact fun c member => of_decide_eq_true (List.mem_takeWhile_imp (p := (· = '0')) member)
    rw [zeros]
    exact .zeros _
  · next noZero =>
    obtain ⟨text, inside, -⟩ := digits_sound cs
    refine ⟨text, fun nonempty => ?_⟩
    generalize digits cs = read at *
    obtain ⟨_ | ⟨d, ds⟩, rest⟩ := read
    · exact absurd rfl nonempty
    · obtain ⟨digit, inside⟩ := List.forall_mem_cons.1 inside
      refine .leading digit ?_ inside
      rintro rfl
      exact noZero _ text

theorem int?_complete {n : Int} (text : IntText n t) (stop : Stops isWordChar rest)
    (noPoint : Stops (· = '.') rest) : int? (t ++ rest) = some (.int t, rest) := by
  cases text with
  | @mk negative ds whole =>
    have noMinus := whole.run.stops (fun d digit => ne_of_isDigit digit isDigit_minus) rest
    have read := wholeDigits_complete whole (stop.mono fun _ => isWordChar_of_isDigit)
    rw [List.append_assoc]
    simp only [int?, minus_complete negative noMinus, read, whole.run.isEmpty,
      startsWord_eq_false_iff.2 stop, startsPoint_eq_false_iff.2 noPoint]
    simp

theorem int?_sound {l : Lexeme} (read : int? cs = some (l, rest)) :
    ∃ t, cs = t ++ rest ∧ LexemeText l t := by
  obtain ⟨negative, sign, text⟩ := minus_sound cs
  obtain ⟨wholeText, whole⟩ := wholeDigits_sound (minus cs).2
  simp only [int?] at read
  split at read
  · simp at read
  · next going =>
    simp only [Bool.or_eq_true, not_or, List.isEmpty_iff] at going
    obtain ⟨rfl, rfl⟩ := Prod.mk.inj (Option.some.inj read)
    rw [sign]
    refine ⟨_, ?_, .int (.mk negative (whole going.1.1))⟩
    rw [List.append_assoc, ← wholeText]
    exact text

theorem float?_int {n : Int} (text : IntText n t) (stop : Stops isWordChar rest)
    (noPoint : Stops (· = '.') rest) : float? (t ++ rest) = none := by
  cases text with
  | @mk negative ds whole =>
    have noMinus := whole.run.stops (fun d digit => ne_of_isDigit digit isDigit_minus) rest
    have read := digits_complete whole.run.2 (stop.mono fun _ => isWordChar_of_isDigit)
    have noMark : Stops exponentMark rest := stop.mono fun _ => isWordChar_of_exponentMark
    rw [List.append_assoc]
    simp [float?, minus_complete negative noMinus, read, floatTail?, fraction?_eq_none noPoint,
      exponent?_eq_none noMark]

theorem number_eq_none (noMinus : Stops (· = '-') cs) (noDigit : Stops isDigit cs) :
    float? cs = none ∧ int? cs = none := by
  have sign : minus cs = ([], cs) := minus_complete false noMinus
  have float : digits ([] ++ cs) = ([], cs) := digits_complete (by simp) noDigit
  rw [List.nil_append] at float
  have whole : wholeDigits cs = ([], cs) := by
    unfold wholeDigits
    split
    · exact absurd (stops_cons.1 noDigit) (by decide)
    · exact float
  simp [float?, int?, sign, float, whole]

end numbers

section words

variable {cs rest : List Char}

theorem keyword?_eq_none {w : List Char} (stop : Stops isWordStart cs) : keyword? w cs = none := by
  cases cs with
  | nil => rfl
  | cons c cs => simp [keyword?, word?, stops_cons.1 stop]

theorem isWord_boolText (b : Bool) : IsWord (boolText b) := by
  cases b
  · exact .mk (c := 'F') (w := ['a', 'l', 's', 'e']) (by decide) (List.all_eq_true.1 (by decide))
  · exact .mk (c := 'T') (w := ['r', 'u', 'e']) (by decide) (List.all_eq_true.1 (by decide))

theorem boolean?_complete (b : Bool) (stop : Stops isWordChar rest) :
    boolean? (boolText b ++ rest) = some (.bool b, rest) := by
  have read := keyword?_complete (isWord_boolText b) stop
  cases b with
  | true =>
    rw [boolean?, show "True".toList = boolText true from rfl, read]
  | false =>
    have other : keyword? "True".toList (boolText false ++ rest) = none := by
      rw [keyword?, word?_complete (isWord_boolText false) stop]
      rfl
    rw [boolean?, other, show "False".toList = boolText false from rfl, read]

theorem boolean?_sound {l : Lexeme} (read : boolean? cs = some (l, rest)) :
    ∃ t, cs = t ++ rest ∧ LexemeText l t := by
  unfold boolean? at read
  split at read
  · next isTrue =>
    obtain ⟨rfl, rfl⟩ := Prod.mk.inj (Option.some.inj read)
    exact ⟨_, (keyword?_sound isTrue).1, .bool true⟩
  · split at read
    · next isFalse =>
      obtain ⟨rfl, rfl⟩ := Prod.mk.inj (Option.some.inj read)
      exact ⟨_, (keyword?_sound isFalse).1, .bool false⟩
    · simp at read

end words

section strings

variable {cs rest s t : List Char} {quote : Char}

theorem unescape?_eq_some_iff {letter c : Char} :
    unescape? letter = some c ↔ Escape letter c := by
  constructor
  · intro decoded
    unfold unescape? at decoded
    split_ifs at decoded with isN isT isR same
    · obtain rfl := Option.some.inj decoded
      exact isN ▸ .newline
    · obtain rfl := Option.some.inj decoded
      exact isT ▸ .tab
    · obtain rfl := Option.some.inj decoded
      exact isR ▸ .return
    · obtain rfl := Option.some.inj decoded
      rcases same with rfl | rfl | rfl
      · exact .backslash
      · exact .single
      · exact .double
  · rintro (_ | _ | _ | _ | _ | _) <;> decide

theorem body?_complete (isQuote : quote ≠ '\\') (body : BodyText quote s t) :
    body? quote (t ++ quote :: rest) = some (s, rest) := by
  induction body with
  | nil => simp [body?, isQuote]
  | plain notQuote notSlash notLine notReturn _ ih =>
    simp [body?, notQuote, notSlash, notLine, notReturn, ih]
  | escape escape _ ih => simp [body?, unescape?_eq_some_iff.2 escape, ih]

theorem body?_sound (isQuote : quote ≠ '\\') (read : body? quote cs = some (s, rest)) :
    ∃ t, cs = t ++ quote :: rest ∧ BodyText quote s t := by
  induction cs using body?.induct quote generalizing s with
  | case1 => simp [body?] at read
  | case2 letter cs c decoded ih =>
    simp only [body?, decoded, Option.map_eq_some_iff, Prod.mk.injEq] at read
    obtain ⟨⟨s, rest⟩, inner, rfl, rfl⟩ := read
    obtain ⟨t, rfl, body⟩ := ih inner
    exact ⟨_, rfl, .escape (unescape?_eq_some_iff.1 decoded) body⟩
  | case3 letter cs undecoded => simp [body?, undecoded] at read
  | case4 cs =>
    simp only [body?, isQuote, if_true, Option.some.injEq, Prod.mk.injEq] at read
    obtain ⟨rfl, rfl⟩ := read
    exact ⟨[], rfl, .nil⟩
  | case5 c cs notEscape notQuote bad => simp [body?, notQuote, bad] at read
  | case6 c cs notEscape notQuote plain ih =>
    simp only [not_or] at plain
    obtain ⟨notSlash, notLine, notReturn⟩ := plain
    simp only [body?, notQuote, notSlash, notLine, notReturn, or_self, if_false,
      Option.map_eq_some_iff, Prod.mk.injEq] at read
    obtain ⟨⟨s, rest⟩, inner, rfl, rfl⟩ := read
    obtain ⟨t, rfl, body⟩ := ih inner
    exact ⟨_, rfl, .plain notQuote notSlash notLine notReturn body⟩

theorem str?_complete (text : StringText s t) : str? (t ++ rest) = some (.str s, rest) := by
  cases text with
  | @mk quote s body isQuote isBody =>
    have notSlash : quote ≠ '\\' := by rcases isQuote with rfl | rfl <;> decide
    simp [str?, isQuote, body?_complete notSlash isBody]

theorem str?_sound {l : Lexeme} (read : str? cs = some (l, rest)) :
    ∃ t, cs = t ++ rest ∧ LexemeText l t := by
  unfold str? at read
  split at read
  · next quote tail =>
    split at read
    · next isQuote =>
      simp only [Option.map_eq_some_iff, Prod.mk.injEq] at read
      obtain ⟨⟨s, rest⟩, inner, rfl, rfl⟩ := read
      have notSlash : quote ≠ '\\' := by rcases isQuote with rfl | rfl <;> decide
      obtain ⟨t, rfl, body⟩ := body?_sound notSlash inner
      exact ⟨quote :: t ++ [quote], by simp, .str (.mk isQuote body)⟩
    · simp at read
  · simp at read

end strings

section literals

variable {cs rest t : List Char} {l : Lexeme}

def literalStart (c : Char) : Bool :=
  isDigit c || c = '-' || c = 'T' || c = 'F' || c = '\'' || c = '"'

theorem DigitRun.exists_start {ds : List Char} (run : DigitRun ds) (negative : Bool)
    (tail : List Char) :
    ∃ c cs, signText negative ++ ds ++ tail = c :: cs ∧ literalStart c := by
  obtain ⟨nonempty, inside⟩ := run
  cases negative with
  | true => exact ⟨'-', ds ++ tail, rfl, rfl⟩
  | false =>
    obtain ⟨d, ds, rfl⟩ := List.exists_cons_of_ne_nil nonempty
    have digit := inside d (by simp)
    exact ⟨d, ds ++ tail, rfl, by simp [literalStart, digit]⟩

theorem LexemeText.exists_start (text : LexemeText l t) : ∃ c cs, t = c :: cs ∧ literalStart c := by
  rcases text with ⟨⟨negative, run, -⟩⟩ | ⟨⟨negative, whole⟩⟩ | ⟨b⟩ | ⟨⟨isQuote, -⟩⟩
  · exact run.exists_start negative _
  · simpa using whole.run.exists_start negative []
  · cases b
    · exact ⟨_, _, rfl, rfl⟩
    · exact ⟨_, _, rfl, rfl⟩
  · refine ⟨_, _, rfl, ?_⟩
    rcases isQuote with rfl | rfl <;> rfl

theorem LexemeText.stops {p : Char → Bool} (text : LexemeText l t)
    (apart : ∀ c, literalStart c → p c = false) (tail : List Char) : Stops p (t ++ tail) := by
  obtain ⟨c, cs, rfl, start⟩ := text.exists_start
  simpa using apart c start

def EndsLiteral (rest : List Char) : Prop := Stops isWordChar rest ∧ Stops (· = '.') rest

theorem literal?_complete (text : LexemeText l t) (ends : EndsLiteral rest) :
    literal? (t ++ rest) = some (l, rest) := by
  obtain ⟨stop, noPoint⟩ := ends
  cases text with
  | float text => simp [literal?, float?_complete text stop]
  | int text => simp [literal?, float?_int text stop noPoint, int?_complete text stop noPoint]
  | bool b =>
    have noMinus : Stops (· = '-') (boolText b ++ rest) := by cases b <;> simp [boolText]
    have noDigit : Stops isDigit (boolText b ++ rest) := by cases b <;> simp [boolText, isDigit]
    obtain ⟨noFloat, noInt⟩ := number_eq_none noMinus noDigit
    simp [literal?, noFloat, noInt, boolean?_complete b stop]
  | @str s t text =>
    have read : str? (t ++ rest) = some (.str s, rest) := str?_complete text
    cases text with
    | @mk quote s body isQuote isBody =>
      have plain : quote ≠ '-' ∧ isDigit quote = false ∧ isWordStart quote = false := by
        rcases isQuote with rfl | rfl <;> decide
      obtain ⟨noMinus, noDigit, noWord⟩ := plain
      rw [List.append_assoc, List.cons_append] at read ⊢
      generalize body ++ ([quote] ++ rest) = tail at read ⊢
      have noNumber : float? (quote :: tail) = none ∧ int? (quote :: tail) = none :=
        number_eq_none (stops_cons.2 (decide_eq_false noMinus)) (stops_cons.2 noDigit)
      simp [literal?, noNumber, boolean?, keyword?_eq_none (stops_cons.2 noWord), read]

theorem literal?_sound (read : literal? cs = some (l, rest)) :
    ∃ t, cs = t ++ rest ∧ LexemeText l t := by
  simp only [literal?, Option.orElse_eq_orElse, Option.orElse_eq_or, Option.or_eq_some_iff] at read
  rcases read with isFloat | ⟨-, isInt | ⟨-, isBoolean | ⟨-, isString⟩⟩⟩
  · exact float?_sound isFloat
  · exact int?_sound isInt
  · exact boolean?_sound isBoolean
  · exact str?_sound isString

theorem literal?_eq_none (stop : Stops literalStart cs) : literal? cs = none := by
  rw [Option.eq_none_iff_forall_ne_some]
  rintro ⟨l, rest⟩ read
  obtain ⟨t, rfl, text⟩ := literal?_sound read
  obtain ⟨c, cs, rfl, start⟩ := text.exists_start
  simp [stops_cons.1 stop] at start

end literals

end ViewQuery.Grammar
