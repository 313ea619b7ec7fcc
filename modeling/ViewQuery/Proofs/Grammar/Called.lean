import ViewQuery.Grammar.Mention
import ViewQuery.Proofs.Grammar.Literals

set_option autoImplicit false

namespace ViewQuery

namespace Grammar

open Decimal (digits)

inductive Place where
  | outside (afterWord : Bool)
  | inside (quote : Char)
  | afterBackslash (quote : Char)

-- The whole runs of word characters outside strings, each with the text that follows it.
def runs : Place → List Char → List (List Char × List Char)
  | _, [] => []
  | .inside quote, c :: cs =>
    if c = quote then runs (.outside false) cs
    else if c = '\\' then runs (.afterBackslash quote) cs
    else runs (.inside quote) cs
  | .afterBackslash quote, _ :: cs => runs (.inside quote) cs
  | .outside afterWord, c :: cs =>
    if c = '\'' ∨ c = '"' then runs (.inside c) cs
    else
      let later := runs (.outside (isWordChar c)) cs
      if isWordChar c && !afterWord then
        ((c :: cs).takeWhile isWordChar, (c :: cs).dropWhile isWordChar) :: later
      else later

def opensCall (cs : List Char) : Bool := (skipSpace cs).head? = some '('

-- The run is a name that is no keyword, and a bracket follows it.
def isCalled (run : List Char × List Char) : Bool :=
  run.1.head?.any isWordStart && !isKeyword run.1 && opensCall run.2

def calledFrom (place : Place) (cs : List Char) : List (List Char) :=
  ((runs place cs).filter isCalled).map Prod.fst

def called (cs : List Char) : List (List Char) := calledFrom (.outside false) cs

def isOperatorName (w : List Char) : Bool := w = "in".toList || w = "is".toList

section characters

variable {cs rest w t : List Char} {c : Char} {afterWord : Bool}

theorem calledFrom_outside (stop : Stops isWordChar cs) (afterWord : Bool) :
    calledFrom (.outside afterWord) cs = called cs := by
  cases cs with
  | nil => rfl
  | cons c cs => simp [called, calledFrom, runs, stops_cons.1 stop]

def IsPlain (c : Char) : Prop := isWordChar c = false ∧ c ≠ '\'' ∧ c ≠ '"'

theorem calledFrom_plain (plain : IsPlain c) (cs : List Char) :
    calledFrom (.outside afterWord) (c :: cs) = called cs := by
  obtain ⟨noWord, noSingle, noDouble⟩ := plain
  simp [called, calledFrom, runs, noWord, noSingle, noDouble]

theorem called_skipSpace (cs : List Char) : called cs = called (skipSpace cs) := by
  induction cs with
  | nil => rfl
  | cons c cs ih =>
    by_cases space : isSpace c
    · have plain : IsPlain c := by
        simp only [isSpace, Bool.or_eq_true, decide_eq_true_eq] at space
        rcases space with (rfl | rfl) | rfl <;> exact ⟨rfl, by decide, by decide⟩
      rw [skipSpace, List.dropWhile_cons_of_pos space, ← skipSpace, ← ih]
      exact calledFrom_plain plain cs
    · rw [skipSpace, List.dropWhile_cons_of_neg space]

theorem not_quote {p : Char → Bool} (holds : p c) (single : p '\'' = false)
    (double : p '"' = false) : c ≠ '\'' ∧ c ≠ '"' :=
  ⟨ne_of_apart holds single, ne_of_apart holds double⟩

theorem calledFrom_afterWord (inside : ∀ c ∈ w, isWordChar c) (stop : Stops isWordChar rest) :
    calledFrom (.outside true) (w ++ rest) = called rest := by
  induction w with
  | nil => exact calledFrom_outside stop true
  | cons c w ih =>
    obtain ⟨word, others⟩ := List.forall_mem_cons.1 inside
    have plain := not_quote word rfl rfl
    rw [← ih others]
    simp [calledFrom, runs, word, plain]

theorem called_word (word : IsWord w) (stop : Stops isWordChar rest) :
    called (w ++ rest) = (if !isKeyword w && opensCall rest then [w] else []) ++ called rest := by
  obtain ⟨start, inside⟩ := word
  rename_i c w
  have isChar := isWordChar_of_isWordStart start
  have plain := not_quote isChar rfl rfl
  have later := calledFrom_afterWord inside stop
  have whole : ∀ d ∈ c :: w, isWordChar d := List.forall_mem_cons.2 ⟨isChar, inside⟩
  have run := takeWhile_append whole stop
  have after := dropWhile_append whole stop
  rw [List.cons_append] at run after ⊢
  rw [← later]
  simp only [called, calledFrom, runs, plain, isChar, run, after, or_self, if_false, Bool.not_false,
    Bool.and_self, if_true, List.filter_cons, isCalled, List.head?_cons, Option.any_some, start,
    Bool.true_and]
  split <;> simp

-- No run inside a number has a bracket behind it, and the last one has what follows the number.
theorem opensCall_dropWhile (inside : ∀ c ∈ t, isNumeric c) (stop : Stops isWordChar rest)
    (closed : opensCall rest = false) :
    opensCall ((t ++ rest).dropWhile isWordChar) = false := by
  induction t with
  | nil => rwa [List.nil_append, dropWhile_eq_self stop]
  | cons c t ih =>
    obtain ⟨numeric, others⟩ := List.forall_mem_cons.1 inside
    by_cases word : isWordChar c
    · rw [List.cons_append, List.dropWhile_cons_of_pos word]
      exact ih others
    · have mark : (c = '.' ∨ c = '+') ∨ c = '-' := by simpa [isNumeric, word] using numeric
      rw [List.cons_append, List.dropWhile_cons_of_neg word]
      rcases mark with (rfl | rfl) | rfl <;> rfl

theorem calledFrom_numeric (inside : ∀ c ∈ t, isNumeric c) (stop : Stops isWordChar rest)
    (closed : opensCall rest = false) (afterWord : Bool) :
    calledFrom (.outside afterWord) (t ++ rest) = called rest := by
  induction t generalizing afterWord with
  | nil => exact calledFrom_outside stop afterWord
  | cons c t ih =>
    obtain ⟨numeric, others⟩ := List.forall_mem_cons.1 inside
    have plain := not_quote numeric rfl rfl
    have uncalled : isCalled ((c :: (t ++ rest)).takeWhile isWordChar,
        (c :: (t ++ rest)).dropWhile isWordChar) = false := by
      have after := opensCall_dropWhile inside stop closed
      rw [List.cons_append] at after
      simp [isCalled, after]
    rw [← ih others (isWordChar c)]
    simp only [List.cons_append, calledFrom, runs, plain, or_self, if_false]
    split
    · rw [List.filter_cons_of_neg (by simp [uncalled])]
    · rfl

theorem calledFrom_body {s : List Char} {quote : Char} (isQuote : quote = '\'' ∨ quote = '"')
    (read : body? quote cs = some (s, rest)) : calledFrom (.inside quote) cs = called rest := by
  have noSlash : '\\' ≠ quote := by rcases isQuote with rfl | rfl <;> decide
  fun_induction body? quote cs generalizing s with
  | case1 => cases read
  | case2 c cs d isEscape ih =>
    obtain ⟨r, inner, same⟩ := Option.map_eq_some_iff.1 read
    obtain ⟨-, rfl⟩ := Prod.mk.inj same
    rw [← ih inner]
    simp [calledFrom, runs, noSlash]
  | case3 => cases read
  | case4 cs =>
    obtain ⟨-, rfl⟩ := Prod.mk.inj (Option.some.inj read)
    simp [called, calledFrom, runs]
  | case5 => cases read
  | case6 c cs _ notQuote notBreak ih =>
    obtain ⟨r, inner, same⟩ := Option.map_eq_some_iff.1 read
    obtain ⟨-, rfl⟩ := Prod.mk.inj same
    rw [← ih inner]
    simp only [not_or] at notBreak
    simp [calledFrom, runs, notQuote, notBreak]

theorem called_string {l : Lexeme} (read : str? cs = some (l, rest)) :
    called cs = called rest := by
  cases cs with
  | nil => simp [str?] at read
  | cons c cs =>
    rw [str?, Option.ite_none_right_eq_some] at read
    obtain ⟨isQuote, read⟩ := read
    obtain ⟨r, inner, same⟩ := Option.map_eq_some_iff.1 read
    obtain ⟨-, rfl⟩ := Prod.mk.inj same
    rw [← calledFrom_body isQuote inner]
    simp [called, calledFrom, runs, isQuote]

end characters

section numbers

variable {cs mid rest t : List Char} {l : Lexeme}

-- What is cut off the front of a text could belong to a number.
def Cuts (cs rest : List Char) : Prop := ∃ t, cs = t ++ rest ∧ ∀ c ∈ t, isNumeric c

theorem Cuts.trans (first : Cuts cs mid) (second : Cuts mid rest) : Cuts cs rest := by
  obtain ⟨t, rfl, inside⟩ := first
  obtain ⟨t', rfl, inside'⟩ := second
  exact ⟨t ++ t', by rw [List.append_assoc], List.forall_mem_append.2 ⟨inside, inside'⟩⟩

theorem cuts_minus (cs : List Char) : Cuts cs (minus cs).2 := by
  obtain ⟨negative, -, text⟩ := minus_sound cs
  refine ⟨signText negative, text, ?_⟩
  cases negative <;> simp [signText, isNumeric]

theorem cuts_digits (cs : List Char) : Cuts cs (digits cs).2 := by
  obtain ⟨text, inside, -⟩ := digits_sound cs
  exact ⟨_, text, fun d member => isNumeric_of_isDigit (inside d member)⟩

theorem cuts_wholeDigits (cs : List Char) : Cuts cs (wholeDigits cs).2 := by
  obtain ⟨text, whole⟩ := wholeDigits_sound cs
  exact ⟨_, text, fun d member => (whole (List.ne_nil_of_mem member)).run.isNumeric d member⟩

theorem cuts_exponent (read : exponent? cs = some (t, rest)) : Cuts cs rest := by
  obtain ⟨text, e, exponent⟩ := exponent?_sound read
  exact ⟨t, text, exponent.isNumeric⟩

theorem cuts_point (cs : List Char) : Cuts ('.' :: cs) (digits cs).2 :=
  Cuts.trans ⟨['.'], rfl, by simp [isNumeric]⟩ (cuts_digits cs)

theorem cuts_floatTail (read : floatTail? cs = some (t, rest)) : Cuts cs rest := by
  obtain ⟨text, fs, e, tail⟩ := floatTail?_sound read
  exact ⟨t, text, tail.isNumeric⟩

theorem cuts_float (read : float? cs = some (l, rest)) :
    Cuts cs rest ∧ startsWord rest = false := by
  simp only [float?] at read
  split at read
  · cases read
  · split at read
    · next tail rest' isTail =>
      split at read
      · cases read
      · next noWord =>
        obtain ⟨-, rfl⟩ := Prod.mk.inj (Option.some.inj read)
        have number := (cuts_minus cs).trans (cuts_digits _)
        exact ⟨number.trans (cuts_floatTail isTail), by simpa using noWord⟩
    · cases read

theorem cuts_int (read : int? cs = some (l, rest)) : Cuts cs rest ∧ startsWord rest = false := by
  simp only [int?] at read
  split at read
  · cases read
  · next going =>
    simp only [Bool.or_eq_true, not_or, Bool.not_eq_true] at going
    obtain ⟨-, rfl⟩ := Prod.mk.inj (Option.some.inj read)
    exact ⟨(cuts_minus cs).trans (cuts_wholeDigits _), going.1.2⟩

theorem cuts_pointNumber (read : pointNumber? cs = some rest) :
    Cuts cs rest ∧ startsWord rest = false := by
  have whole := cuts_digits cs
  simp only [pointNumber?] at read
  split at read
  · cases read
  · next mid isTail =>
    have number : Cuts cs mid := by
      split at isTail
      · next tail isDigits =>
        rw [isDigits] at whole
        have fraction := cuts_point tail
        split at isTail
        · cases isTail
        · next isFraction =>
          obtain rfl := Option.some.inj isTail
          rw [isFraction] at fraction
          exact whole.trans fraction
      · next isDigits =>
        rw [isDigits] at whole
        obtain rfl := Option.some.inj isTail
        exact whole.trans (cuts_point _)
      · cases isTail
    rw [Option.ite_none_left_eq_some] at read
    obtain ⟨noWord, same⟩ := read
    obtain rfl := Option.some.inj same
    refine ⟨number.trans ?_, by simpa using noWord⟩
    split
    · next isExponent => exact cuts_exponent isExponent
    · exact ⟨[], rfl, by simp⟩

theorem cuts_number (read : number? cs = some rest) : Cuts cs rest ∧ startsWord rest = false := by
  simp only [number?, Option.orElse_eq_orElse, Option.orElse_eq_or, Option.or_eq_some_iff,
    Option.map_eq_some_iff] at read
  rcases read with point | ⟨-, ⟨r, float, rfl⟩ | ⟨-, r, int, rfl⟩⟩
  · exact cuts_pointNumber point
  · exact cuts_float float
  · exact cuts_int int

theorem called_number (read : number? cs = some rest) (closed : opensCall rest = false) :
    called cs = called rest := by
  obtain ⟨⟨t, rfl, inside⟩, noWord⟩ := cuts_number read
  exact calledFrom_numeric inside (startsWord_eq_false_iff.1 noWord) closed false

end numbers

section tokens

variable {cs rest : List Char} {t : Token}

theorem isWordChar_eq_false {c : Char} (noWord : isWordStart c = false)
    (noDigit : c.isDigit = false) : isWordChar c = false := by
  rw [isWordStart, Bool.or_eq_false_iff] at noWord
  simp [isWordChar, Char.isAlphanum, noWord, noDigit]

theorem isDigit_of_startsNumber {c : Char} (noNumber : startsNumber (c :: cs) = false) :
    c.isDigit = false := by
  unfold startsNumber at noNumber
  split at noNumber
  · next same =>
    obtain ⟨rfl, -⟩ := List.cons.inj same
    rfl
  · next same =>
    obtain ⟨rfl, -⟩ := List.cons.inj same
    exact noNumber
  · next empty => cases empty

theorem exists_pair (pair : startsPair cs) :
    ∃ a b tail, cs = a :: b :: tail ∧ (a, b) ∈ pairOperators := by
  unfold startsPair at pair
  split at pair
  · next a b tail => exact ⟨a, b, tail, rfl, of_decide_eq_true pair⟩
  · cases pair

inductive ReadFrom (cs rest : List Char) : Token → Prop
  | word {w : List Char} : word? cs = some (w, rest) → ReadFrom cs rest (.word w)
  | number : number? cs = some rest → cs.head? ≠ some '(' → ReadFrom cs rest .number
  | pair {a b : Char} : (a, b) ∈ pairOperators → cs = a :: b :: rest → ReadFrom cs rest .operator
  | str {l : Lexeme} : str? cs = some (l, rest) → ReadFrom cs rest .str
  | mark {c : Char} {t : Token} : isWordChar c = false → mark? c = some t → cs = c :: rest →
      ReadFrom cs rest t

theorem readFrom_of_token (read : token? cs = some (t, rest)) : ReadFrom cs rest t := by
  unfold token? at read
  split at read
  · next w rest' isWord =>
    obtain ⟨rfl, rfl⟩ := Prod.mk.inj (Option.some.inj read)
    exact .word isWord
  · next noWord =>
    split at read
    · next starts =>
      obtain ⟨rest', number, same⟩ := Option.map_eq_some_iff.1 read
      obtain ⟨rfl, rfl⟩ := Prod.mk.inj same
      refine .number number ?_
      rintro bracket
      obtain ⟨tail, rfl⟩ := List.head?_eq_some_iff.1 bracket
      cases starts
    · next noNumber =>
      split at read
      · next pair =>
        obtain ⟨a, b, tail, rfl, member⟩ := exists_pair pair
        obtain ⟨rfl, rfl⟩ := Prod.mk.inj (Option.some.inj read)
        exact .pair member rfl
      · split at read
        · next string =>
          obtain ⟨rfl, rfl⟩ := Prod.mk.inj (Option.some.inj read)
          exact .str string
        · cases cs with
          | nil => cases read
          | cons c cs =>
            obtain ⟨k, mark, same⟩ := Option.map_eq_some_iff.1 read
            obtain ⟨rfl, rfl⟩ := Prod.mk.inj same
            have noStart : isWordStart c = false := by simpa [word?] using noWord
            have noDigit := isDigit_of_startsNumber (by simpa using noNumber)
            exact .mark (isWordChar_eq_false noStart noDigit) mark rfl

def Token.called (rest : List Char) : Token → List (List Char)
  | .word w => if !isKeyword w && opensCall rest then [w] else []
  | _ => []

theorem Token.called_of_mark {c : Char} (mark : mark? c = some t) : t.called rest = [] := by
  unfold mark? at mark
  split at mark
  all_goals first
    | obtain rfl := Option.some.inj mark
      rfl
    | split at mark
      · obtain rfl := Option.some.inj mark
        rfl
      · cases mark

theorem plain_of_pair {a b : Char} (pair : (a, b) ∈ pairOperators) : IsPlain a ∧ IsPlain b := by
  have plain : ∀ p ∈ pairOperators, (!isWordChar p.1 && !isWordChar p.2 &&
    p.1 ≠ '\'' && p.1 ≠ '"' && p.2 ≠ '\'' && p.2 ≠ '"') = true := by decide
  have := plain _ pair
  simp only [Bool.and_eq_true, Bool.not_eq_true', decide_eq_true_eq] at this
  tauto

theorem called_token (read : ReadFrom cs rest t) (closed : t = .number → opensCall rest = false) :
    called cs = t.called rest ++ called rest := by
  cases read with
  | word isWord =>
    obtain ⟨rfl, word, stop⟩ := word?_sound isWord
    exact called_word word stop
  | number isNumber _ => exact called_number isNumber (closed rfl)
  | pair isPair same =>
    subst same
    obtain ⟨plain, plain'⟩ := plain_of_pair isPair
    exact (calledFrom_plain plain _).trans (calledFrom_plain plain' _)
  | str isString => exact called_string isString
  | @mark c _ noWord isMark same =>
    subst same
    have plain : IsPlain c := ⟨noWord, by constructor <;> rintro rfl <;> cases isMark⟩
    rw [Token.called_of_mark isMark, List.nil_append]
    exact calledFrom_plain plain rest

theorem eq_of_mark_opening {c : Char} (mark : mark? c = some (.opening .round)) : c = '(' := by
  unfold mark? at mark
  split at mark
  all_goals first
    | rfl
    | cases mark
    | split at mark <;> cases mark

theorem head_opening (read : ReadFrom cs rest t) : cs.head? = some '(' ↔ t = .opening .round := by
  cases read with
  | word isWord =>
    obtain ⟨rfl, word, -⟩ := word?_sound isWord
    cases word with
    | mk start _ =>
      have noBracket := ne_of_apart (d := '(') start rfl
      simp [noBracket]
  | number _ noBracket => simp [noBracket]
  | @pair a b isPair same =>
    have noBracket : ∀ p ∈ pairOperators, p.1 ≠ '(' := by decide
    simp [same, noBracket _ isPair]
  | str isString =>
    have noBracket : ∀ tail, cs ≠ '(' :: tail := by rintro tail rfl; cases isString
    simp [List.head?_eq_some_iff, noBracket]
  | @mark c _ _ isMark same =>
    subst same
    constructor
    · intro bracket
      obtain rfl : c = '(' := Option.some.inj bracket
      exact (Option.some.inj isMark).symm
    · rintro rfl
      rw [eq_of_mark_opening isMark, List.head?_cons]

end tokens

end Grammar

/-- The names that a text calls, in the order of the text. -/
def calledNames (source : String) : List String :=
  (Grammar.called source.toList).map String.ofList

end ViewQuery
