import ViewQuery.Proofs.Grammar.Called

set_option autoImplicit false

namespace ViewQuery

namespace Grammar

open Decimal (digits isDigit exponentMark)

def withReturns (cs : List Char) : List Char :=
  cs.flatMap fun c => if c = '\n' then ['\r', '\n'] else [c]

def returnsInside : List Char → List Char
  | [] => []
  | c :: cs => c :: withReturns cs

def restWithReturns {α : Type} (read : α × List Char) : α × List Char :=
  (read.1, withReturns read.2)

section

variable {c : Char} {cs rest : List Char} {p : Char → Bool}

@[simp] theorem withReturns_nil : withReturns [] = [] := rfl

@[simp] theorem withReturns_feed : withReturns ('\n' :: cs) = '\r' :: '\n' :: withReturns cs := rfl

theorem withReturns_cons (other : c ≠ '\n') : withReturns (c :: cs) = c :: withReturns cs := by
  rw [withReturns, List.flatMap_cons, if_neg other]
  rfl

@[simp] theorem returnsInside_cons : returnsInside (c :: cs) = c :: withReturns cs := rfl

@[simp] theorem restWithReturns_mk {α : Type} (a : α) (rest : List Char) :
    restWithReturns (a, rest) = (a, withReturns rest) := rfl

def WithinLines (p : Char → Bool) : Prop := p '\n' = false ∧ p '\r' = false

theorem takeWhile_withReturns (within : WithinLines p) (cs : List Char) :
    (withReturns cs).takeWhile p = cs.takeWhile p := by
  induction cs with
  | nil => rfl
  | cons c cs ih =>
    by_cases feed : c = '\n'
    · simp [feed, within.1, within.2]
    · by_cases inside : p c <;> simp [withReturns_cons feed, inside, ih]

theorem dropWhile_withReturns (within : WithinLines p) (cs : List Char) :
    (withReturns cs).dropWhile p = withReturns (cs.dropWhile p) := by
  induction cs with
  | nil => rfl
  | cons c cs ih =>
    by_cases feed : c = '\n'
    · simp [feed, within.1, within.2]
    · by_cases inside : p c <;> simp [withReturns_cons feed, inside, ih]

theorem skipLayout_withReturns (cs : List Char) :
    skipLayout (withReturns cs) = withReturns (skipLayout cs) := by
  induction cs with
  | nil => rfl
  | cons c cs ih =>
    by_cases feed : c = '\n'
    · subst feed
      exact ih
    · by_cases layout : isLayout c
      · simpa [skipLayout, withReturns_cons feed, layout] using ih
      · simp [skipLayout, withReturns_cons feed, layout]

theorem skipSpace_withReturns (cs : List Char) :
    skipSpace (withReturns cs) = returnsInside (skipSpace cs) := by
  induction cs with
  | nil => rfl
  | cons c cs ih =>
    by_cases feed : c = '\n'
    · subst feed
      rfl
    · by_cases space : isSpace c
      · simpa [skipSpace, withReturns_cons feed, space] using ih
      · simp [skipSpace, withReturns_cons feed, space, returnsInside]

theorem returnsInside_eq (stop : Stops (· = '\n') cs) : returnsInside cs = withReturns cs := by
  cases cs with
  | nil => rfl
  | cons c cs => rw [returnsInside, withReturns_cons (by simpa using stop)]

@[elab_as_elim]
theorem feedCases {motive : List Char → Prop} (nil : motive [])
    (feed : ∀ cs, motive ('\n' :: cs)) (other : ∀ c cs, c ≠ '\n' → motive (c :: cs))
    (cs : List Char) : motive cs := by
  cases cs with
  | nil => exact nil
  | cons c cs =>
    by_cases isFeed : c = '\n'
    · exact isFeed ▸ feed cs
    · exact other c cs isFeed

end

section words

variable {cs : List Char}

theorem withinLines_isWordChar : WithinLines isWordChar := ⟨rfl, rfl⟩

theorem word?_withReturns (cs : List Char) :
    word? (withReturns cs) = (word? cs).map restWithReturns := by
  cases cs using feedCases with
  | nil => rfl
  | feed cs => rfl
  | other c cs other =>
    rw [withReturns_cons other, word?, word?, takeWhile_withReturns withinLines_isWordChar,
      dropWhile_withReturns withinLines_isWordChar]
    split <;> rfl

theorem name?_withReturns (cs : List Char) :
    name? (withReturns cs) = (name? cs).map restWithReturns := by
  rw [name?, name?, word?_withReturns]
  cases word? cs with
  | none => rfl
  | some read =>
    simp only [Option.map_some, restWithReturns]
    split <;> rfl

theorem keyword?_withReturns (keyword cs : List Char) :
    keyword? keyword (withReturns cs) = (keyword? keyword cs).map withReturns := by
  rw [keyword?, keyword?, word?_withReturns]
  cases word? cs with
  | none => rfl
  | some read =>
    simp only [Option.map_some, restWithReturns]
    split <;> rfl

theorem startsWord_withReturns (cs : List Char) : startsWord (withReturns cs) = startsWord cs := by
  cases cs using feedCases with
  | nil => rfl
  | feed cs => rfl
  | other c cs other => rw [withReturns_cons other]; rfl

end words

section numbers

theorem startsPoint_withReturns (cs : List Char) :
    startsPoint (withReturns cs) = startsPoint cs := by
  cases cs using feedCases with
  | nil => rfl
  | feed cs => rfl
  | other c cs other =>
    by_cases point : c = '.'
    · subst point
      rfl
    · simp [withReturns_cons other, startsPoint, point]

theorem digits_withReturns (cs : List Char) :
    digits (withReturns cs) = restWithReturns (digits cs) := by
  have within : WithinLines isDigit := ⟨rfl, rfl⟩
  rw [digits, takeWhile_withReturns within, dropWhile_withReturns within]
  rfl

theorem minus_withReturns (cs : List Char) :
    minus (withReturns cs) = restWithReturns (minus cs) := by
  cases cs using feedCases with
  | nil => rfl
  | feed cs => rfl
  | other c cs other =>
    by_cases isMinus : c = '-'
    · subst isMinus
      rfl
    · simp [withReturns_cons other, minus, isMinus]

theorem exponentSign_withReturns (cs : List Char) :
    exponentSign (withReturns cs) = restWithReturns (exponentSign cs) := by
  cases cs using feedCases with
  | nil => rfl
  | feed cs => rfl
  | other c cs other =>
    by_cases plus : c = '+'
    · subst plus
      rfl
    · by_cases isMinus : c = '-'
      · subst isMinus
        rfl
      · simp [withReturns_cons other, exponentSign, plus, isMinus]

theorem fraction?_withReturns (cs : List Char) :
    fraction? (withReturns cs) = (fraction? cs).map restWithReturns := by
  cases cs using feedCases with
  | nil => rfl
  | feed cs => rfl
  | other c cs other =>
    by_cases point : c = '.'
    · subst point
      simp only [withReturns_cons other, fraction?, digits_withReturns, restWithReturns]
      split <;> rfl
    · simp [withReturns_cons other, fraction?, point]

theorem exponent?_withReturns (cs : List Char) :
    exponent? (withReturns cs) = (exponent? cs).map restWithReturns := by
  cases cs using feedCases with
  | nil => rfl
  | feed cs => rfl
  | other c cs other =>
    simp only [withReturns_cons other, exponent?, exponentSign_withReturns, digits_withReturns,
      restWithReturns]
    split <;> rfl

theorem floatTail?_withReturns (cs : List Char) :
    floatTail? (withReturns cs) = (floatTail? cs).map restWithReturns := by
  simp only [floatTail?, fraction?_withReturns, exponent?_withReturns]
  cases fraction? cs with
  | none => rfl
  | some read =>
    simp only [Option.map_some, restWithReturns, exponent?_withReturns]
    cases exponent? read.2 <;> rfl

theorem float?_withReturns (cs : List Char) :
    float? (withReturns cs) = (float? cs).map restWithReturns := by
  simp only [float?, minus_withReturns, digits_withReturns, restWithReturns, floatTail?_withReturns]
  split
  · rfl
  · cases floatTail? (digits (minus cs).2).2 with
    | none => rfl
    | some read =>
      simp only [Option.map_some, restWithReturns, startsWord_withReturns]
      split <;> rfl

theorem wholeDigits_withReturns (cs : List Char) :
    wholeDigits (withReturns cs) = restWithReturns (wholeDigits cs) := by
  have zeros : WithinLines (· = '0') := ⟨rfl, rfl⟩
  cases cs using feedCases with
  | nil => rfl
  | feed cs => rfl
  | other c cs other =>
    by_cases zero : c = '0'
    · subst zero
      exact congrArg₂ Prod.mk (takeWhile_withReturns zeros ('0' :: cs))
        (dropWhile_withReturns zeros ('0' :: cs))
    · have read := digits_withReturns (c :: cs)
      rw [withReturns_cons other] at read ⊢
      simpa [wholeDigits, zero] using read

theorem int?_withReturns (cs : List Char) :
    int? (withReturns cs) = (int? cs).map restWithReturns := by
  simp only [int?, minus_withReturns, wholeDigits_withReturns, restWithReturns,
    startsWord_withReturns, startsPoint_withReturns]
  split <;> rfl

end numbers

section literals

theorem boolean?_withReturns (cs : List Char) :
    boolean? (withReturns cs) = (boolean? cs).map restWithReturns := by
  simp only [boolean?, keyword?_withReturns]
  cases keyword? "True".toList cs with
  | some rest => rfl
  | none => cases keyword? "False".toList cs <;> rfl

variable {quote c : Char} {cs rest : List Char}

theorem body?_cons (notSlash : c ≠ '\\') :
    body? quote (c :: cs) =
      if c = quote then some ([], cs)
      else if c = '\n' ∨ c = '\r' then none
      else (body? quote cs).map fun r => (c :: r.1, r.2) := by
  simp [body?, notSlash]

theorem body?_withReturns (isQuote : quote = '\'' ∨ quote = '"') (cs : List Char) :
    body? quote (withReturns cs) = (body? quote cs).map restWithReturns := by
  have noFeed : '\n' ≠ quote := by rcases isQuote with rfl | rfl <;> decide
  have noReturn : '\r' ≠ quote := by rcases isQuote with rfl | rfl <;> decide
  fun_induction body? quote cs with
  | case1 => rfl
  | case2 letter cs d decoded ih =>
    have sameLine : letter ≠ '\n' := by
      rintro rfl
      simp [unescape?] at decoded
    rw [withReturns_cons (by decide), withReturns_cons sameLine]
    simp [body?, decoded, ih, Function.comp_def, restWithReturns]
  | case3 letter cs undecoded =>
    rw [withReturns_cons (by decide)]
    by_cases feed : letter = '\n'
    · subst feed
      rfl
    · rw [withReturns_cons feed]
      simp [body?, undecoded]
  | case4 cs notEscape =>
    have notSlash : quote ≠ '\\' := by rcases isQuote with rfl | rfl <;> decide
    rw [withReturns_cons noFeed.symm, body?_cons notSlash, if_pos rfl]
    rfl
  | case5 c cs notEscape notQuote bad =>
    rcases bad with rfl | rfl | rfl
    · cases cs with
      | nil => simp [withReturns_cons, body?, notQuote]
      | cons d cs => exact absurd rfl (notEscape d cs rfl)
    · rw [withReturns_feed, body?_cons (by decide), if_neg noReturn]
      rfl
    · rw [withReturns_cons (by decide), body?_cons (by decide), if_neg noReturn]
      rfl
  | case6 c cs notEscape notQuote plain ih =>
    simp only [not_or] at plain
    obtain ⟨notSlash, notFeed, notReturn⟩ := plain
    rw [withReturns_cons notFeed, body?_cons notSlash, if_neg notQuote, if_neg (by simp [*]), ih]
    simp [Function.comp_def, restWithReturns]

theorem str?_withReturns (cs : List Char) :
    str? (withReturns cs) = (str? cs).map restWithReturns := by
  cases cs using feedCases with
  | nil => rfl
  | feed cs => rfl
  | other c cs other =>
    rw [withReturns_cons other, str?, str?]
    split
    · next isQuote =>
      rw [body?_withReturns isQuote]
      simp [Function.comp_def, restWithReturns]
    · rfl

theorem literal?_withReturns (cs : List Char) :
    literal? (withReturns cs) = (literal? cs).map restWithReturns := by
  simp only [literal?, float?_withReturns, int?_withReturns, boolean?_withReturns,
    str?_withReturns, Option.orElse_eq_orElse, Option.orElse_eq_or, Option.map_or]

end literals

section fronts

variable {cs mid rest : List Char}

-- A reader that refuses a line feed does not see whether a return stands before it.
theorem read_returnsInside {α : Type} {read : List Char → Option (α × List Char)}
    (reads : ∀ cs, read (withReturns cs) = (read cs).map restWithReturns)
    (refuses : ∀ cs, read ('\n' :: cs) = none) (cs : List Char) :
    read (returnsInside cs) = (read cs).map restWithReturns := by
  cases cs using feedCases with
  | nil => exact reads []
  | feed cs => rw [returnsInside, refuses, refuses, Option.map_none]
  | other c cs other => rw [returnsInside, ← withReturns_cons other, reads]

theorem literal?_returnsInside (cs : List Char) :
    literal? (returnsInside cs) = (literal? cs).map restWithReturns :=
  read_returnsInside literal?_withReturns (fun _ => rfl) cs

theorem withReturns_append (t rest : List Char) :
    withReturns (t ++ rest) = withReturns t ++ withReturns rest :=
  List.flatMap_append

theorem length_le_withReturns (cs : List Char) : cs.length ≤ (withReturns cs).length := by
  induction cs with
  | nil => simp
  | cons c cs ih =>
    by_cases feed : c = '\n'
    · simp only [feed, withReturns_feed, List.length_cons]
      omega
    · simpa [withReturns_cons feed] using ih

def Left (cs rest : List Char) : Prop := ∃ t, t ≠ [] ∧ cs = t ++ rest

theorem Left.suffix (left : Left cs rest) : rest <:+ cs := by
  obtain ⟨t, -, rfl⟩ := left
  exact List.suffix_append t rest

theorem Left.length_lt (left : Left cs rest) : rest.length < cs.length := by
  obtain ⟨t, nonempty, rfl⟩ := left
  rw [List.length_append]
  exact Nat.lt_add_of_pos_left (List.length_pos_of_ne_nil nonempty)

theorem Left.enough {n : Nat} (left : Left cs rest) (enough : cs.length < n + 1) :
    rest.length < n :=
  left.length_lt.trans_le (Nat.le_of_lt_succ enough)

theorem Left.withReturns (left : Left cs rest) :
    Left (Grammar.withReturns cs) (Grammar.withReturns rest) := by
  obtain ⟨t, nonempty, rfl⟩ := left
  refine ⟨Grammar.withReturns t, ?_, withReturns_append t rest⟩
  rw [← List.length_pos_iff] at nonempty ⊢
  exact nonempty.trans_le (length_le_withReturns t)

theorem Left.trans_suffix (left : Left cs mid) (suffix : rest <:+ mid) : Left cs rest := by
  obtain ⟨t, nonempty, rfl⟩ := left
  obtain ⟨u, rfl⟩ := suffix
  exact ⟨t ++ u, by simp [nonempty], by simp⟩

theorem Left.of_suffix (suffix : mid <:+ cs) (left : Left mid rest) : Left cs rest := by
  obtain ⟨u, rfl⟩ := suffix
  obtain ⟨t, nonempty, rfl⟩ := left
  exact ⟨u ++ t, by simp [nonempty], by simp⟩

theorem left_cons (c : Char) (rest : List Char) : Left (c :: rest) rest := ⟨[c], by simp, rfl⟩

theorem left_of_suffix_cons {c : Char} (suffix : c :: rest <:+ cs) : Left cs rest :=
  (left_cons c rest).of_suffix suffix

theorem eq_or_left (suffix : rest <:+ cs) : rest = cs ∨ Left cs rest := by
  obtain ⟨t, rfl⟩ := suffix
  rcases eq_or_ne t [] with rfl | nonempty
  · exact .inl rfl
  · exact .inr ⟨t, nonempty, rfl⟩

theorem length_returnsInside_le (cs : List Char) :
    (returnsInside cs).length ≤ (withReturns cs).length := by
  cases cs using feedCases with
  | nil => exact Nat.le_refl _
  | feed cs => simp
  | other c cs other => rw [withReturns_cons other, returnsInside_cons]

theorem Left.length_returnsInside_lt (left : Left cs rest) :
    (returnsInside rest).length < (Grammar.withReturns cs).length :=
  (length_returnsInside_le rest).trans_lt left.withReturns.length_lt

end fronts

end Grammar

end ViewQuery
