import ViewQuery.Grammar.Mention
import ViewQuery.Proofs.Grammar.Exactness

set_option autoImplicit false

namespace ViewQuery.Grammar

open Decimal

/-- The scan before a text and after it, up to a rest of the text. -/
inductive Scans : Option Scan → List Char → Option Scan → List Char → Prop
  | done {o : Option Scan} {cs : List Char} : Scans o cs o cs
  | token {o o' : Option Scan} {gap t mid rest : List Char} {k : Token} : SpaceRun gap → t ≠ [] →
      Stops isSpace t → token? (t ++ mid) = some (k, mid) →
      Scans (o.bind fun s => s.step k) mid o' rest → Scans o (gap ++ t ++ mid) o' rest

section runs

variable {o o' o'' : Option Scan} {cs gap t mid rest : List Char} {k : Token} {n : Nat}

theorem Scans.trans (first : Scans o cs o' mid) (second : Scans o' mid o'' rest) :
    Scans o cs o'' rest := by
  induction first with
  | done => exact second
  | token space nonempty stop read _ ih => exact .token space nonempty stop read (ih second)

theorem Scans.failed (scans : Scans o cs o' rest) : Scans none cs none rest := by
  induction scans with
  | done => exact .done
  | token space nonempty stop read _ ih => exact .token space nonempty stop read ih

theorem Scans.tokens (scans : Scans o cs o' rest) (space : SpaceRun rest) (enough : cs.length < n) :
    ∃ ts, tokensUpTo n cs = some ts ∧ (o.bind fun s => ts.foldlM Scan.step s) = o' := by
  -- No token is empty, so fuel beyond the length of the text reads it all.
  induction scans generalizing n with
  | @done o cs =>
    obtain ⟨n, rfl⟩ := Nat.exists_eq_add_one.2 (Nat.zero_lt_of_lt enough)
    have nothing : skipSpace (cs ++ []) = [] := skipSpace_append space
    rw [List.append_nil] at nothing
    exact ⟨[], by simp [tokensUpTo, nothing], by simp⟩
  | @token o o' gap t mid rest k gapSpace nonempty stop read _ ih =>
    obtain ⟨n, rfl⟩ := Nat.exists_eq_add_one.2 (Nat.zero_lt_of_lt enough)
    obtain ⟨c, t, rfl⟩ := List.exists_cons_of_ne_nil nonempty
    simp only [List.length_append, List.length_cons] at enough
    obtain ⟨ts, tokens, run⟩ := ih space (n := n) (by omega)
    have start : skipSpace (gap ++ (c :: t ++ mid)) = c :: t ++ mid := by
      rw [skipSpace_append gapSpace, skipSpace_eq_self]
      exact stops_cons.2 (stops_cons.1 stop)
    refine ⟨k :: ts, ?_, ?_⟩
    · rw [List.append_assoc, tokensUpTo, start]
      rw [List.cons_append] at read ⊢
      simp [read, tokens]
    · rw [← run]
      cases o <;> simp [List.foldlM_cons]

theorem Scans.mentions (scans : Scans (some .empty) cs o' rest) (space : SpaceRun rest) :
    mentions? cs = o'.bind fun s => if s.isComplete then some s.names.reverse else none := by
  obtain ⟨ts, tokens, run⟩ := scans.tokens space (Nat.lt_succ_self _)
  rw [Option.bind_some] at run
  simp only [mentions?, tokens?, tokens, run]
  cases o' <;> rfl

end runs

section tokens

variable {o : Option Scan} {cs gap w t rest : List Char} {c : Char} {k : Token}

theorem Scans.one (space : SpaceRun gap) (nonempty : t ≠ []) (stop : Stops isSpace t)
    (read : token? (t ++ rest) = some (k, rest)) :
    Scans o (gap ++ t ++ rest) (o.bind fun s => s.step k) rest :=
  .token space nonempty stop read .done

theorem not_isSpace_of_isWordStart (start : isWordStart c) : isSpace c = false := by
  have noLayout := not_isLayout_of_isWordStart start
  rw [isLayout, Bool.or_eq_false_iff] at noLayout
  exact noLayout.1

theorem scans_word (space : SpaceRun gap) (word : IsWord w) (stop : Stops isWordChar rest) :
    Scans o (gap ++ w ++ rest) (o.bind fun s => s.step (.word w)) rest := by
  have read : token? (w ++ rest) = some (.word w, rest) := by
    simp only [token?, word?_complete word stop]
  cases word with
  | mk start _ =>
    have noSpace := not_isSpace_of_isWordStart start
    exact .one space (List.cons_ne_nil _ _) (stops_cons.2 noSpace) read

def isMark (c : Char) : Bool :=
  !isWordStart c && !c.isDigit && !isSpace c && c ≠ '.' && c ≠ '\'' && c ≠ '"'
    && c ∉ pairOperators.map Prod.fst

theorem scans_mark (space : SpaceRun gap) (mark : isMark c) (isToken : mark? c = some k) :
    Scans o (gap ++ c :: rest) (o.bind fun s => s.step k) rest := by
  simp only [isMark, Bool.and_eq_true, Bool.not_eq_true', decide_eq_true_eq] at mark
  obtain ⟨⟨⟨⟨⟨⟨noWord, noDigit⟩, noSpace⟩, noPoint⟩, noSingle⟩, noDouble⟩, noPair⟩ := mark
  have read : token? (c :: rest) = some (k, rest) := by
    have noNumber : startsNumber (c :: rest) = false := by
      unfold startsNumber
      split <;> simp_all
    have pair : startsPair (c :: rest) = false := by
      unfold startsPair
      split
      · next a b tail same =>
        obtain ⟨rfl, -⟩ := List.cons.inj same
        exact decide_eq_false fun member => noPair (List.mem_map_of_mem (f := Prod.fst) member)
      · rfl
    simp [token?, word?, noWord, noNumber, pair, str?, noSingle, noDouble, isToken]
  have scans := Scans.one (o := o) space (List.cons_ne_nil c []) (stops_cons.2 noSpace) read
  rwa [List.append_assoc] at scans

end tokens

section numbers

variable {cs ds fs t rest : List Char} {e : Int}

theorem pointNumber?_eq_none (run : DigitRun ds) (read : digits cs = (ds, rest))
    (noPoint : Stops (· = '.') rest) : pointNumber? cs = none := by
  obtain ⟨d, ds, rfl⟩ := List.exists_cons_of_ne_nil run.1
  simp only [pointNumber?, read]
  cases rest with
  | nil => rfl
  | cons c rest =>
    have apart : c ≠ '.' := by simpa using noPoint
    simp [apart]

theorem pointNumber?_complete (run : DigitRun ds) (read : digits cs = (ds, '.' :: fs))
    (after : (exponent? (digits fs).2).elim (digits fs).2 Prod.snd = rest)
    (stop : Stops isWordChar rest) : pointNumber? cs = some rest := by
  obtain ⟨d, ds, rfl⟩ := List.exists_cons_of_ne_nil run.1
  simp only [pointNumber?, read]
  cases exponent : exponent? (digits fs).2 with
  | none =>
    rw [exponent, Option.elim_none] at after
    simp [after, startsWord_eq_false_iff.2 stop]
  | some found =>
    rw [exponent, Option.elim_some] at after
    simp [after, startsWord_eq_false_iff.2 stop]

theorem number?_whole (whole : WholeNumber ds) (ends : EndsLiteral rest) :
    number? (ds ++ rest) = some rest := by
  obtain ⟨stop, noPoint⟩ := ends
  have text := IntText.mk false whole
  have noFloat : float? (ds ++ rest) = none := float?_int text stop noPoint
  have int : int? (ds ++ rest) = some (.int ds, rest) := int?_complete text stop noPoint
  have read := digits_complete whole.run.2 (stop.mono fun _ => isWordChar_of_isDigit)
  simp [number?, pointNumber?_eq_none whole.run read noPoint, noFloat, int]

theorem number?_float (run : DigitRun ds) (tail : FloatTail fs e t) (stop : Stops isWordChar rest) :
    number? (ds ++ t ++ rest) = some rest := by
  have noDigit : Stops isDigit rest := stop.mono fun _ => isWordChar_of_isDigit
  have noMark : Stops exponentMark rest := stop.mono fun _ => isWordChar_of_exponentMark
  have float : float? (ds ++ t ++ rest) = some (.float (ds ++ t), rest) :=
    float?_complete (.mk false run tail) stop
  have read := digits_complete run.2 (tail.stops rest)
  rw [← List.append_assoc] at read
  generalize ds ++ t ++ rest = cs at *
  cases tail with
  | fraction fraction =>
    have readFraction := digits_complete fraction.2 noDigit
    rw [List.cons_append] at read
    have point : pointNumber? cs = some rest := by
      apply pointNumber?_complete run read _ stop
      rw [readFraction, exponent?_eq_none noMark, Option.elim_none]
    simp [number?, point]
  | both fraction exponent =>
    have after := exponent.stops (fun _ => not_isDigit_of_exponentMark) rest
    have readFraction := digits_complete fraction.2 after
    rw [List.append_assoc, List.cons_append] at read
    have point : pointNumber? cs = some rest := by
      apply pointNumber?_complete run read _ stop
      rw [readFraction, exponent?_complete exponent noDigit, Option.elim_some]
    simp [number?, point]
  | exponent exponent =>
    have noPoint := exponent.stops (fun _ => not_point_of_exponentMark) rest
    simp [number?, pointNumber?_eq_none run read noPoint, float]

end numbers

section operands

variable {o : Option Scan} {frames : List Frame} {names : List (List Char)}
variable {gap ds t rest : List Char} {l : Lexeme} {ls : List Lexeme}

theorem not_isWordStart_of_isDigit {d : Char} (digit : isDigit d) : isWordStart d = false := by
  simp only [isDigit, Bool.and_eq_true, decide_eq_true_eq] at digit
  have high : d.toNat ≤ 57 := digit.2
  rw [isWordStart, Bool.or_eq_false_iff]
  constructor
  · by_contra alpha
    simp only [Char.isAlpha, Char.isUpper, Char.isLower, Bool.not_eq_false, Bool.or_eq_true,
      Bool.and_eq_true, decide_eq_true_eq] at alpha
    rcases alpha with ⟨low, -⟩ | ⟨low, -⟩
    · have upper : 65 ≤ d.toNat := low
      omega
    · have lower : 97 ≤ d.toNat := low
      omega
  · apply decide_eq_false
    rintro rfl
    exact absurd high (by decide)

theorem not_isSpace_of_isDigit {d : Char} (digit : isDigit d) : isSpace d = false := by
  rw [isSpace, ne_of_isDigit (c := ' ') digit (by decide),
    ne_of_isDigit (c := '\t') digit (by decide), ne_of_isDigit (c := '\r') digit (by decide)]
  rfl

theorem scans_digits (run : DigitRun ds) (space : SpaceRun gap)
    (read : number? (ds ++ t ++ rest) = some rest) :
    Scans o (gap ++ (ds ++ t) ++ rest) (o.bind fun s => s.step .number) rest := by
  obtain ⟨d, ds, rfl⟩ := List.exists_cons_of_ne_nil run.1
  have digit := run.2 d (by simp)
  have isNumber : startsNumber (d :: ds ++ t ++ rest) := by
    have noPoint := of_decide_eq_false (ne_of_isDigit (c := '.') digit (by decide))
    have decimal : d.isDigit := digit
    simp [startsNumber, noPoint, decimal]
  have noWord : word? (d :: ds ++ t ++ rest) = none := by
    simp [word?, not_isWordStart_of_isDigit digit]
  refine .one space (List.cons_ne_nil _ _) (stops_cons.2 (not_isSpace_of_isDigit digit)) ?_
  simp only [token?, noWord, isNumber, read, if_true, Option.map_some]

theorem scans_signed (negative : Bool) (run : DigitRun ds) (space : SpaceRun gap)
    (read : number? (ds ++ t ++ rest) = some rest) :
    Scans (some ⟨frames, .start, names⟩) (gap ++ (signText negative ++ ds ++ t) ++ rest)
      (some ⟨frames, .afterOperand, names⟩) rest := by
  cases negative with
  | false => exact scans_digits run space read
  | true =>
    have sign : Scans (some ⟨frames, .start, names⟩) (gap ++ '-' :: (ds ++ t ++ rest))
        (some ⟨frames, .sameLine, names⟩) (ds ++ t ++ rest) :=
      scans_mark (c := '-') space (by decide) rfl
    have number : Scans (some ⟨frames, .sameLine, names⟩) ([] ++ (ds ++ t) ++ rest)
        (some ⟨frames, .afterOperand, names⟩) rest := scans_digits run spaceRun_nil read
    simpa [signText] using sign.trans number

theorem scans_string {s : List Char} (text : StringText s t) (space : SpaceRun gap) :
    Scans o (gap ++ t ++ rest) (o.bind fun s => s.step .str) rest := by
  have read : str? (t ++ rest) = some (.str s, rest) := str?_complete text
  cases text with
  | @mk quote s body isQuote isBody =>
    have plain : isWordStart quote = false ∧ isSpace quote = false := by
      rcases isQuote with rfl | rfl <;> decide
    refine .one space (List.cons_ne_nil _ _) (stops_cons.2 plain.2) ?_
    rw [List.append_assoc, List.cons_append] at read ⊢
    generalize body ++ ([quote] ++ rest) = tail at read ⊢
    have noWord : word? (quote :: tail) = none := by simp [word?, plain.1]
    have noNumber : startsNumber (quote :: tail) = false := by
      rcases isQuote with rfl | rfl <;> rfl
    have noPair : startsPair (quote :: tail) = false := by
      rcases isQuote with rfl | rfl <;> cases tail <;> simp [startsPair, pairOperators]
    simp [token?, noWord, noNumber, noPair, read]

theorem scans_literal (text : LexemeText l t) (space : SpaceRun gap) (ends : EndsLiteral rest) :
    Scans (some ⟨frames, .start, names⟩) (gap ++ t ++ rest)
      (some ⟨frames, .afterOperand, names⟩) rest := by
  cases text with
  | float text =>
    cases text with
    | mk negative run tail => exact scans_signed negative run space (number?_float run tail ends.1)
  | int text =>
    cases text with
    | @mk negative ds whole =>
      have read : number? (ds ++ [] ++ rest) = some rest := by
        rw [List.append_nil, number?_whole whole ends]
      have scans : Scans (some ⟨frames, .start, names⟩)
          (gap ++ (signText negative ++ ds ++ []) ++ rest)
          (some ⟨frames, .afterOperand, names⟩) rest := scans_signed negative whole.run space read
      rwa [List.append_nil] at scans
  | bool b =>
    have word := scans_word (o := some ⟨frames, .start, names⟩) space (isWord_boolText b) ends.1
    cases b <;> exact word
  | str text => exact scans_string text space

theorem scans_items (items : ItemsText LexemeText ls t) :
    Scans (some ⟨.call :: frames, .start, names⟩) (t ++ ')' :: rest)
      (some ⟨frames, .afterOperand, names⟩) rest := by
  induction items with
  | @last l before t after space text afterSpace =>
    have ends : EndsLiteral (after ++ ')' :: rest) :=
      afterSpace.endsLiteral (by decide) (by decide)
    have close : Scans (some ⟨.call :: frames, .afterOperand, names⟩) (after ++ ')' :: rest)
        (some ⟨frames, .afterOperand, names⟩) rest :=
      scans_mark (c := ')') afterSpace (by decide) rfl
    simpa using (scans_literal text space ends).trans close
  | @more l ls before t after tail space text afterSpace _ ih =>
    have ends : EndsLiteral (after ++ ',' :: (tail ++ ')' :: rest)) :=
      afterSpace.endsLiteral (by decide) (by decide)
    have comma : Scans (some ⟨.call :: frames, .afterOperand, names⟩)
        (after ++ ',' :: (tail ++ ')' :: rest)) (some ⟨.call :: frames, .start, names⟩)
        (tail ++ ')' :: rest) :=
      scans_mark (c := ',') afterSpace (by decide) rfl
    simpa using ((scans_literal text space ends).trans comma).trans ih

theorem scans_args (args : ArgsText LexemeText ls t) :
    Scans (some ⟨.call :: frames, .start, names⟩) (t ++ ')' :: rest)
      (some ⟨frames, .afterOperand, names⟩) rest := by
  cases args with
  | none space => exact scans_mark (c := ')') space (by decide) rfl
  | some items => exact scans_items items

def Turn.takesCall (turn : Turn) : Prop := turn = .start ∨ turn = .operand

theorem step_name (frames : List Frame) (names : List (List Char)) {w : List Char} {turn : Turn}
    (takes : turn.takesCall) (name : Identifier w) :
    ∃ first, (Scan.mk frames turn names).step (.word w) =
      some ⟨frames, .afterName w first, names⟩ := by
  obtain ⟨-, apart⟩ := identifier_iff.1 name
  have other : ∀ k ∈ keywords, w ≠ k := by
    rintro k member rfl
    rw [isKeyword, List.any_eq_false] at apart
    exact absurd (apart w member) (by simp)
  simp only [keywords, List.forall_mem_cons] at other
  obtain ⟨-, -, noNot, noTrue, noFalse, -⟩ := other
  have operand : (Scan.mk frames turn names).step (.word w) =
      (Scan.mk frames turn names).stepOperand (.word w) := by
    rcases takes with rfl | rfl <;> rfl
  rw [operand]
  refine ⟨turn = .start, ?_⟩
  simp only [Scan.stepOperand, Scan.go, noNot, noTrue, noFalse, apart, or_self, if_false,
    Bool.false_eq_true]

theorem scans_call {c : RawCall} {turn : Turn} (text : c.Spells t)
    (takes : turn.takesCall) (space : SpaceRun gap) :
    Scans (some ⟨frames, turn, names⟩) (gap ++ t ++ rest)
      (some ⟨frames, .afterOperand, c.name :: names⟩) rest := by
  obtain ⟨w, ls⟩ := c
  cases text with
  | @mk inner t _ name innerSpace args =>
    have stop : Stops isWordChar (inner ++ '(' :: (t ++ ')' :: rest)) :=
      innerSpace.stops (fun _ => not_isWordChar_of_isSpace) (stops_cons.2 (by decide))
    obtain ⟨first, step⟩ := step_name frames names takes name
    have word := scans_word (o := some ⟨frames, turn, names⟩) space (identifier_iff.1 name).1 stop
    rw [Option.bind_some, step] at word
    have bracket : Scans (some ⟨frames, .afterName w first, names⟩)
        (inner ++ '(' :: (t ++ ')' :: rest)) (some ⟨.call :: frames, .start, w :: names⟩)
        (t ++ ')' :: rest) :=
      scans_mark (c := '(') innerSpace (by decide) rfl
    simpa using (word.trans bracket).trans (scans_args args)

end operands

section layouts

variable {o o' : Option Scan} {gap rest : List Char}

-- The first line feed may move the scan on, those after it do not.
theorem scans_layout (layout : LayoutRun gap)
    (first : (o.bind fun s => s.step .newline) = o')
    (again : (o'.bind fun s => s.step .newline) = o') {before : List Char}
    (space : SpaceRun before) :
    ∃ after, SpaceRun after ∧
      Scans o (before ++ gap ++ rest) (if '\n' ∈ gap then o' else o) (after ++ rest) := by
  induction gap generalizing o before with
  | nil => exact ⟨before, space, by simpa using Scans.done⟩
  | cons c gap ih =>
    obtain ⟨isLayout, others⟩ := List.forall_mem_cons.1 layout
    by_cases line : c = '\n'
    · subst line
      obtain ⟨after, afterSpace, scans⟩ := ih others again spaceRun_nil
      have feed : Scans o (before ++ '\n' :: (gap ++ rest)) o' (gap ++ rest) := by
        rw [← first]
        exact scans_mark (c := '\n') space (by decide) rfl
      refine ⟨after, afterSpace, ?_⟩
      simpa using feed.trans scans
    · have isBlank : isSpace c := by simpa [Grammar.isLayout, line] using isLayout
      have longer : SpaceRun (before ++ [c]) :=
        List.forall_mem_append.2 ⟨space, by simpa using isBlank⟩
      obtain ⟨after, afterSpace, scans⟩ := ih others first longer
      refine ⟨after, afterSpace, ?_⟩
      simpa [Ne.symm line] using scans

-- Before an expression a line feed leaves the scan where it is.
theorem scans_start (names : List (List Char)) (layout : LayoutRun gap) (rest : List Char) :
    ∃ space, SpaceRun space ∧
      Scans (some ⟨[], .start, names⟩) (gap ++ rest) (some ⟨[], .start, names⟩)
        (space ++ rest) := by
  obtain ⟨space, isSpace, scans⟩ :
      ∃ space, SpaceRun space ∧
        Scans (some ⟨[], .start, names⟩) ([] ++ gap ++ rest)
          (if '\n' ∈ gap then some ⟨[], .start, names⟩ else some ⟨[], .start, names⟩)
          (space ++ rest) :=
    scans_layout layout rfl rfl spaceRun_nil
  rw [ite_self] at scans
  exact ⟨space, isSpace, scans⟩

-- After one the first line feed ends it.
theorem scans_afterOperand (names : List (List Char)) (layout : LayoutRun gap) (rest : List Char) :
    ∃ space, SpaceRun space ∧
      Scans (some ⟨[], .afterOperand, names⟩) (gap ++ rest)
        (if '\n' ∈ gap then some ⟨[], .start, names⟩ else some ⟨[], .afterOperand, names⟩)
        (space ++ rest) :=
  scans_layout layout rfl rfl spaceRun_nil

end layouts

end ViewQuery.Grammar
