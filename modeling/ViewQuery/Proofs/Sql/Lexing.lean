import ViewQuery.Proofs.Grammar.Printing
import ViewQuery.Proofs.Grammar.Scanning
import ViewQuery.Proofs.Sql.Tokens

set_option autoImplicit false

namespace ViewQuery.Sql

open Decimal (digits natText intText isDigit)
open Grammar (Stops stops_cons ne_of_apart isWordChar isWordStart isLayout signText)

inductive Lexeme where
  | word (w : List Char)
  | number (spelling : List Char)
  | string (value : String)
  | quotedName (name : String)
  | symbol (s : List Char)
  deriving DecidableEq

namespace Lexer

def quoted? (quote : Char) : List Char → Option (List Char × List Char)
  | [] => none
  | [c] => if c = quote then some ([], []) else none
  | c :: d :: cs =>
    if c ≠ quote then (quoted? quote (d :: cs)).map fun r => (c :: r.1, r.2)
    else if d = quote then (quoted? quote cs).map fun r => (quote :: r.1, r.2)
    else some ([], d :: cs)

-- A word right before a quote would be the prefix of the string.
def word? (cs : List Char) : Option (Lexeme × List Char) :=
  match Grammar.word? cs with
  | some (w, rest) => if rest.head? = some '\'' then none else some (.word w, rest)
  | none => none

def number? (cs : List Char) : Option (Lexeme × List Char) :=
  let (ds, cs) := digits cs
  if ds.isEmpty then none
  else
    let (tail, rest) := (Grammar.floatTail? cs).getD ([], cs)
    if Grammar.startsWord rest then none else some (.number (ds ++ tail), rest)

-- Two minus signs would open a comment.
def symbol? : List Char → Option (Lexeme × List Char)
  | '-' :: '-' :: _ => none
  | '<' :: '>' :: cs => some (.symbol ['<', '>'], cs)
  | '<' :: '=' :: cs => some (.symbol ['<', '='], cs)
  | '>' :: '=' :: cs => some (.symbol ['>', '='], cs)
  | c :: cs =>
    if c ∈ ['<', '>', '=', '(', ')', ',', '.', '*', '-'] then some (.symbol [c], cs) else none
  | [] => none

def lexeme? : List Char → Option (Lexeme × List Char)
  | '\'' :: cs => (quoted? '\'' cs).map fun r => (.string (String.ofList r.1), r.2)
  | '"' :: cs => (quoted? '"' cs).map fun r => (.quotedName (String.ofList r.1), r.2)
  | cs => word? cs <|> number? cs <|> symbol? cs

def lexUpTo : Nat → List Char → Option (List Lexeme)
  | 0, _ => none
  | n + 1, cs =>
    match Grammar.skipLayout cs with
    | [] => some []
    | c :: cs =>
      match lexeme? (c :: cs) with
      | some (l, rest) => (lexUpTo n rest).map (l :: ·)
      | none => none

end Lexer

def lex (text : String) : Option (List Lexeme) :=
  Lexer.lexUpTo (text.toList.length + 1) text.toList

namespace Lexer

variable {cs rest w : List Char} {ls : List Lexeme} {l : Lexeme}

section quotes

variable {quote : Char}

theorem quoted?_cons {c : Char} (apart : c ≠ quote) (cs : List Char) :
    quoted? quote (c :: cs) = (quoted? quote cs).map fun r => (c :: r.1, r.2) := by
  cases cs <;> simp [quoted?, apart]

theorem quoted?_doubled (s : List Char) (stop : Stops (· = quote) rest) :
    quoted? quote (doubled quote s ++ quote :: rest) = some (s, rest) := by
  induction s with
  | nil =>
    cases rest with
    | nil => simp [doubled, quoted?]
    | cons d rest =>
      have apart : d ≠ quote := by simpa using stop
      simp [doubled, quoted?, apart]
  | cons c s ih =>
    by_cases isQuote : c = quote
    · have twice : doubled quote (c :: s) = quote :: quote :: doubled quote s := by
        simp [doubled, isQuote]
      rw [twice, List.cons_append, List.cons_append, quoted?]
      simp [ih, isQuote]
    · have once : doubled quote (c :: s) = c :: doubled quote s := by simp [doubled, isQuote]
      rw [once, List.cons_append, quoted?_cons isQuote, ih]
      rfl

theorem lexeme?_string (s : String) (stop : Stops (· = '\'') rest) :
    lexeme? (enclosed '\'' s.toList ++ rest) = some (.string s, rest) := by
  simp only [enclosed, List.cons_append, List.append_assoc, List.nil_append, lexeme?,
    quoted?_doubled s.toList stop]
  simp

theorem lexeme?_quotedName (s : String) (stop : Stops (· = '"') rest) :
    lexeme? (enclosed '"' s.toList ++ rest) = some (.quotedName s, rest) := by
  simp only [enclosed, List.cons_append, List.append_assoc, List.nil_append, lexeme?,
    quoted?_doubled s.toList stop]
  simp

end quotes

section bare

open Grammar (DigitRun FloatTail)

variable {ds fs tail : List Char} {e : Int}

def Apart (rest : List Char) : Prop := ∀ c, rest.head? = some c → c ∈ [' ', ')', ',']

theorem apart_nil : Apart [] := fun _ first => by simp at first

theorem apart_cons {c : Char} (mark : c ∈ [' ', ')', ',']) (cs : List Char) : Apart (c :: cs) := by
  intro d first
  obtain rfl := Option.some.inj first
  exact mark

theorem Apart.stops {p : Char → Bool} (apart : Apart rest) (blank : p ' ' = false)
    (closing : p ')' = false) (comma : p ',' = false) : Stops p rest := by
  intro c first
  have mark := apart c first
  simp only [List.mem_cons, List.not_mem_nil, or_false] at mark
  rcases mark with rfl | rfl | rfl
  · exact blank
  · exact closing
  · exact comma

theorem lexeme?_bare {c : Char} (noString : c ≠ '\'') (noName : c ≠ '"') (cs : List Char) :
    lexeme? (c :: cs) = (word? (c :: cs) <|> number? (c :: cs) <|> symbol? (c :: cs)) := by
  unfold lexeme?
  split <;> simp_all

theorem isWord_of_isPlainName (plain : isPlainName w) : Grammar.IsWord w := by
  cases w with
  | nil => simp [isPlainName] at plain
  | cons c w =>
    simp only [isPlainName, Bool.and_eq_true, List.all_eq_true] at plain
    exact .mk plain.1 plain.2

theorem lexeme?_word (plain : isPlainName w) (stop : Stops isWordChar rest)
    (noQuote : Stops (· = '\'') rest) : lexeme? (w ++ rest) = some (.word w, rest) := by
  have isWord := isWord_of_isPlainName plain
  have unprefixed : rest.head? ≠ some '\'' := fun first => by simpa using noQuote _ first
  have read : word? (w ++ rest) = some (.word w, rest) := by
    simp [word?, Grammar.word?_complete isWord stop, unprefixed]
  cases isWord with
  | mk start _ =>
    rw [List.cons_append] at read ⊢
    rw [lexeme?_bare (ne_of_apart start rfl) (ne_of_apart start rfl), read]
    rfl

theorem lexeme?_number (run : DigitRun ds) (stop : Stops isDigit (tail ++ rest))
    (isTail : (Grammar.floatTail? (tail ++ rest)).getD ([], tail ++ rest) = (tail, rest))
    (apart : Apart rest) : lexeme? (ds ++ tail ++ rest) = some (.number (ds ++ tail), rest) := by
  have ends : Grammar.startsWord rest = false :=
    Grammar.startsWord_eq_false_iff.2 (apart.stops rfl rfl rfl)
  have read : number? (ds ++ (tail ++ rest)) = some (.number (ds ++ tail), rest) := by
    simp [number?, Grammar.digits_complete run.2 stop, run.isEmpty, isTail, ends]
  obtain ⟨d, ds, rfl⟩ := List.exists_cons_of_ne_nil run.1
  have digit := run.2 d List.mem_cons_self
  have noWord : word? (d :: ds ++ (tail ++ rest)) = none := by
    simp [word?, Grammar.word?, Grammar.not_isWordStart_of_isDigit digit]
  rw [List.append_assoc]
  rw [List.cons_append] at read noWord ⊢
  rw [lexeme?_bare (ne_of_apart digit rfl) (ne_of_apart digit rfl), noWord, read]
  rfl

inductive Numeral : List Char → Prop
  | whole {ds : List Char} : DigitRun ds → Numeral ds
  | float {ds fs tail : List Char} {e : Int} :
    DigitRun ds → FloatTail fs e tail → Numeral (ds ++ tail)

inductive Bare : List Char → Prop
  | word {w : List Char} : isPlainName w → Bare w
  | number {cs : List Char} : Numeral cs → Bare cs

def bareLexeme (cs : List Char) : Lexeme := if isPlainName cs then .word cs else .number cs

theorem bareLexeme_number (run : DigitRun ds) (tail : List Char) :
    bareLexeme (ds ++ tail) = .number (ds ++ tail) := by
  obtain ⟨d, ds, rfl⟩ := List.exists_cons_of_ne_nil run.1
  have noStart : isPlainStart d = false :=
    Grammar.not_isWordStart_of_isDigit (run.2 d List.mem_cons_self)
  simp [bareLexeme, isPlainName, noStart]

theorem Numeral.bareLexeme (numeral : Numeral cs) : bareLexeme cs = .number cs := by
  cases numeral with
  | whole run => simpa using bareLexeme_number run []
  | float run _ => exact bareLexeme_number run _

theorem Numeral.lexeme? (numeral : Numeral cs) (apart : Apart rest) :
    lexeme? (cs ++ rest) = some (.number cs, rest) := by
  cases numeral with
  | whole run =>
    have noTail : Grammar.floatTail? rest = none := by
      rw [Grammar.floatTail?, Grammar.fraction?_eq_none (apart.stops rfl rfl rfl)]
      exact Grammar.exponent?_eq_none (apart.stops rfl rfl rfl)
    have read : Lexer.lexeme? (cs ++ [] ++ rest) = some (.number (cs ++ []), rest) :=
      lexeme?_number run (apart.stops rfl rfl rfl) (by simp [noTail]) apart
    rwa [List.append_nil] at read
  | float run isTail =>
    refine lexeme?_number run (isTail.stops rest) ?_ apart
    rw [Grammar.floatTail?_complete isTail (apart.stops rfl rfl rfl), Option.getD_some]

theorem Numeral.nonempty (numeral : Numeral cs) : cs ≠ [] := by
  cases numeral with
  | whole run => exact run.1
  | float run _ => exact List.append_ne_nil_of_left_ne_nil run.1 _

theorem Numeral.noMinus (numeral : Numeral cs) : Stops (· = '-') cs := by
  have noMinus (d : Char) (digit : isDigit d) : decide (d = '-') = false :=
    Grammar.ne_of_isDigit digit Grammar.isDigit_minus
  cases numeral with
  | whole run => simpa using run.stops noMinus []
  | float run _ => exact run.stops noMinus _

theorem Bare.lexeme? (bare : Bare cs) (apart : Apart rest) :
    lexeme? (cs ++ rest) = some (bareLexeme cs, rest) := by
  cases bare with
  | word plain =>
    rw [bareLexeme, if_pos plain]
    exact lexeme?_word plain (apart.stops rfl rfl rfl) (apart.stops rfl rfl rfl)
  | number numeral => rw [numeral.bareLexeme, numeral.lexeme? apart]

theorem Bare.nonempty (bare : Bare cs) : cs ≠ [] := by
  cases bare with
  | word plain =>
    rintro rfl
    simp [isPlainName] at plain
  | number numeral => exact numeral.nonempty

theorem Bare.noMinus (bare : Bare cs) : Stops (· = '-') cs := by
  cases bare with
  | word plain =>
    cases isWord_of_isPlainName plain with
    | mk start _ => exact stops_cons.2 (decide_eq_false (ne_of_apart start rfl))
  | number numeral => exact numeral.noMinus

theorem numeral_count (n : Nat) : Numeral (natText n) := .whole (Grammar.digitRun_natText n)

theorem numeral_int (n : Int) :
    ∃ negative cs, intText n = signText negative ++ cs ∧ Numeral cs := by
  have text := Grammar.intText_spells n
  generalize intText n = cs at text ⊢
  cases text with
  | mk negative whole => exact ⟨negative, _, rfl, .whole whole.run⟩

theorem numeral_float {x : Float} (finite : (Decimal.ofFloat x).isFinite) :
    ∃ negative cs, Literal.floatText x = signText negative ++ cs ∧ Numeral cs := by
  have spells := Grammar.float_spells finite
  generalize Literal.floatText x = cs at spells ⊢
  cases spells with
  | float text _ =>
    cases text with
    | mk negative run tail => exact ⟨negative, _, List.append_assoc .., .float run tail⟩

theorem bare_float (x : Float) :
    ∃ negative cs, Literal.floatText x = signText negative ++ cs ∧ Bare cs := by
  by_cases finite : (Decimal.ofFloat x).isFinite
  · obtain ⟨negative, cs, text, numeral⟩ := numeral_float finite
    exact ⟨negative, cs, text, .number numeral⟩
  · rw [Literal.floatText]
    cases decoded : Decimal.ofFloat x with
    | nan => exact ⟨false, _, rfl, .word (by decide)⟩
    | infinite negative =>
      cases negative with
      | false => exact ⟨false, _, rfl, .word (by decide)⟩
      | true => exact ⟨true, ['i', 'n', 'f'], rfl, .word (by decide)⟩
    | finite negative units => simp [decoded, Decimal.Binary.isFinite] at finite

theorem bare_literal (l : Literal) (noString : ∀ s, l ≠ .str s) :
    ∃ negative cs, literalChars l = signText negative ++ cs ∧ Bare cs := by
  cases l with
  | bool b =>
    cases b with
    | false => exact ⟨false, _, rfl, .word (by decide)⟩
    | true => exact ⟨false, _, rfl, .word (by decide)⟩
  | int n =>
    obtain ⟨negative, cs, text, numeral⟩ := numeral_int n.toInt
    exact ⟨negative, cs, text, .number numeral⟩
  | float x => exact bare_float x
  | str s => exact absurd rfl (noString s)

end bare

section texts

def Lexes (cs : List Char) (ls : List Lexeme) : Prop := ∀ n, cs.length < n → lexUpTo n cs = some ls

theorem Lexes.lex (lexes : Lexes cs ls) : lex (String.ofList cs) = some ls := by
  rw [Sql.lex, String.toList_ofList]
  exact lexes _ (Nat.lt_succ_self _)

theorem lexes_nil : Lexes [] [] := by
  intro n enough
  cases n with
  | zero => exact absurd enough (Nat.not_lt_zero _)
  | succ n => rfl

theorem Lexes.blank (lexes : Lexes cs ls) : Lexes (' ' :: cs) ls := by
  intro n enough
  have inner := lexes n (Nat.lt_of_succ_lt enough)
  cases n with
  | zero => exact absurd enough (Nat.not_lt_zero _)
  | succ n => exact inner

theorem lexeme?_layout {c : Char} (layout : isLayout c) (cs : List Char) :
    lexeme? (c :: cs) = none := by
  simp only [isLayout, Grammar.isSpace, Bool.or_eq_true, decide_eq_true_eq] at layout
  rcases layout with ((rfl | rfl) | rfl) | rfl <;> rfl

theorem Lexes.cons {t : List Char} (nonempty : t ≠ []) (read : lexeme? (t ++ rest) = some (l, rest))
    (lexes : Lexes rest ls) : Lexes (t ++ rest) (l :: ls) := by
  intro n enough
  obtain ⟨c, t, rfl⟩ := List.exists_cons_of_ne_nil nonempty
  have solid : isLayout c = false := by
    by_contra layout
    rw [List.cons_append, lexeme?_layout (by simpa using layout)] at read
    cases read
  cases n with
  | zero => exact absurd enough (Nat.not_lt_zero _)
  | succ n =>
    have after : rest.length < n := by
      simp only [List.cons_append, List.length_cons, List.length_append] at enough
      omega
    have front : Grammar.skipLayout (c :: t ++ rest) = c :: (t ++ rest) :=
      Grammar.skipLayout_eq_self (stops_cons.2 solid)
    rw [List.cons_append] at read
    rw [lexUpTo, front]
    simp [read, lexes n after]

end texts

end Lexer

namespace Token

open Lexer

def signedLexemes (cs : List Char) : List Lexeme :=
  let (sign, cs) := Grammar.minus cs
  (sign.map fun c => .symbol [c]) ++ [bareLexeme cs]

def nameLexeme (s : String) : Lexeme :=
  if isPlainName s.toList then .word s.toList else .quotedName s

def lexemes : Token → List Lexeme
  | .word w => [.word w.chars]
  | .name s => [nameLexeme s]
  | .literal (.str s) => [.string s]
  | .literal l => signedLexemes (literalChars l)
  | .count n => [bareLexeme (natText n)]
  | .comparison op => [.symbol op.chars]
  | .opening => [.symbol ['(']]
  | .closing => [.symbol [')']]
  | .comma => [.symbol [',']]
  | .dot => [.symbol ['.']]
  | .star => [.symbol ['*']]

inductive Phrase : List Token → Prop
  | nil : Phrase []
  | cons {t : Token} {ts : List Token} : t ≠ .dot → Phrase ts → Phrase (t :: ts)
  | qualified {s s' : String} {ts : List Token} : Phrase (.name s' :: ts) →
      Phrase (.name s :: .dot :: .name s' :: ts)

variable {t t' : Token} {ts ts' : List Token} {rest cs : List Char} {ls : List Lexeme}

theorem Phrase.head_ne_dot (phrase : Phrase (t :: ts)) : t ≠ .dot := by
  cases phrase with
  | cons noDot _ => exact noDot
  | qualified _ => exact Token.noConfusion

theorem Phrase.append (front : Phrase ts) (back : Phrase ts') : Phrase (ts ++ ts') := by
  induction front with
  | nil => exact back
  | cons noDot _ ih => exact .cons noDot ih
  | qualified _ ih => exact .qualified ih

theorem lexes_name (s : String) (stop : Stops isWordChar rest) (noSingle : Stops (· = '\'') rest)
    (noDouble : Stops (· = '"') rest) (lexes : Lexes rest ls) :
    Lexes (nameChars s ++ rest) (nameLexeme s :: ls) := by
  by_cases plain : isPlainName s.toList
  · rw [nameChars, nameLexeme, if_pos plain, if_pos plain]
    have nonempty : s.toList ≠ [] := by
      intro none
      simp [none, isPlainName] at plain
    exact lexes.cons nonempty (lexeme?_word plain stop noSingle)
  · rw [nameChars, nameLexeme, if_neg plain, if_neg plain]
    exact lexes.cons (by simp [enclosed]) (lexeme?_quotedName s noDouble)

theorem lexes_signed (negative : Bool) (bare : Bare cs) (apart : Apart rest)
    (lexes : Lexes rest ls) :
    Lexes (signText negative ++ cs ++ rest) (signedLexemes (signText negative ++ cs) ++ ls) := by
  obtain ⟨c, cs, rfl⟩ := List.exists_cons_of_ne_nil bare.nonempty
  have noMinus : c ≠ '-' := by simpa using bare.noMinus
  have number := lexes.cons bare.nonempty (bare.lexeme? apart)
  rw [signedLexemes, Grammar.minus_complete negative bare.noMinus]
  cases negative with
  | false => exact number
  | true =>
    have sign : lexeme? (['-'] ++ (c :: cs ++ rest)) = some (.symbol ['-'], c :: cs ++ rest) := by
      have read : symbol? ('-' :: c :: (cs ++ rest)) = some (.symbol ['-'], c :: (cs ++ rest)) := by
        simp [symbol?, noMinus]
      exact (lexeme?_bare (by decide) (by decide) _).trans read
    change Lexes (['-'] ++ (c :: cs ++ rest)) _
    exact number.cons (List.cons_ne_nil _ _) sign

theorem lexes_mark {c : Char} (mark : c ∈ ['(', ')', ',', '.', '*']) (lexes : Lexes rest ls) :
    Lexes (c :: rest) (.symbol [c] :: ls) := by
  have read : lexeme? (c :: rest) = some (.symbol [c], rest) := by
    simp only [List.mem_cons, List.not_mem_nil, or_false] at mark
    rcases mark with rfl | rfl | rfl | rfl | rfl <;> rfl
  exact lexes.cons (t := [c]) (List.cons_ne_nil _ _) read

theorem symbol?_single {c : Char} (angle : c = '<' ∨ c = '>') (noGreater : Stops (· = '>') rest)
    (noEqual : Stops (· = '=') rest) : symbol? (c :: rest) = some (.symbol [c], rest) := by
  cases rest with
  | nil => rcases angle with rfl | rfl <;> rfl
  | cons d rest =>
    have greater : d ≠ '>' := by simpa using noGreater
    have equal : d ≠ '=' := by simpa using noEqual
    rcases angle with rfl | rfl <;> simp [symbol?, greater, equal]

theorem lexes_comparison (op : Comparison) (apart : Apart rest) (lexes : Lexes rest ls) :
    Lexes (op.chars ++ rest) (.symbol op.chars :: ls) := by
  have single {c : Char} (angle : c = '<' ∨ c = '>') :
      lexeme? (c :: rest) = symbol? (c :: rest) := by
    rcases angle with rfl | rfl <;> exact lexeme?_bare (by decide) (by decide) rest
  have read : lexeme? (op.chars ++ rest) = some (.symbol op.chars, rest) := by
    cases op with
    | eq => rfl
    | ne => rfl
    | lt =>
      exact (single (.inl rfl)).trans
        (symbol?_single (.inl rfl) (apart.stops rfl rfl rfl) (apart.stops rfl rfl rfl))
    | le => rfl
    | gt =>
      exact (single (.inr rfl)).trans
        (symbol?_single (.inr rfl) (apart.stops rfl rfl rfl) (apart.stops rfl rfl rfl))
    | ge => rfl
  exact lexes.cons (by cases op <;> exact List.cons_ne_nil _ _) read

theorem lexes_literal (l : Literal) (apart : Apart rest) (lexes : Lexes rest ls) :
    Lexes (literalChars l ++ rest) ((Token.literal l).lexemes ++ ls) := by
  by_cases isString : ∃ s, l = .str s
  · obtain ⟨s, rfl⟩ := isString
    exact lexes.cons (by simp [literalChars, enclosed])
      (lexeme?_string s (apart.stops rfl rfl rfl))
  · have noString : ∀ s, l ≠ .str s := fun s same => isString ⟨s, same⟩
    have signed : (Token.literal l).lexemes = signedLexemes (literalChars l) := by
      cases l with
      | str s => exact absurd rfl (noString s)
      | _ => rfl
    obtain ⟨negative, cs, text, bare⟩ := bare_literal l noString
    rw [signed, text]
    exact lexes_signed negative bare apart lexes

theorem isPlainName_word (w : Word) : isPlainName w.chars := by
  cases w <;> decide

theorem lexes_token (noDot : t ≠ .dot) (apart : t ≠ .opening → Apart rest)
    (lexes : Lexes rest ls) : Lexes (t.chars ++ rest) (t.lexemes ++ ls) := by
  cases t with
  | word w =>
    have apart := apart Token.noConfusion
    exact lexes.cons (by cases w <;> decide)
      (lexeme?_word (isPlainName_word w) (apart.stops rfl rfl rfl) (apart.stops rfl rfl rfl))
  | name s =>
    have apart := apart Token.noConfusion
    exact lexes_name s (apart.stops rfl rfl rfl) (apart.stops rfl rfl rfl)
      (apart.stops rfl rfl rfl) lexes
  | literal l => exact lexes_literal l (apart Token.noConfusion) lexes
  | count n =>
    have bare := Bare.number (numeral_count n)
    exact lexes.cons bare.nonempty (bare.lexeme? (apart Token.noConfusion))
  | comparison op => exact lexes_comparison op (apart Token.noConfusion) lexes
  | opening => exact lexes_mark (by decide) lexes
  | closing => exact lexes_mark (by decide) lexes
  | comma => exact lexes_mark (by decide) lexes
  | dot => exact absurd rfl noDot
  | star => exact lexes_mark (by decide) lexes

theorem apart_gap (noDot : t ≠ .dot) (noDot' : t' ≠ .dot) (noOpening : t ≠ .opening)
    (ts : List Token) : Apart (gap t t' ++ spell (t' :: ts)) := by
  obtain ⟨more, text⟩ : ∃ more, spell (t' :: ts) = t'.chars ++ more := by
    cases ts with
    | nil => exact ⟨[], (List.append_nil _).symm⟩
    | cons u ts => exact ⟨_, List.append_assoc ..⟩
  have alone : t.hugsNext = false := by cases t <;> trivial
  rw [gap, alone, text]
  by_cases hugs : t'.hugsPrevious
  · cases t' with
    | closing => exact apart_cons (by decide) _
    | comma => exact apart_cons (by decide) _
    | dot => exact absurd rfl noDot'
    | _ => cases hugs
  · rw [Bool.false_or, if_neg hugs]
    exact apart_cons (by decide) _

theorem Phrase.lexes (phrase : Phrase ts) : Lexes (spell ts) (ts.flatMap lexemes) := by
  induction phrase with
  | nil => exact lexes_nil
  | @cons t ts noDot phrase ih =>
    cases ts with
    | nil =>
      have last := lexes_token noDot (fun _ => apart_nil) lexes_nil
      rwa [List.append_nil] at last
    | cons t' ts =>
      have spaced : Lexes (gap t t' ++ spell (t' :: ts)) ((t' :: ts).flatMap lexemes) := by
        unfold gap
        split
        · exact ih
        · exact ih.blank
      have all := lexes_token noDot
        (fun noOpening => apart_gap noDot phrase.head_ne_dot noOpening ts) spaced
      rwa [← List.append_assoc] at all
  | @qualified s s' ts phrase ih =>
    have point := lexes_mark (c := '.') (by decide) ih
    have all := lexes_name s (stops_cons.2 rfl) (stops_cons.2 rfl) (stops_cons.2 rfl) point
    have text : spell (.name s :: .dot :: .name s' :: ts) =
        nameChars s ++ '.' :: spell (.name s' :: ts) := by
      simp [spell, gap, hugsNext, hugsPrevious, chars]
    rw [text]
    exact all

end Token

end ViewQuery.Sql
