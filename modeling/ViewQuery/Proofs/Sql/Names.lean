import ViewQuery.Proofs.Sql.Quoting

set_option autoImplicit false

namespace ViewQuery.Sql

open Grammar (signText)

def Word.all : List Word :=
  [.SELECT, .DISTINCT, .FROM, .AS, .WHERE, .ORDER, .BY, .DESC, .LIMIT, .OFFSET, .AND, .OR, .NOT,
    .IN, .LIKE, .ILIKE, .IS, .NULL]

def keywords : List (List Char) :=
  Word.all.map Word.chars ++ [true, false].map fun b => literalChars (.bool b)

def isKeyword (more : List (List Char)) (w : List Char) : Bool :=
  (keywords ++ more).contains (w.map Char.toUpper)

-- A keyword that is written bare where it is given as a name.
def isLost (more : List (List Char)) (name : String) : Bool :=
  isPlainName name.toList && isKeyword more name.toList

def Lexeme.name? (more : List (List Char)) : Lexeme → Option String
  | .word w => if isKeyword more w then none else some (String.ofList w)
  | .quotedName s => some s
  | _ => none

def Given.name? : Given → Option String
  | .name s => some s
  | .string _ => none

section keywords

variable {more : List (List Char)} {w : List Char}

theorem keywords_upper : ∀ w ∈ keywords, w ≠ [] ∧ ∀ c ∈ w, c.isUpper := by
  have all : keywords.all (fun w => !w.isEmpty && w.all Char.isUpper) := by decide
  simpa using all

theorem isKeyword_of_mem (member : w ∈ keywords) : isKeyword more w := by
  have upper : w.map Char.toUpper = w := by
    refine (List.map_congr_left fun c inside => ?_).trans (List.map_id w)
    have capital := (keywords_upper w member).2 c inside
    exact Char.toUpper_eq_of_not_isLower (Char.not_isLower_of_isUpper capital)
  simp [isKeyword, upper, member]

theorem isKeyword_word (w : Word) : isKeyword more w.chars :=
  isKeyword_of_mem (List.mem_append_left _ (List.mem_map_of_mem (by cases w <;> decide)))

theorem isKeyword_bool (b : Bool) : isKeyword more (literalChars (.bool b)) :=
  isKeyword_of_mem (by cases b <;> decide)

theorem isPlainName_of_isKeyword (keyword : isKeyword [] w) : isPlainName w := by
  simp only [isKeyword, List.append_nil, List.contains_iff_mem] at keyword
  obtain ⟨some, upper⟩ := keywords_upper _ keyword
  have alpha : ∀ c ∈ w, c.isAlpha := fun c member => by
    simpa using upper _ (List.mem_map_of_mem member)
  cases w with
  | nil => exact absurd rfl some
  | cons c cs =>
    obtain ⟨first, others⟩ := List.forall_mem_cons.1 alpha
    simp only [isPlainName, isPlainStart, isPlainChar, Char.isAlphanum, Bool.and_eq_true,
      Bool.or_eq_true, List.all_eq_true]
    exact ⟨.inl first, fun d member => .inl (.inl (others d member))⟩

end keywords

namespace Token

variable {more : List (List Char)} {n n' : String} {w : List Char}

theorem nameLexeme_eq_word : nameLexeme n = .word w ↔ isPlainName w ∧ n.toList = w := by
  unfold nameLexeme
  split
  · next plain =>
    rw [Lexeme.word.injEq]
    exact ⟨fun same => ⟨same ▸ plain, same⟩, And.right⟩
  · next quoted =>
    exact ⟨nofun, fun both => absurd (both.2 ▸ both.1) quoted⟩

theorem nameLexeme_inj : nameLexeme n = nameLexeme n' ↔ n = n' := by
  refine ⟨fun same => ?_, congrArg nameLexeme⟩
  unfold nameLexeme at same
  split at same <;> split at same
  · exact String.toList_injective (Lexeme.word.inj same)
  · cases same
  · cases same
  · exact Lexeme.quotedName.inj same

theorem name?_nameLexeme (more : List (List Char)) (n : String) :
    (nameLexeme n).name? more = if isLost more n then none else some n := by
  unfold nameLexeme isLost
  split
  · next plain => simp [Lexeme.name?, plain]
  · next quoted => simp [Lexeme.name?, quoted]

theorem signedLexemes_numeral {cs : List Char} (negative : Bool) (numeral : Lexer.Numeral cs) :
    signedLexemes (signText negative ++ cs)
      = (signText negative).map (fun c => .symbol [c]) ++ [.number cs] := by
  simp only [signedLexemes, Grammar.minus_complete negative numeral.noMinus, numeral.bareLexeme]

theorem lexemes_number {l : Literal} (noString : ∀ s, l ≠ .str s) (noTruth : ∀ b, l ≠ .bool b)
    (finite : ∀ x, l = .float x → (Decimal.ofFloat x).isFinite) :
    ∃ negative cs, (Token.literal l).lexemes
      = (signText negative).map (fun c => .symbol [c]) ++ [.number cs] := by
  cases l with
  | bool b => exact absurd rfl (noTruth b)
  | str s => exact absurd rfl (noString s)
  | int n =>
    obtain ⟨negative, cs, text, numeral⟩ := Lexer.numeral_int n.toInt
    refine ⟨negative, cs, ?_⟩
    have signed : (Token.literal (.int n)).lexemes = signedLexemes (Decimal.intText n.toInt) := rfl
    rw [signed, text, signedLexemes_numeral negative numeral]
  | float x =>
    obtain ⟨negative, cs, text, numeral⟩ := Lexer.numeral_float (finite x rfl)
    refine ⟨negative, cs, ?_⟩
    have signed : (Token.literal (.float x)).lexemes = signedLexemes (Literal.floatText x) := rfl
    rw [signed, text, signedLexemes_numeral negative numeral]

theorem lexemes_bool (b : Bool) :
    (Token.literal (.bool b)).lexemes = [.word (literalChars (.bool b))] := by
  cases b <;> rfl

theorem name?_lexemes (more : List (List Char)) {t : Token}
    (finite : ∀ x, t = .literal (.float x) → (Decimal.ofFloat x).isFinite) :
    t.lexemes.filterMap (Lexeme.name? more)
      = (t.given?.bind Given.name?).toList.filter fun n => !isLost more n := by
  cases t with
  | word w => simp [lexemes, Lexeme.name?, isKeyword_word, given?]
  | name n =>
    cases lost : isLost more n <;>
      simp [lexemes, name?_nameLexeme, given?, Given.name?, lost]
  | literal l =>
    by_cases isString : ∃ s, l = .str s
    · obtain ⟨s, rfl⟩ := isString
      rfl
    by_cases isTruth : ∃ b, l = .bool b
    · obtain ⟨b, rfl⟩ := isTruth
      simp [lexemes_bool, Lexeme.name?, isKeyword_bool, given?]
    · obtain ⟨negative, cs, number⟩ := lexemes_number (fun s same => isString ⟨s, same⟩)
        (fun b same => isTruth ⟨b, same⟩) (fun x same => finite x (same ▸ rfl))
      have nothing : (Token.literal l).given? = none := by
        cases l with
        | str s => exact absurd ⟨s, rfl⟩ isString
        | _ => rfl
      rw [number, nothing]
      cases negative <;> rfl
  | count n =>
    rw [lexemes, (Lexer.numeral_count n).bareLexeme]
    rfl
  | _ => rfl

theorem name?_flatMap_lexemes (more : List (List Char)) {ts : List Token}
    (finite : ∀ x, .literal (.float x) ∈ ts → (Decimal.ofFloat x).isFinite) :
    (ts.flatMap lexemes).filterMap (Lexeme.name? more)
      = ((ts.filterMap given?).filterMap Given.name?).filter fun n => !isLost more n := by
  induction ts with
  | nil => rfl
  | cons t ts ih =>
    have first := name?_lexemes more (t := t) fun x same => finite x (by simp [same])
    have others := ih fun x member => finite x (List.mem_cons_of_mem t member)
    rw [List.flatMap_cons, List.filterMap_append, first, others, ← List.filter_append]
    congr 1
    cases isGiven : t.given? with
    | none => simp [isGiven]
    | some g => cases isName : g.name? <;> simp [isGiven, isName]

end Token

open Token (nameLexeme nameLexeme_eq_word nameLexeme_inj)

def Expr.names (e : Expr) : List String := e.given.filterMap Given.name?

def Select.names (q : Select) : List String := q.given.filterMap Given.name?

section texts

variable {n : String} {l : Literal} {c c' : Column}

theorem lex_ofName (n : String) : lex (Expr.ofName n).text = some [nameLexeme n] :=
  (Expr.ofName n).lex_tokens

theorem lex_literal (l : Literal) :
    lex (Expr.literal l).text = some (Token.literal l).lexemes := by
  simpa [Expr.tokens] using (Expr.literal l).lex_tokens

theorem text_ofName (plain : isPlainName n.toList) : (Expr.ofName n).text = n := by
  have bare : nameChars n = n.toList := if_pos plain
  exact (congrArg String.ofList bare).trans String.ofList_toList

theorem text_ofName_eq_null_iff : (Expr.ofName n).text = Expr.null.text ↔ n = "NULL" := by
  refine ⟨fun same => ?_, fun isNull => ?_⟩
  · have lexemes := congrArg lex same
    rw [lex_ofName, Expr.null.lex_tokens] at lexemes
    have word := (nameLexeme_eq_word.1 (List.cons.inj (Option.some.inj lexemes)).1).2
    exact String.toList_injective word
  · subst isNull
    rfl

theorem text_ofName_eq_literal_iff
    (finite : ∀ x, l = .float x → (Decimal.ofFloat x).isFinite) :
    (Expr.ofName n).text = (Expr.literal l).text ↔
      ∃ b, l = .bool b ∧ n.toList = literalChars (.bool b) := by
  constructor
  · intro same
    have lexemes := congrArg lex same
    rw [lex_ofName, lex_literal, Option.some.injEq] at lexemes
    by_cases isString : ∃ s, l = .str s
    · obtain ⟨s, rfl⟩ := isString
      unfold nameLexeme at lexemes
      split at lexemes <;> cases lexemes
    by_cases isTruth : ∃ b, l = .bool b
    · obtain ⟨b, rfl⟩ := isTruth
      rw [Token.lexemes_bool] at lexemes
      exact ⟨b, rfl, (nameLexeme_eq_word.1 (List.cons.inj lexemes).1).2⟩
    · obtain ⟨negative, cs, number⟩ := Token.lexemes_number (fun s same => isString ⟨s, same⟩)
        (fun b same => isTruth ⟨b, same⟩) finite
      rw [number] at lexemes
      have last := congrArg List.getLast? lexemes
      unfold nameLexeme at last
      split at last <;> simp at last
  · rintro ⟨b, rfl, word⟩
    have plain : isPlainName n.toList := by
      rw [word]
      cases b <;> decide
    rw [text_ofName plain]
    exact String.ofList_toList.symm.trans (congrArg String.ofList word)

theorem text_column_inj : (Expr.column c).text = (Expr.column c').text ↔ c = c' := by
  refine ⟨fun same => ?_, fun same => same ▸ rfl⟩
  have lexemes := congrArg lex same
  rw [(Expr.column c).lex_tokens, (Expr.column c').lex_tokens, Option.some.injEq] at lexemes
  obtain ⟨table, name⟩ := c
  obtain ⟨table', name'⟩ := c'
  cases table <;> cases table' <;>
    simp [Expr.tokens, Column.tokens, Token.lexemes, nameLexeme_inj] at lexemes ⊢
  · exact lexemes
  · exact lexemes

end texts

/-- A name that is written is read as that name, unless it is a keyword: then it is written bare and
read as the keyword. So a column is never mistaken for another column, and for null or for a finite
value only if it is named like it. -/
theorem names_read_back (more : List (List Char)) :
    (∀ n, ∃ l, lex (String.ofList (nameChars n)) = some [l] ∧
      l.name? more = if isLost more n then none else some n) ∧
    (∀ n, isKeyword [] n.toList → isLost [] n) ∧
    (∀ n, (Expr.ofName n).text = Expr.null.text ↔ n = "NULL") ∧
    (∀ n l, (∀ x, l = .float x → (Decimal.ofFloat x).isFinite) →
      ((Expr.ofName n).text = (Expr.literal l).text ↔
        ∃ b, l = .bool b ∧ n.toList = literalChars (.bool b))) ∧
    (∀ c c', (Expr.column c).text = (Expr.column c').text ↔ c = c') ∧
    (∀ e : Expr, (∀ x, .literal (.float x) ∈ e.tokens → (Decimal.ofFloat x).isFinite) →
      ∃ ls, lex e.text = some ls ∧
        ls.filterMap (Lexeme.name? more) = e.names.filter fun n => !isLost more n) ∧
    ∀ q : Select, (∀ x, .literal (.float x) ∈ q.tokens → (Decimal.ofFloat x).isFinite) →
      ∃ ls, lex q.text = some ls ∧
        ls.filterMap (Lexeme.name? more) = q.names.filter fun n => !isLost more n := by
  refine ⟨fun n => ⟨_, lex_ofName n, Token.name?_nameLexeme more n⟩, fun n keyword => ?_,
    fun n => text_ofName_eq_null_iff, fun n l finite => text_ofName_eq_literal_iff finite,
    fun c c' => text_column_inj, fun e finite => ⟨_, e.lex_tokens, ?_⟩,
    fun q finite => ⟨_, q.lex_tokens, ?_⟩⟩
  · rw [isLost, isPlainName_of_isKeyword keyword, keyword]
    rfl
  · rw [Token.name?_flatMap_lexemes more finite, e.given_tokens, Expr.names]
  · rw [Token.name?_flatMap_lexemes more finite, q.given_tokens, Select.names]

theorem text_column_null : (Expr.ofName "NULL").text = Expr.null.text := rfl

end ViewQuery.Sql
