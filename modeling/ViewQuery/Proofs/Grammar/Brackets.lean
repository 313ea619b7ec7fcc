import ViewQuery.Proofs.Grammar.Exactness
import ViewQuery.Proofs.Grammar.MentionedCalls
import ViewQuery.Scoring

set_option autoImplicit false

namespace ViewQuery

namespace Grammar

section texts

def Bracket.opens : Bracket → Char
  | .round => '('
  | .square => '['

def Bracket.closes : Bracket → Char
  | .round => ')'
  | .square => ']'

def isQuote (c : Char) : Bool := c = '\'' || c = '"'

def marks : List Char := ['\'', '"', '(', ')', '[', ']']

-- The text up to a quote that no backslash stands before.
inductive Quoted (quote : Char) : List Char → Prop
  | nil : Quoted quote []
  | plain {c : Char} {t : List Char} : c ≠ quote → c ≠ '\\' → Quoted quote t → Quoted quote (c :: t)
  | escaped (c : Char) {t : List Char} : Quoted quote t → Quoted quote ('\\' :: c :: t)

/-- The brackets outside strings are balanced and properly nested. -/
inductive Balanced : List Char → Prop
  | nil : Balanced []
  | plain {c : Char} {t : List Char} : c ∉ marks → Balanced t → Balanced (c :: t)
  | string {quote : Char} {s t : List Char} : isQuote quote → Quoted quote s → Balanced t →
      Balanced (quote :: (s ++ quote :: t))
  | nested (b : Bracket) {inner t : List Char} : Balanced inner → Balanced t →
      Balanced (b.opens :: (inner ++ b.closes :: t))

def Closes : List Bracket → List Char → Prop
  | [], cs => Balanced cs
  | b :: bs, cs => ∃ inner rest, cs = inner ++ b.closes :: rest ∧ Balanced inner ∧ Closes bs rest

variable {b : Bracket} {bs : List Bracket} {s t cs : List Char} {c quote : Char}

theorem Balanced.append (front : Balanced s) (back : Balanced t) : Balanced (s ++ t) := by
  induction front with
  | nil => exact back
  | plain inert _ ih => exact .plain inert ih
  | string isQuote quoted _ ih =>
    rw [List.cons_append, List.append_assoc, List.cons_append]
    exact .string isQuote quoted ih
  | nested b inner _ _ ih =>
    rw [List.cons_append, List.append_assoc, List.cons_append]
    exact .nested b inner ih

theorem balanced_of_forall {p : Char → Bool} (apart : marks.any p = false)
    (inside : ∀ c ∈ t, p c) : Balanced t := by
  induction t with
  | nil => exact .nil
  | cons c t ih =>
    obtain ⟨holds, others⟩ := List.forall_mem_cons.1 inside
    exact .plain (fun member => List.any_eq_false.1 apart c member holds) (ih others)

theorem Balanced.closes (front : Balanced s) (back : Closes bs t) : Closes bs (s ++ t) := by
  cases bs with
  | nil => exact front.append back
  | cons b bs =>
    obtain ⟨inner, rest, rfl, balanced, later⟩ := back
    exact ⟨s ++ inner, rest, (List.append_assoc ..).symm, front.append balanced, later⟩

theorem closes_opening (back : Closes (b :: bs) cs) : Closes bs (b.opens :: cs) := by
  obtain ⟨inner, rest, rfl, balanced, later⟩ := back
  have pair : Balanced (b.opens :: (inner ++ [b.closes])) := .nested b balanced .nil
  simpa using pair.closes later

theorem closes_closing (b : Bracket) (back : Closes bs cs) : Closes (b :: bs) (b.closes :: cs) :=
  ⟨[], cs, rfl, .nil, back⟩

-- What is open at the end of a text, latest first. Nothing if a bracket closes none or another one,
-- or if a string stays open.
def openAfter : Option Char → List Bracket → List Char → Option (List Bracket)
  | none, bs, [] => some bs
  | some _, _, [] => none
  | some quote, bs, '\\' :: _ :: cs => openAfter (some quote) bs cs
  | some quote, bs, c :: cs =>
    if c = quote then openAfter none bs cs else openAfter (some quote) bs cs
  | none, bs, c :: cs =>
    if isQuote c then openAfter (some c) bs cs
    else if c = '(' then openAfter none (.round :: bs) cs
    else if c = '[' then openAfter none (.square :: bs) cs
    else if c = ')' then
      if bs.head? = some .round then openAfter none bs.tail cs else none
    else if c = ']' then
      if bs.head? = some .square then openAfter none bs.tail cs else none
    else openAfter none bs cs

theorem openAfter_quoted (isQuote : isQuote quote) (quoted : Quoted quote s) :
    openAfter (some quote) bs (s ++ quote :: t) = openAfter none bs t := by
  have noSlash : quote ≠ '\\' := by
    rintro rfl
    cases isQuote
  induction quoted with
  | nil => simp [openAfter, noSlash]
  | plain other noSlash' _ ih => simp [openAfter, other, noSlash', ih]
  | escaped c _ ih => simpa [openAfter] using ih

theorem Balanced.openAfter (balanced : Balanced s) (bs : List Bracket) (t : List Char) :
    openAfter none bs (s ++ t) = Grammar.openAfter none bs t := by
  induction balanced generalizing bs t with
  | nil => rfl
  | plain inert _ ih =>
    simp only [marks, List.mem_cons, List.not_mem_nil, or_false, not_or] at inert
    simp [Grammar.openAfter, isQuote, inert, ih]
  | @string quote s u isQuote quoted _ ih =>
    rw [List.cons_append, List.append_assoc, List.cons_append]
    simp only [Grammar.openAfter, isQuote, if_true]
    rw [openAfter_quoted isQuote quoted, ih]
  | nested b _ _ ih ih' =>
    rw [List.cons_append, List.append_assoc, List.cons_append]
    cases b with
    | round => simp [Grammar.openAfter, isQuote, Bracket.opens, Bracket.closes, ih, ih']
    | square => simp [Grammar.openAfter, isQuote, Bracket.opens, Bracket.closes, ih, ih']

def ClosesFrom : Option Char → List Bracket → List Char → Prop
  | none, bs, cs => Closes bs cs
  | some quote, bs, cs => ∃ s t, cs = s ++ quote :: t ∧ Quoted quote s ∧ Closes bs t

theorem closesFrom_of_openAfter {inside : Option Char}
    (closed : openAfter inside bs cs = some []) : ClosesFrom inside bs cs := by
  fun_induction openAfter inside bs cs with
  | case1 bs =>
    obtain rfl := Option.some.inj closed
    exact .nil
  | case2 => cases closed
  | case3 quote bs d cs ih =>
    obtain ⟨s, t, rfl, quoted, later⟩ := ih closed
    exact ⟨'\\' :: d :: s, t, rfl, .escaped d quoted, later⟩
  | case4 bs c cs noEscape ih => exact ⟨[], cs, rfl, .nil, ih closed⟩
  | case5 quote bs c cs noEscape other ih =>
    obtain ⟨s, t, rfl, quoted, later⟩ := ih closed
    have noSlash : c ≠ '\\' := by
      rintro rfl
      cases s with
      | nil => exact noEscape quote t rfl rfl
      | cons d s => exact noEscape d (s ++ quote :: t) rfl rfl
    exact ⟨c :: s, t, rfl, .plain other noSlash quoted, later⟩
  | case6 bs c cs isQuote ih =>
    obtain ⟨s, t, rfl, quoted, later⟩ := ih closed
    have string := (Balanced.string isQuote quoted .nil).closes later
    rwa [List.cons_append, List.append_assoc] at string
  | case7 bs cs _ ih => exact closes_opening (ih closed)
  | case8 bs cs _ _ ih => exact closes_opening (ih closed)
  | case9 bs cs isOpen _ _ _ ih =>
    obtain ⟨bs, rfl⟩ := List.head?_eq_some_iff.1 isOpen
    exact closes_closing .round (ih closed)
  | case10 => cases closed
  | case11 bs cs isOpen _ _ _ _ ih =>
    obtain ⟨bs, rfl⟩ := List.head?_eq_some_iff.1 isOpen
    exact closes_closing .square (ih closed)
  | case12 => cases closed
  | case13 bs c cs noQuote noRound noSquare noRound' noSquare' ih =>
    have inert : c ∉ marks := by
      simp only [isQuote, Bool.or_eq_true, decide_eq_true_eq, not_or] at noQuote
      simp [marks, noQuote, noRound, noSquare, noRound', noSquare']
    exact (Balanced.plain inert .nil).closes (ih closed)

theorem balanced_iff : Balanced cs ↔ openAfter none [] cs = some [] := by
  constructor
  · intro balanced
    simpa [openAfter] using balanced.openAfter [] []
  · exact closesFrom_of_openAfter

instance : Decidable (Balanced cs) := decidable_of_iff _ balanced_iff.symm

example : Balanced "f('a)b\\'(', [x])".toList ∧ ¬ Balanced "f([x)]".toList := by decide

end texts

section plain

variable {α κ : Type} {spells : α → List Char → Prop} {as : List α} {t gap w : List Char}

theorem balanced_of_layout (layout : LayoutRun gap) : Balanced gap :=
  balanced_of_forall (by decide) layout

theorem balanced_of_space (space : SpaceRun gap) : Balanced gap :=
  balanced_of_forall (by decide) space

theorem balanced_of_numeric (inside : ∀ c ∈ t, isNumeric c) : Balanced t :=
  balanced_of_forall (by decide) inside

theorem balanced_of_word (word : IsWord w) : Balanced w := by
  obtain ⟨start, inside⟩ := word
  exact balanced_of_forall (by decide)
    (List.forall_mem_cons.2 ⟨isWordChar_of_isWordStart start, inside⟩)

theorem balanced_of_string {s : List Char} (text : StringText s t) : Balanced t := by
  obtain ⟨isQuote, body⟩ := text
  rename_i quote t
  have quoted : Quoted quote t := by
    induction body with
    | nil => exact .nil
    | plain other noSlash _ _ _ ih => exact .plain other noSlash ih
    | escape _ _ ih => exact .escaped _ ih
  exact .string (by simpa [Grammar.isQuote] using isQuote) quoted .nil

theorem LexemeText.balanced {l : Lexeme} (text : LexemeText l t) : Balanced t := by
  cases text with
  | float text => exact balanced_of_numeric text.isNumeric
  | int text => exact balanced_of_numeric text.isNumeric
  | bool b => exact balanced_of_word (isWord_boolText b)
  | str text => exact balanced_of_string text

theorem ItemsText.balanced (items : ItemsText spells as t)
    (balanced : ∀ a t, spells a t → Balanced t) : Balanced t := by
  induction items with
  | last before text after =>
    exact ((balanced_of_space before).append (balanced _ _ text)).append (balanced_of_space after)
  | more before text after _ ih =>
    have first := ((balanced_of_space before).append (balanced _ _ text)).append
      (balanced_of_space after)
    exact first.append (.plain (by decide) ih)

theorem ArgsText.balanced (args : ArgsText spells as t)
    (balanced : ∀ a t, spells a t → Balanced t) : Balanced t := by
  cases args with
  | none space => exact balanced_of_space space
  | some items => exact items.balanced balanced

theorem CallText.balanced (call : CallText spells w as t)
    (balanced : ∀ a t, spells a t → Balanced t) : Balanced t := by
  obtain ⟨name, space, args⟩ := call
  have front := (balanced_of_word (identifier_iff.1 name).1).append (balanced_of_space space)
  rw [List.append_assoc, List.cons_append]
  exact front.append (.nested .round (args.balanced balanced) .nil)

theorem Joins.balanced {role : Role} {next : List Char} (joins : Joins role gap next) :
    Balanced gap := by
  cases role with
  | filter =>
    obtain ⟨before, after, layout, layout', rfl, -⟩ := joins
    exact ((balanced_of_layout layout).append (balanced_of_word isWord_and)).append
      (balanced_of_layout layout')
  | action => exact balanced_of_layout joins.1

theorem RestText.balanced {role : Role} (rest : RestText role spells as t)
    (balanced : ∀ a t, spells a t → Balanced t) : Balanced t := by
  induction rest with
  | done layout => exact balanced_of_layout layout
  | more joins text _ ih => exact (joins.balanced.append (balanced _ _ text)).append ih

theorem QueryText.balanced {role : Role} (query : QueryText role spells as t)
    (balanced : ∀ a t, spells a t → Balanced t) : Balanced t := by
  cases query with
  | none layout => exact balanced_of_layout layout
  | some layout text rest =>
    exact ((balanced_of_layout layout).append (balanced _ _ text)).append (rest.balanced balanced)

theorem balanced_of_calls {role : Role} {raw : List RawCall} (read : calls role t = .ok raw) :
    Balanced t :=
  (calls_eq_ok_iff.1 read).balanced fun _ _ call => call.balanced fun _ _ text => text.balanced

end plain

section scan

variable {s s' : Scan} {t : Token} {bs : List Bracket} {cs rest : List Char}

def Token.nest : Token → List Bracket → Option (List Bracket)
  | .opening b, bs => some (b :: bs)
  | .closing b, bs => if bs.head? = some b then some bs.tail else none
  | _, bs => some bs

def Scan.brackets (s : Scan) : List Bracket := s.frames.map Frame.bracket

theorem nest_of_leave {b : Bracket} (step : s.leave b = some s') :
    (Token.closing b).nest s.brackets = some s'.brackets := by
  unfold Scan.leave at step
  split at step
  · next f rest frames =>
    obtain ⟨isBracket, ⟨⟩⟩ := Option.ite_none_right_eq_some.1 step
    simp [Token.nest, Scan.brackets, frames, isBracket]
  · cases step

theorem nest_of_stepOperand (step : s.stepOperand t = some s') :
    t.nest s.brackets = some s'.brackets := by
  cases t with
  | word w =>
    simp only [Scan.stepOperand, Scan.go] at step
    grind [Token.nest, Scan.brackets]
  | opening b => cases b <;> cases step <;> rfl
  | number | str | sign | tilde => cases step; rfl
  | _ => cases step

theorem nest_of_stepAfter (step : s.stepAfter t = some s') :
    t.nest s.brackets = some s'.brackets := by
  cases t with
  | closing b => exact nest_of_leave step
  | opening b => cases step
  | _ =>
    simp only [Scan.stepAfter, Scan.go] at step
    grind [Token.nest, Scan.brackets]

-- What remains of a text closes the frames of the scan one by one.
theorem nest_of_step (step : s.step t = some s') : t.nest s.brackets = some s'.brackets := by
  unfold Scan.step at step
  split at step
  · next start =>
    split at step
    · cases step
      rfl
    · obtain ⟨-, ⟨⟩⟩ := Option.ite_none_right_eq_some.1 step
      rfl
    · exact nest_of_leave step
    · exact nest_of_stepOperand step
  · next operand =>
    split at step
    · obtain ⟨-, ⟨⟩⟩ := Option.ite_none_left_eq_some.1 step
      rfl
    · exact nest_of_stepOperand step
  · next sameLine => exact nest_of_stepOperand step
  · next name first afterName =>
    split at step
    · cases step
      rfl
    · cases step
      rfl
    · obtain ⟨-, ⟨⟩⟩ := Option.ite_none_right_eq_some.1 step
      rfl
    · exact nest_of_stepAfter step
  · next afterPoint =>
    split at step
    · obtain ⟨-, ⟨⟩⟩ := Option.ite_none_left_eq_some.1 step
      rfl
    · cases step
  · next afterNot =>
    split at step
    · obtain ⟨-, ⟨⟩⟩ := Option.ite_none_right_eq_some.1 step
      rfl
    · cases step
  · next afterIs =>
    split at step
    · split at step
      · cases step
        rfl
      · exact nest_of_stepOperand step
    · obtain ⟨-, ⟨⟩⟩ := Option.ite_none_left_eq_some.1 step
      rfl
    · exact nest_of_stepOperand step
  · next afterOperand => exact nest_of_stepAfter step

inductive Piece (cs rest : List Char) : Token → Prop
  | opening (b : Bracket) : cs = b.opens :: rest → Piece cs rest (.opening b)
  | closing (b : Bracket) : cs = b.closes :: rest → Piece cs rest (.closing b)
  | other {t : Token} {u : List Char} : (∀ bs, t.nest bs = some bs) → cs = u ++ rest →
      Balanced u → Piece cs rest t

theorem piece_of_mark {c : Char} (mark : mark? c = some t) : Piece (c :: rest) rest t := by
  have operators : singleOperators.all (· ∉ marks) = true := by decide
  unfold mark? at mark
  split at mark
  all_goals first
    | obtain rfl := Option.some.inj mark
      first
        | exact .opening .round rfl
        | exact .opening .square rfl
        | exact .closing .round rfl
        | exact .closing .square rfl
        | exact .other (fun _ => rfl) (List.singleton_append ..).symm (.plain (by decide) .nil)
    | obtain ⟨single, same⟩ := Option.ite_none_right_eq_some.1 mark
      obtain rfl := Option.some.inj same
      have inert := of_decide_eq_true (List.all_eq_true.1 operators _ single)
      exact .other (fun _ => rfl) (List.singleton_append ..).symm (.plain inert .nil)

theorem piece_of_token (read : ReadFrom cs rest t) : Piece cs rest t := by
  cases read with
  | word isWord =>
    obtain ⟨split, word, -⟩ := word?_sound isWord
    exact .other (fun _ => rfl) split (balanced_of_word word)
  | number isNumber _ =>
    obtain ⟨⟨u, split, inside⟩, -⟩ := cuts_number isNumber
    exact .other (fun _ => rfl) split (balanced_of_numeric inside)
  | @pair a b isPair same =>
    have operators : ∀ p ∈ pairOperators, p.1 ∉ marks ∧ p.2 ∉ marks := by decide
    obtain ⟨inert, inert'⟩ := operators _ isPair
    have balanced : Balanced [a, b] := .plain inert (.plain inert' .nil)
    exact .other (fun _ => rfl) same balanced
  | str isString =>
    obtain ⟨u, split, text⟩ := str?_sound isString
    exact .other (fun _ => rfl) split text.balanced
  | mark _ isMark same => exact same ▸ piece_of_mark isMark

theorem closes_token {bs' : List Bracket} (read : ReadFrom cs rest t)
    (nest : t.nest bs = some bs') (later : Closes bs' rest) : Closes bs cs := by
  cases piece_of_token read with
  | opening b same =>
    obtain rfl := Option.some.inj nest
    exact same ▸ closes_opening later
  | closing b same =>
    obtain ⟨isOpen, left⟩ := Option.ite_none_right_eq_some.1 nest
    obtain ⟨bs, rfl⟩ := List.head?_eq_some_iff.1 isOpen
    obtain rfl := Option.some.inj left
    exact same ▸ closes_closing b later
  | other kept same balanced =>
    obtain rfl := Option.some.inj ((kept bs).symm.trans nest)
    exact same ▸ balanced.closes later

-- What is open at a point of the scan is closed by the rest of the text.
theorem closes_of_run {n : Nat} {ts : List Token} (tokens : tokensUpTo n cs = some ts)
    (run : ts.foldlM Scan.step s = some s') (complete : s'.frames = []) :
    Closes s.brackets cs := by
  induction ts generalizing n cs s with
  | nil =>
    obtain rfl : s = s' := Option.some.inj run
    obtain ⟨gap, split, space, -⟩ := skipSpace_sound cs
    rcases tokensUpTo_cases tokens with ⟨nothing, -⟩ | ⟨_, _, _, _, -, more, -⟩
    · rw [split, nothing, Scan.brackets, complete, List.append_nil]
      exact balanced_of_space space
    · cases more
  | cons t ts ih =>
    obtain ⟨gap, split, space, -⟩ := skipSpace_sound cs
    rcases tokensUpTo_cases tokens with ⟨-, none⟩ | ⟨m, _, rest, _, read, ⟨⟩, rfl, others⟩
    · cases none
    · obtain ⟨s₁, step, later⟩ := Option.bind_eq_some_iff.1 run
      rw [split]
      apply (balanced_of_space space).closes
      exact closes_token read (nest_of_step step) (ih others later)

theorem balanced_of_mentions {names : List (List Char)} (mentions : mentions? cs = some names) :
    Balanced cs := by
  unfold mentions? at mentions
  split at mentions
  · cases mentions
  · next ts tokens =>
    split at mentions
    · next s run =>
      obtain ⟨complete, -⟩ := Option.ite_none_right_eq_some.1 mentions
      have nothing : s.frames = [] := by
        rw [Scan.isComplete, Bool.and_eq_true] at complete
        exact List.isEmpty_iff.1 complete.1
      exact closes_of_run tokens run nothing
    · cases mentions

end scan

end Grammar

open Grammar

section refused

variable {source : String}

theorem balanced_of_mentionedNames {names : List String}
    (read : mentionedNames? source = some names) : Balanced source.toList := by
  obtain ⟨found, mentions, -⟩ := Option.map_eq_some_iff.1 read
  exact balanced_of_mentions mentions

theorem balanced_of_read {role : Role} {e : Expression}
    (read : Expression.read role source = .ok e) : Balanced source.toList := by
  simp only [Expression.read] at read
  split at read
  · cases read
  · next raw isRaw => exact balanced_of_calls isRaw

theorem mentions_of_unbalanced (unbalanced : ¬ Balanced source.toList) (ops : OperationSet) :
    ops.mentions source = (0, 0) := by
  cases read : mentionedNames? source with
  | none => rw [OperationSet.mentions, read]
  | some names => exact absurd (balanced_of_mentionedNames read) unbalanced

def IsSyntaxError {α : Type} (result : Except (Stop QueryError) α) : Prop :=
  ∃ e : QueryError, result = .error (.error e) ∧ e.kind = .syntaxError

namespace Validator

theorem check_of_unbalanced (unbalanced : ¬ Balanced source.toList) (v : Validator) (role : Role)
    (view : View) : IsSyntaxError (v.check role source view) := by
  cases read : Expression.read role source with
  | error e => exact ⟨.read e, by rw [check, read], rfl⟩
  | ok e => exact absurd (balanced_of_read read) unbalanced

theorem checkQuery_of_filters {filters : String} {v : Validator} {view : View}
    (refused : IsSyntaxError (v.check .filter filters view)) (actions : String) :
    IsSyntaxError (v.checkQuery filters actions view) := by
  obtain ⟨e, refused, isSyntax⟩ := refused
  exact ⟨e, by rw [checkQuery, refused], isSyntax⟩

theorem checkQuery_of_actions {filters actions : String} {v : Validator} {view : View}
    {kept : List CheckedCall} (passes : v.check .filter filters view = .ok kept)
    (refused : IsSyntaxError (v.check .action actions view)) :
    IsSyntaxError (v.checkQuery filters actions view) := by
  obtain ⟨e, refused, isSyntax⟩ := refused
  exact ⟨e, by rw [checkQuery, passes, refused]; rfl, isSyntax⟩

theorem score_of_refused {v : Validator} {view : View} {e : Example}
    (refused : IsSyntaxError (v.checkQuery e.filters e.actions view)) :
    v.score? view e = some
      ⟨1, 0, 1, (view.filters.mentions e.filters).1, (view.filters.mentions e.filters).2,
        (view.actions.mentions e.actions).1, (view.actions.mentions e.actions).2⟩ := by
  obtain ⟨error, refused, isSyntax⟩ := refused
  rw [score?, refused]
  simp only [isSyntax]
  rfl

end Validator

end refused

/-- A text whose brackets are not balanced outside its strings is never read. No call of it is
counted and its check is a syntax error; so is the check of a query with it, unless it is the action
text and the filter text fails before. -/
theorem only_balanced_read (source : String) :
    (∀ names, mentionedNames? source = some names → Balanced source.toList) ∧
    (∀ role e, Expression.read role source = .ok e → Balanced source.toList) ∧
    (¬ Balanced source.toList →
      (∀ ops : OperationSet, ops.mentions source = (0, 0)) ∧
      ∀ (v : Validator) (view : View) (e : Example),
        (∀ role, IsSyntaxError (v.check role source view)) ∧
        (e.filters = source →
          IsSyntaxError (v.checkQuery e.filters e.actions view) ∧
          v.score? view e = some ⟨1, 0, 1, 0, 0, (view.actions.mentions e.actions).1,
            (view.actions.mentions e.actions).2⟩) ∧
        (∀ kept, v.check .filter e.filters view = .ok kept → e.actions = source →
          IsSyntaxError (v.checkQuery e.filters e.actions view) ∧
          v.score? view e = some ⟨1, 0, 1, (view.filters.mentions e.filters).1,
            (view.filters.mentions e.filters).2, 0, 0⟩)) := by
  refine ⟨fun names => balanced_of_mentionedNames, fun role e => balanced_of_read,
    fun unbalanced => ⟨mentions_of_unbalanced unbalanced, fun v view e => ?_⟩⟩
  have uncounted := mentions_of_unbalanced unbalanced
  have refused := v.check_of_unbalanced unbalanced
  refine ⟨fun role => refused role view, ?_, ?_⟩
  · rintro rfl
    have error := Validator.checkQuery_of_filters (refused .filter view) e.actions
    refine ⟨error, ?_⟩
    rw [Validator.score_of_refused error, uncounted]
  · rintro kept passes rfl
    have error := Validator.checkQuery_of_actions passes (refused .action view)
    refine ⟨error, ?_⟩
    rw [Validator.score_of_refused error, uncounted view.actions]

end ViewQuery
