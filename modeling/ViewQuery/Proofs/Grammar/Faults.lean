import ViewQuery.Proofs.Grammar.Trees
import ViewQuery.Proofs.Grammar.Writable

set_option autoImplicit false

namespace ViewQuery

namespace Grammar

open Decimal

-- The literal has no value, and this is why.
inductive Unfit : Lexeme → InvalidLiteral → Prop
  | tooLarge {n : Int} {t : List Char} : IntText n t → 2 ^ 63 ≤ n → Unfit (.int t) ⟨t, .tooLarge⟩
  | tooSmall {n : Int} {t : List Char} : IntText n t → n < -2 ^ 63 → Unfit (.int t) ⟨t, .tooSmall⟩
  | notFinite {n : Numeral} {t : List Char} : FloatText n t → n.Overflows →
      Unfit (.float t) ⟨t, .notFinite⟩

section literals

variable {l : Lexeme} {e : InvalidLiteral} {t : List Char}

theorem int_value_eq_error_iff {n : Int} (text : IntText n t) :
    (Lexeme.int t).value = .error e ↔
      2 ^ 63 ≤ n ∧ e = ⟨t, .tooLarge⟩ ∨ n < -2 ^ 63 ∧ e = ⟨t, .tooSmall⟩ := by
  simp only [Lexeme.value, text.value, Int64.toInt_maxValue, Int64.toInt_minValue]
  split
  next above =>
    have large : (2 : Int) ^ 63 ≤ n := by omega
    have notSmall : ¬n < -2 ^ 63 := by omega
    simp only [Except.error.injEq, large, notSmall, true_and, false_and, or_false]
    exact eq_comm
  next notAbove =>
    have notLarge : ¬(2 : Int) ^ 63 ≤ n := by omega
    split
    next small =>
      simp only [Except.error.injEq, notLarge, small, true_and, false_and, false_or]
      exact eq_comm
    next notSmall => simp only [notLarge, notSmall, false_and, or_false, reduceCtorEq]

theorem float_value_eq_error_iff {n : Numeral} (text : FloatText n t) :
    (Lexeme.float t).value = .error e ↔ n.Overflows ∧ e = ⟨t, .notFinite⟩ := by
  simp only [Lexeme.value, text.value]
  rcases round_cases n with ⟨u, rounded⟩ | rounded
  · have finite : ¬n.Overflows := by
      intro overflows
      rw [round_eq_infinite_iff.2 ⟨rfl, overflows⟩] at rounded
      cases rounded
    simp [rounded, Binary.isFinite, finite]
  · have overflows : n.Overflows := (round_eq_infinite_iff.1 rounded).2
    simp [rounded, Binary.isFinite, overflows, eq_comm]

theorem value_eq_error_iff (text : LexemeText l t) : l.value = .error e ↔ Unfit l e := by
  constructor
  · intro fails
    cases text with
    | float text =>
      obtain ⟨overflows, rfl⟩ := (float_value_eq_error_iff text).1 fails
      exact .notFinite text overflows
    | int text =>
      rcases (int_value_eq_error_iff text).1 fails with ⟨large, rfl⟩ | ⟨small, rfl⟩
      · exact .tooLarge text large
      · exact .tooSmall text small
    | bool b => cases fails
    | str text => cases fails
  · rintro (⟨isInt, large⟩ | ⟨isInt, small⟩ | ⟨isFloat, overflows⟩)
    · exact (int_value_eq_error_iff isInt).2 (.inl ⟨large, rfl⟩)
    · exact (int_value_eq_error_iff isInt).2 (.inr ⟨small, rfl⟩)
    · exact (float_value_eq_error_iff isFloat).2 ⟨overflows, rfl⟩

end literals

section texts

variable {role : Role} {raw : List RawCall} {e : InvalidLiteral} {t : List Char}

theorem mapM_eq_error_iff {α β ε : Type} {f : α → Except ε β} {as : List α} {e : ε} :
    as.mapM f = .error e ↔
      ∃ before a after, as = before ++ a :: after ∧ f a = .error e ∧
        ∀ a' ∈ before, ∃ b, f a' = .ok b := by
  induction as with
  | nil => simp [pure, Except.pure]
  | cons a as ih =>
    rw [List.mapM_cons]
    cases first : f a with
    | error e' =>
      constructor
      · intro fails
        obtain rfl : e' = e := Except.error.inj fails
        exact ⟨[], a, as, rfl, first, by simp⟩
      · rintro ⟨_ | ⟨a', before⟩, a₁, after, parts, fails, passes⟩
        · obtain ⟨rfl, -⟩ := List.cons.inj parts
          obtain rfl : e' = e := Except.error.inj (first.symm.trans fails)
          rfl
        · obtain ⟨rfl, -⟩ := List.cons.inj parts
          obtain ⟨b, passes⟩ := passes a (by simp)
          rw [first] at passes
          cases passes
    | ok b =>
      have rest : (do let bs ← as.mapM f; pure (b :: bs)) = .error e ↔ as.mapM f = .error e := by
        cases as.mapM f <;> simp [bind, Except.bind, pure, Except.pure]
      refine Iff.trans rest (ih.trans ?_)
      constructor
      · rintro ⟨before, a₁, after, rfl, fails, passes⟩
        exact ⟨a :: before, a₁, after, rfl, fails, List.forall_mem_cons.2 ⟨⟨b, first⟩, passes⟩⟩
      · rintro ⟨_ | ⟨a', before⟩, a₁, after, parts, fails, passes⟩
        · obtain ⟨rfl, -⟩ := List.cons.inj parts
          rw [first] at fails
          cases fails
        · obtain ⟨rfl, rfl⟩ := List.cons.inj parts
          exact ⟨before, a₁, after, rfl, fails, (List.forall_mem_cons.1 passes).2⟩

theorem values_eq_error_iff :
    raw.mapM RawCall.value = .error e ↔ (raw.flatMap RawCall.args).mapM Lexeme.value = .error e := by
  induction raw with
  | nil => simp [pure, Except.pure]
  | cons c raw ih =>
    rw [List.flatMap_cons, List.mapM_append, List.mapM_cons, RawCall.value]
    cases c.args.mapM Lexeme.value with
    | error e' => simp [Except.map, bind, Except.bind]
    | ok values =>
      cases others : (raw.flatMap RawCall.args).mapM Lexeme.value <;>
        cases calls : raw.mapM RawCall.value <;>
          simp_all [Except.map, bind, Except.bind, pure, Except.pure]

theorem exists_lexemeText (text : QueryText role RawCall.Spells raw t) :
    ∀ l ∈ raw.flatMap RawCall.args, ∃ u, LexemeText l u := by
  intro l member
  obtain ⟨c, isCall, isArg⟩ := List.mem_flatMap.1 member
  obtain ⟨u, spells⟩ := text.exists_text c isCall
  cases spells with
  | mk _ _ args => exact args.exists_text l isArg

def FirstUnfit (raw : List RawCall) (e : InvalidLiteral) : Prop :=
  ∃ before l after, raw.flatMap RawCall.args = before ++ l :: after ∧ Unfit l e ∧
    ∀ l' ∈ before, ∀ e', ¬Unfit l' e'

theorem values_eq_error_iff_firstUnfit (text : QueryText role RawCall.Spells raw t) :
    raw.mapM RawCall.value = .error e ↔ FirstUnfit raw e := by
  have unfit {l : Lexeme} (member : l ∈ raw.flatMap RawCall.args) {e : InvalidLiteral} :
      l.value = .error e ↔ Unfit l e := by
    obtain ⟨u, text⟩ := exists_lexemeText text l member
    exact value_eq_error_iff text
  rw [values_eq_error_iff, mapM_eq_error_iff]
  refine exists_congr fun before => exists_congr fun l => exists_congr fun after =>
    and_congr_right fun parts => ?_
  have inside : ∀ l' ∈ before, l' ∈ raw.flatMap RawCall.args := by simp_all
  refine and_congr (unfit (by simp [parts])) (forall₂_congr fun l' member => ?_)
  simp only [← unfit (inside l' member)]
  cases l'.value <;> simp

end texts

end Grammar

open Grammar

variable {role : Role} {source : String} {raw : List RawCall}

namespace Expression

theorem read_of_text (text : QueryText role RawCall.Spells raw source.toList) :
    read role source = ((raw.mapM RawCall.value).map (Expression.mk role)).mapError .literal := by
  simp only [read, calls_eq_ok_iff.2 text]
  cases raw.mapM RawCall.value <;> rfl

theorem read_error_of_text (text : QueryText role RawCall.Spells raw source.toList)
    {e : ReadError} : read role source = .error e ↔ ∃ e', FirstUnfit raw e' ∧ e = .literal e' := by
  simp only [read_of_text text, ← values_eq_error_iff_firstUnfit text]
  cases raw.mapM RawCall.value with
  | error e' => simp [Except.map, Except.mapError, eq_comm]
  | ok calls => simp [Except.map, Except.mapError]

theorem read_error_outside (outside : ¬∃ raw, QueryText role RawCall.Spells raw source.toList) :
    ∃ refusal, read role source = .error (.refused source.toList refusal) := by
  cases isRaw : Grammar.calls role source.toList with
  | error e => exact ⟨asWhole role source.toList e, by simp only [read, isRaw]⟩
  | ok raw => exact absurd ⟨raw, calls_eq_ok_iff.1 isRaw⟩ outside

theorem read_error_cases {e : ReadError} (fails : read role source = .error e) :
    ((¬∃ raw, QueryText role RawCall.Spells raw source.toList) ∧
      ∃ refusal, e = .refused source.toList refusal) ∨
    ∃ raw e', QueryText role RawCall.Spells raw source.toList ∧ FirstUnfit raw e' ∧
      e = .literal e' := by
  by_cases inside : ∃ raw, QueryText role RawCall.Spells raw source.toList
  · obtain ⟨raw, text⟩ := inside
    obtain ⟨e', first, rfl⟩ := (read_error_of_text text).1 fails
    exact .inr ⟨raw, e', text, first, rfl⟩
  · obtain ⟨refusal, refused⟩ := read_error_outside inside
    exact .inl ⟨inside, refusal, Except.error.inj (fails.symm.trans refused)⟩

/-- A text is refused, with a place, exactly if it is outside the language. In the language a text
fails exactly if a literal has no value, and the first one is reported, without a place. The texts
of the language are those that have a tree. What is read from such a tree is what is read from the
text, whatever a backslash at the end of a body were decoded to, so that no tree is malformed. -/
theorem read_fault (role : Role) (source : String) :
    let language := ∃ raw, QueryText role RawCall.Spells raw source.toList
    ((∃ refusal, read role source = .error (.refused source.toList refusal)) ↔ ¬language) ∧
    (∀ e, read role source = .error (.literal e) ↔
      ∃ raw, QueryText role RawCall.Spells raw source.toList ∧ FirstUnfit raw e) ∧
    (∀ e, read role source = .error e → (e.place? = none ↔ language)) ∧
    (language ↔ ∃ raw root, WholeTree role raw root ∧ root.text = source.toList) ∧
    ∀ raw root, WholeTree role raw root → root.text = source.toList →
      (∀ broken, readTrees broken role [root] = ofTrees role [root]) ∧
      ∃ outcome : Except InvalidLiteral Expression,
        ofTrees role [root] = outcome.mapError .ofInvalid ∧
        read role source = outcome.mapError .literal := by
  intro language
  refine ⟨⟨?_, read_error_outside⟩, fun e => ⟨fun fails => ?_, ?_⟩, fun e fails => ?_, ?_, ?_⟩
  · rintro ⟨refusal, refused⟩
    rcases read_error_cases refused with ⟨outside, -⟩ | ⟨_, _, -, -, isLiteral⟩
    · exact outside
    · cases isLiteral
  · rcases read_error_cases fails with ⟨-, _, isRefused⟩ | ⟨raw, e', text, first, same⟩
    · cases isRefused
    · obtain rfl := ReadError.literal.inj same
      exact ⟨raw, text, first⟩
  · rintro ⟨raw, text, first⟩
    exact (read_error_of_text text).2 ⟨e, first, rfl⟩
  · rcases read_error_cases fails with ⟨outside, refusal, rfl⟩ | ⟨raw, e', text, -, rfl⟩
    · exact iff_of_false (by simp [ReadError.place?]) outside
    · exact iff_of_true rfl ⟨raw, text⟩
  · simp only [language, queryText_iff_tree, Node.Spans, and_comm]
  · intro raw root tree spans
    have text : QueryText role RawCall.Spells raw source.toList :=
      queryText_iff_tree.2 ⟨root, spans, tree⟩
    exact ⟨fun broken => tree.read.trans tree.read.symm, _, tree.read, read_of_text text⟩

-- The first literal at fault is named and not the larger one behind it.
example : read .filter "a(1e308, 1e400) and b(-9223372036854775809)" =
    .error (.literal ⟨"1e400".toList, .notFinite⟩) := by
  decide +kernel

end Expression

end ViewQuery
