import ViewQuery.Proofs.Decimal.Bits
import ViewQuery.Proofs.Decimal.ReadBack
import ViewQuery.Proofs.Grammar.Exactness

set_option autoImplicit false

namespace ViewQuery

open Decimal

namespace Grammar

section numbers

variable {ds : List Char} {d : Char} {n : Nat}

theorem digitsValue_eq (ds : List Char) : digitsValue ds = Nat.ofDigitChars 10 ds 0 := rfl

@[simp] theorem digitsValue_natText (n : Nat) : digitsValue (natText n) = n :=
  Nat.ofDigitChars_ten_toDigits

theorem digitsValue_cons (d : Char) (ds : List Char) :
    digitsValue (d :: ds) = 10 ^ ds.length * digitValue d + digitsValue ds := by
  rw [digitsValue_eq, Nat.ofDigitChars_cons, Nat.ofDigitChars_eq_ofDigitChars_zero, Nat.mul_zero,
    Nat.zero_add]
  rfl

theorem digitsValue_zeros (n : Nat) (ds : List Char) :
    digitsValue (zeros n ++ ds) = digitsValue ds := by
  rw [digitsValue_eq, Nat.ofDigitChars_append, zeros, Nat.ofDigitChars_replicate_zero, Nat.mul_zero]
  rfl

theorem digitsValue_append_zeros (ds : List Char) (n : Nat) :
    digitsValue (ds ++ zeros n) = digitsValue ds * 10 ^ n := by
  rw [digitsValue_eq, Nat.ofDigitChars_append, zeros, Nat.ofDigitChars_replicate_zero, Nat.mul_comm]
  rfl

theorem digitsValue_lt (inside : ∀ d ∈ ds, isDigit d) : digitsValue ds < 10 ^ ds.length := by
  induction ds with
  | nil => exact Nat.one_pos
  | cons d ds ih =>
    obtain ⟨digit, inside⟩ := List.forall_mem_cons.1 inside
    have small : digitValue d ≤ 9 := by
      simp only [isDigit, Bool.and_eq_true, decide_eq_true_eq] at digit
      have high : d.toNat ≤ 57 := digit.2
      exact Nat.sub_le_of_le_add high
    rw [digitsValue_cons, List.length_cons, Nat.pow_succ]
    nlinarith [ih inside, Nat.mul_le_mul_left (10 ^ ds.length) small]

theorem digitRun_natText (n : Nat) : DigitRun (natText n) :=
  ⟨Nat.toDigits_ne_nil, fun _ member => Nat.isDigit_of_mem_toDigits (by decide) (by decide) member⟩

theorem wholeNumber_natText (n : Nat) : WholeNumber (natText n) := by
  by_cases zero : n = 0
  · subst zero
    exact .zeros 0
  · obtain ⟨nonempty, inside⟩ := digitRun_natText n
    have value := digitsValue_natText n
    have long := ten_pow_natText_le zero
    generalize natText n = cs at *
    obtain ⟨d, ds, rfl⟩ := List.exists_cons_of_ne_nil nonempty
    obtain ⟨digit, digits⟩ := List.forall_mem_cons.1 inside
    refine .leading digit ?_ digits
    rintro rfl
    have short := digitsValue_lt digits
    rw [digitsValue_cons, show digitValue '0' = 0 from rfl, Nat.mul_zero, Nat.zero_add] at value
    rw [List.length_cons, Nat.add_sub_cancel] at long
    omega

theorem intText_spells (n : Int) : IntText n (intText n) := by
  cases n with
  | ofNat n =>
    have text := IntText.mk false (wholeNumber_natText n)
    rw [digitsValue_natText] at text
    exact text
  | negSucc n =>
    have text := IntText.mk true (wholeNumber_natText (n + 1))
    rw [digitsValue_natText] at text
    exact text

end numbers

section strings

theorem bodyText_escaped (s : List Char) : BodyText '\'' s (s.flatMap Literal.escapeChar) := by
  induction s with
  | nil => exact .nil
  | cons c s ih =>
    rw [List.flatMap_cons, Literal.escapeChar]
    split_ifs with isQuote isSlash isLine isTab isReturn
    · subst isQuote
      exact .escape .single ih
    · subst isSlash
      exact .escape .backslash ih
    · subst isLine
      exact .escape .newline ih
    · subst isTab
      exact .escape .tab ih
    · subst isReturn
      exact .escape .return ih
    · exact .plain isQuote isSlash isLine isReturn ih

end strings

section floats

theorem FloatText.of_eq {negative : Bool} {s : Nat} {e e' : Int} {t ds fs tail : List Char}
    (run : DigitRun ds) (floatTail : FloatTail fs e' tail) (shape : t = ds ++ tail)
    (value : digitsValue (ds ++ fs) = s) (exponent : e' - fs.length = e) :
    FloatText ⟨negative, s, e⟩ (signText negative ++ t) := by
  subst shape value exponent
  rw [← List.append_assoc]
  exact .mk negative run floatTail

theorem isDigit_zeros (n : Nat) : ∀ d ∈ zeros n, isDigit d := by
  intro d member
  rw [List.eq_of_mem_replicate member]
  decide

@[simp] theorem length_zeros (n : Nat) : (zeros n).length = n := List.length_replicate

-- Zeros behind the digits belong to the exponent.
theorem positional_text (d : Digits) (negative : Bool) :
    ∃ k : Nat, FloatText ⟨negative, d.digits * 10 ^ k, d.exponent - k⟩
      (signText negative ++
        positional (natText d.digits) ((natText d.digits).length + d.exponent)) := by
  have value := digitsValue_natText d.digits
  obtain ⟨nonempty, inside⟩ := digitRun_natText d.digits
  generalize natText d.digits = cs at *
  unfold positional
  split_ifs with small large
  · have fraction : DigitRun (zeros (-(cs.length + d.exponent)).toNat ++ cs) :=
      ⟨by simp [nonempty], List.forall_mem_append.2 ⟨isDigit_zeros _, inside⟩⟩
    refine ⟨0, .of_eq (digitRun_natText 0) (.fraction fraction) rfl ?_ ?_⟩
    · rw [show natText 0 = zeros 1 from rfl, digitsValue_zeros, digitsValue_zeros, value, pow_zero,
        mul_one]
    · rw [List.length_append, length_zeros]
      omega
  · have whole : DigitRun (cs ++ zeros ((cs.length + d.exponent).toNat - cs.length)) :=
      ⟨by simp [nonempty], List.forall_mem_append.2 ⟨inside, isDigit_zeros _⟩⟩
    refine ⟨d.exponent.toNat + 1, .of_eq whole (.fraction (digitRun_natText 0)) rfl ?_ ?_⟩
    · rw [show natText 0 = zeros 1 from rfl, digitsValue_append_zeros, digitsValue_append_zeros,
        value, mul_assoc, ← pow_add]
      congr 2
      omega
    · rw [show natText 0 = zeros 1 from rfl, length_zeros]
      omega
  · have whole : DigitRun (cs.take (cs.length + d.exponent).toNat) := by
      refine ⟨List.ne_nil_of_length_pos ?_, fun c member => inside c (List.mem_of_mem_take member)⟩
      rw [List.length_take]
      omega
    have fraction : DigitRun (cs.drop (cs.length + d.exponent).toNat) := by
      refine ⟨List.ne_nil_of_length_pos ?_, fun c member => inside c (List.mem_of_mem_drop member)⟩
      rw [List.length_drop]
      omega
    refine ⟨0, .of_eq whole (.fraction fraction) rfl ?_ ?_⟩
    · rw [List.take_append_drop, value, pow_zero, mul_one]
    · rw [List.length_drop]
      omega

theorem exponentText_spells (l : Layout) (e : Int) : ExponentText e ('e' :: exponentText l e) := by
  have isMark : exponentMark 'e' := rfl
  unfold exponentText
  cases e with
  | ofNat n =>
    have nonneg : ¬ Int.ofNat n < 0 := by simp
    have value := digitsValue_natText n
    rw [if_neg nonneg]
    split
    · have text := ExponentText.plus isMark (digitRun_natText n)
      rwa [value] at text
    · have text := ExponentText.plain isMark (digitRun_natText n)
      rwa [value] at text
  | negSucc n =>
    have text := ExponentText.minus isMark (digitRun_natText (n + 1))
    rw [digitsValue_natText] at text
    rw [if_pos (Int.negSucc_lt_zero n)]
    exact text

theorem scientific_text (l : Layout) (d : Digits) (negative : Bool) :
    FloatText ⟨negative, d.digits, d.exponent⟩
      (signText negative ++
        scientific l (natText d.digits) ((natText d.digits).length + d.exponent)) := by
  have value := digitsValue_natText d.digits
  obtain ⟨nonempty, inside⟩ := digitRun_natText d.digits
  generalize natText d.digits = cs at *
  have exponent := exponentText_spells l (cs.length + d.exponent - 1)
  obtain ⟨c, fs, rfl⟩ := List.exists_cons_of_ne_nil nonempty
  obtain ⟨digit, digits⟩ := List.forall_mem_cons.1 inside
  have whole : DigitRun [c] := ⟨List.cons_ne_nil _ _, by simpa using digit⟩
  cases fs with
  | nil =>
    refine .of_eq whole (.exponent exponent) rfl value ?_
    simp
  | cons f fs =>
    refine .of_eq whole (.both ⟨List.cons_ne_nil f fs, digits⟩ exponent) ?_ value ?_
    · simp [scientific]
    · simp
      omega

theorem unsigned_text (l : Layout) {d : Digits} (nonzero : d.digits ≠ 0) (negative : Bool) :
    ∃ k : Nat, FloatText ⟨negative, d.digits * 10 ^ k, d.exponent - k⟩
      (signText negative ++ l.unsigned d) := by
  unfold Layout.unsigned
  simp only [if_neg nonzero]
  split
  · exact positional_text d negative
  · exact ⟨0, by simpa using scientific_text l d negative⟩

end floats

theorem layout_spells (l : Layout) {x : Float} (finite : (ofFloat x).isFinite) :
    ∃ n, FloatText n (l.text double (ofFloat x)) ∧ n.IsDouble x := by
  cases decoded : ofFloat x with
  | nan => simp [decoded, Binary.isFinite] at finite
  | infinite negative => simp [decoded, Binary.isFinite] at finite
  | finite negative u =>
    obtain ⟨-, fits, below⟩ := ofBits_finite x.toBits.toNat_lt decoded
    have same := toFloat_ofFloat decoded
    have sign (t : List Char) : (if negative then '-' :: t else t) = signText negative ++ t := by
      cases negative <;> rfl
    simp only [Layout.text, sign]
    split
    · next zero =>
      subst zero
      have text : FloatText ⟨negative, 0, -1⟩ (signText negative ++ ['0', '.', '0']) :=
        .of_eq (digitRun_natText 0) (.fraction (digitRun_natText 0)) rfl rfl rfl
      refine ⟨_, text, 0, ?_, below, same.symm⟩
      rw [Format.unitsOf_zero]
      exact isNearest_zero le_rfl (by norm_num)
    · next nonzero =>
      obtain ⟨nearest, hasDigits⟩ := double.shortest_isNearest l.tie (by decide) fits nonzero
      -- The text may have zeros behind the shortest digits, which the units do not see.
      obtain ⟨k, text⟩ := unsigned_text l hasDigits negative
      refine ⟨_, text, u, ?_, below, same.symm⟩
      rwa [Format.unitsOf_mul_pow]

theorem float_spells {x : Float} (finite : (ofFloat x).isFinite) :
    LiteralText (.float x) (Literal.floatText x) := by
  obtain ⟨n, text, double⟩ := layout_spells Literal.floatLayout finite
  exact .float text double

theorem literal_spells {v : Literal} (finite : ∀ x, v = .float x → (ofFloat x).isFinite) :
    LiteralText v v.chars := by
  cases v with
  | bool b => cases b <;> exact .bool _
  | int n => exact .int (intText_spells n.toInt)
  | float x => exact float_spells (finite x rfl)
  | str s => exact .str (.mk (.inl rfl) (bodyText_escaped s.toList))

section sequences

variable {α : Type} {spells : α → List Char → Prop} {chars : α → List Char}

theorem itemsText_joinWith {a : α} {as : List α} (spelled : ∀ b ∈ a :: as, spells b (chars b))
    {before : List Char} (space : SpaceRun before) :
    ItemsText spells (a :: as) (before ++ joinWith [',', ' '] ((a :: as).map chars)) := by
  induction as generalizing a before with
  | nil =>
    have items := ItemsText.last space (spelled a (by simp)) spaceRun_nil
    rwa [List.append_nil] at items
  | cons b as ih =>
    obtain ⟨text, others⟩ := List.forall_mem_cons.1 spelled
    have blank : SpaceRun [' '] := by simp [SpaceRun, isSpace]
    have items := ItemsText.more space text spaceRun_nil (ih others blank)
    simpa [joinWith] using items

theorem argsText_joinWith {as : List α} (spelled : ∀ a ∈ as, spells a (chars a)) :
    ArgsText spells as (joinWith [',', ' '] (as.map chars)) := by
  cases as with
  | nil => exact .none spaceRun_nil
  | cons a as => exact .some (itemsText_joinWith spelled spaceRun_nil)

theorem joins_separator (role : Role) (next : List Char) :
    Joins role (Expression.separator role) next := by
  cases role with
  | filter =>
    refine ⟨[' '], [' '], by simp [LayoutRun, isLayout, isSpace],
      by simp [LayoutRun, isLayout, isSpace], rfl, ?_⟩
    exact Bool.eq_false_iff.1 rfl
  | action =>
    exact ⟨by simp [Expression.separator, LayoutRun, isLayout], by simp [Expression.separator]⟩

theorem restText_separated {role : Role} {cs : List α} (spelled : ∀ c ∈ cs, spells c (chars c)) :
    RestText role spells cs ((cs.map chars).flatMap (Expression.separator role ++ ·)) := by
  induction cs with
  | nil => exact .done layoutRun_nil
  | cons c cs ih =>
    obtain ⟨text, others⟩ := List.forall_mem_cons.1 spelled
    exact .more (joins_separator role _) text (ih others)

theorem queryText_joinWith {role : Role} {cs : List α} (spelled : ∀ c ∈ cs, spells c (chars c)) :
    QueryText role spells cs (joinWith (Expression.separator role) (cs.map chars)) := by
  cases cs with
  | nil => exact .none layoutRun_nil
  | cons c cs =>
    obtain ⟨text, others⟩ := List.forall_mem_cons.1 spelled
    rw [List.map_cons, joinWith_cons]
    exact .some layoutRun_nil text (restText_separated others)

end sequences

end Grammar

open Grammar

theorem Call.spells_chars {c : Call} (name : Identifier c.name.toList)
    (finite : ∀ x, .float x ∈ c.args → (ofFloat x).isFinite) : c.Spells c.chars := by
  have spelled : ∀ v ∈ c.args, LiteralText v v.chars := by
    rintro v member
    exact literal_spells fun x isFloat => finite x (isFloat ▸ member)
  have text := CallText.mk name spaceRun_nil (argsText_joinWith spelled)
  rwa [List.append_nil] at text

/-- What an expression is written as is read back as that expression. -/
theorem Expression.read_text (e : Expression) (names : ∀ c ∈ e.calls, Identifier c.name.toList)
    (finite : ∀ c ∈ e.calls, ∀ x, .float x ∈ c.args → (ofFloat x).isFinite) :
    Expression.read e.role e.text = .ok e := by
  apply Expression.read_complete
  have spelled : ∀ c ∈ e.calls, c.Spells c.chars :=
    fun c member => Call.spells_chars (names c member) (finite c member)
  rw [Expression.text, String.toList_ofList]
  exact queryText_joinWith spelled

-- The least integer, the least positive double, the negative zero and a text that needs escapes.
theorem Expression.read_text_extremes :
    let args : List Literal :=
      [.int Int64.minValue, .float (Float.ofBits 1), .float (Float.ofBits 0x8000000000000000),
        .str "it's\n\\"]
    let e : Expression := ⟨.filter, [⟨"among", args⟩, ⟨"none_left", []⟩]⟩
    Expression.read .filter e.text = .ok e := by
  intro args e
  have among : Identifier "among".toList :=
    .mk (c := 'a') (w := ['m', 'o', 'n', 'g']) (by decide) (List.all_eq_true.1 (by decide))
      (by decide)
  have none : Identifier "none_left".toList :=
    .mk (c := 'n') (w := ['o', 'n', 'e', '_', 'l', 'e', 'f', 't']) (by decide)
      (List.all_eq_true.1 (by decide)) (by decide)
  refine Expression.read_text e ?_ ?_
  · simpa [e] using ⟨among, none⟩
  · have finite : (ofFloat (Float.ofBits 1)).isFinite ∧
        (ofFloat (Float.ofBits 0x8000000000000000)).isFinite := by decide +kernel
    simpa [e, args] using finite

end ViewQuery
