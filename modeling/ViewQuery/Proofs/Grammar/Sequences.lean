import ViewQuery.Proofs.Grammar.Literals

set_option autoImplicit false

namespace ViewQuery.Grammar

section gaps

variable {gap rest : List Char}

theorem spaceRun_nil : SpaceRun [] := fun _ member => nomatch member

theorem SpaceRun.stops {p : Char → Bool} (space : SpaceRun gap)
    (apart : ∀ c, isSpace c → p c = false) (stop : Stops p rest) : Stops p (gap ++ rest) := by
  cases gap with
  | nil => exact stop
  | cons c gap => exact stops_cons.2 (apart c (space c (by simp)))

theorem not_isWordChar_of_isLayout {c : Char} (layout : isLayout c) : isWordChar c = false := by
  simp only [isLayout, isSpace, Bool.or_eq_true, decide_eq_true_eq] at layout
  rcases layout with ((rfl | rfl) | rfl) | rfl <;> decide

theorem isLayout_of_isSpace {c : Char} (space : isSpace c) : isLayout c := by
  simp [isLayout, space]

theorem not_isWordChar_of_isSpace {c : Char} (space : isSpace c) : isWordChar c = false :=
  not_isWordChar_of_isLayout (isLayout_of_isSpace space)

theorem not_isSpace_of_literalStart {c : Char} (start : literalStart c) : isSpace c = false := by
  by_contra space
  simp only [isSpace, Bool.not_eq_false, Bool.or_eq_true, decide_eq_true_eq] at space
  rcases space with (rfl | rfl) | rfl <;> exact absurd start (by decide)

theorem SpaceRun.endsLiteral {c : Char} (space : SpaceRun gap) (noWord : isWordChar c = false)
    (noPoint : c ≠ '.') : EndsLiteral (gap ++ c :: rest) := by
  constructor
  · exact space.stops (fun _ => not_isWordChar_of_isSpace) (stops_cons.2 noWord)
  · apply space.stops _ (stops_cons.2 (decide_eq_false noPoint))
    intro d isBlank
    apply decide_eq_false
    rintro rfl
    exact absurd isBlank (by decide)

theorem skipSpace_gap {c : Char} (space : SpaceRun gap) (stop : isSpace c = false) :
    skipSpace (gap ++ c :: rest) = c :: rest := by
  rw [skipSpace_append space, skipSpace_eq_self (stops_cons.2 stop)]

theorem skipSpace_literal {l : Lexeme} {t : List Char} (space : SpaceRun gap)
    (text : LexemeText l t) : skipSpace (gap ++ (t ++ rest)) = t ++ rest := by
  rw [skipSpace_append space, skipSpace_eq_self]
  exact text.stops (fun _ => not_isSpace_of_literalStart) rest

end gaps

section arguments

variable {standing : Refusal} {cs rest t : List Char} {l : Lexeme} {ls : List Lexeme} {n : Nat}

-- The literal in front is not `moreArgs`' own, but what it reads is no list of items without it.
theorem moreArgs_sound (read : moreArgs n standing cs = .ok (ls, rest)) {before : List Char}
    (space : SpaceRun before) (text : LexemeText l t) :
    ∃ u, cs = u ++ ')' :: rest ∧ ItemsText LexemeText (l :: ls) (before ++ t ++ u) := by
  induction n generalizing standing cs ls before l t with
  | zero => simp [moreArgs] at read
  | succ n ih =>
    obtain ⟨gap, parts, gapSpace, -⟩ := skipSpace_sound cs
    simp only [moreArgs] at read
    split at read
    · next tail close =>
      obtain ⟨rfl, rfl⟩ := Prod.mk.inj (Except.ok.inj read)
      exact ⟨gap, by rw [parts, close], .last space text gapSpace⟩
    · next tail comma =>
      obtain ⟨gap', parts', gapSpace', -⟩ := skipSpace_sound tail
      split at read
      · simp at read
      · next l' tail' isLiteral =>
        obtain ⟨t', text', isText⟩ := literal?_sound isLiteral
        split at read
        · simp at read
        · next ls' rest' isMore =>
          obtain ⟨rfl, rfl⟩ := Prod.mk.inj (Except.ok.inj read)
          obtain ⟨u, rfl, items⟩ := ih isMore gapSpace' isText
          refine ⟨gap ++ ',' :: (gap' ++ t' ++ u), ?_, ?_⟩
          · rw [parts, comma, parts', text']
            simp
          · simpa using ItemsText.more space text gapSpace items
    · simp at read

theorem ItemsText.moreArgs (items : ItemsText LexemeText ls t) :
    ∃ before l u tail ls', ls = l :: ls' ∧ t = before ++ u ++ tail ∧ SpaceRun before ∧
      LexemeText l u ∧ (∀ rest, EndsLiteral (tail ++ ')' :: rest)) ∧ ls'.length ≤ tail.length ∧
      ∀ n standing rest, ls'.length < n →
        moreArgs n standing (tail ++ ')' :: rest) = .ok (ls', rest) := by
  induction items with
  | @last l before u after space text afterSpace =>
    refine ⟨before, l, u, after, [], rfl, rfl, space, text,
      fun _ => afterSpace.endsLiteral (by decide) (by decide), by simp, ?_⟩
    intro n standing rest enough
    obtain ⟨n, rfl⟩ := Nat.exists_eq_add_one.2 (Nat.zero_lt_of_lt enough)
    simp only [Grammar.moreArgs, skipSpace_gap afterSpace (c := ')') (by decide)]
  | @more l ls before u after rest space text afterSpace _ ih =>
    obtain ⟨before', l', u', tail, ls', rfl, rfl, space', text', ends, short, read⟩ := ih
    refine ⟨before, l, u, after ++ ',' :: (before' ++ u' ++ tail), l' :: ls', rfl, by simp, space,
      text, fun rest => ?_, by simp; omega, ?_⟩
    · rw [List.append_assoc, List.cons_append]
      exact afterSpace.endsLiteral (by decide) (by decide)
    · intro n standing rest enough
      obtain ⟨n, rfl⟩ := Nat.exists_eq_add_one.2 (Nat.zero_lt_of_lt enough)
      simp only [List.append_assoc, List.cons_append, Grammar.moreArgs,
        skipSpace_gap afterSpace (c := ',') (by decide), skipSpace_literal space' text',
        literal?_complete text' (ends rest),
        read n _ rest (by simpa using enough)]

theorem args_sound (read : args standing cs = .ok (ls, rest)) :
    ∃ t, cs = t ++ ')' :: rest ∧ ArgsText LexemeText ls t := by
  obtain ⟨gap, parts, space, -⟩ := skipSpace_sound cs
  simp only [args] at read
  split at read
  · split at read
    · next close =>
      obtain ⟨rfl, rfl⟩ := Prod.mk.inj (Except.ok.inj read)
      exact ⟨gap, by rw [parts, close], .none space⟩
    · simp at read
  · next l tail isLiteral =>
    obtain ⟨t, text, isText⟩ := literal?_sound isLiteral
    split at read
    · simp at read
    · next ls' rest' isMore =>
      obtain ⟨rfl, rfl⟩ := Prod.mk.inj (Except.ok.inj read)
      obtain ⟨u, rfl, items⟩ := moreArgs_sound isMore space isText
      exact ⟨gap ++ t ++ u, by rw [parts, text]; simp, .some items⟩

theorem args_complete (text : ArgsText LexemeText ls t) :
    args standing (t ++ ')' :: rest) = .ok (ls, rest) := by
  cases text with
  | none space =>
    have noLiteral : literal? (')' :: rest) = none := literal?_eq_none (stops_cons.2 (by decide))
    simp [args, skipSpace_gap space (c := ')') (by decide), noLiteral]
  | some items =>
    obtain ⟨before, l, u, tail, ls, rfl, rfl, space, isText, ends, short, read⟩ := items.moreArgs
    have enough : ls.length < (tail ++ ')' :: rest).length + 1 := by
      rw [List.length_append]
      omega
    simp only [List.append_assoc, args, skipSpace_literal space isText,
      literal?_complete isText (ends rest), read _ _ rest enough]

end arguments

section calls

variable {cs rest t : List Char} {c : RawCall}

theorem call_sound (read : call cs = .ok (c, rest)) : ∃ t, cs = t ++ rest ∧ c.Spells t := by
  unfold call at read
  split at read
  · simp at read
  · next w tail isName =>
    obtain ⟨rfl, name, -⟩ := name?_sound isName
    obtain ⟨gap, parts, space, -⟩ := skipSpace_sound tail
    split at read
    · next inner isOpen =>
      split at read
      · simp at read
      · next ls rest' isArgs =>
        obtain ⟨rfl, rfl⟩ := Prod.mk.inj (Except.ok.inj read)
        obtain ⟨t, rfl, text⟩ := args_sound isArgs
        refine ⟨w ++ gap ++ '(' :: t ++ [')'], ?_, .mk name space text⟩
        rw [parts, isOpen]
        simp
    · simp at read

theorem call_complete (text : c.Spells t) : call (t ++ rest) = .ok (c, rest) := by
  obtain ⟨w, ls⟩ := c
  cases text with
  | @mk gap t _ name space text =>
    have stop : Stops isWordChar (gap ++ '(' :: (t ++ ')' :: rest)) :=
      space.stops (fun _ => not_isWordChar_of_isSpace) (stops_cons.2 (by decide))
    have shape :
        w ++ gap ++ '(' :: t ++ [')'] ++ rest = w ++ (gap ++ '(' :: (t ++ ')' :: rest)) := by simp
    simp only [shape, call, name?_complete name stop, skipSpace_gap space (c := '(') (by decide),
      args_complete text]

theorem Identifier.stops {p : Char → Bool} {w : List Char} (name : Identifier w)
    (apart : ∀ d, isWordStart d → p d = false) (tail : List Char) : Stops p (w ++ tail) := by
  obtain ⟨start, -⟩ := name
  exact stops_cons.2 (apart _ start)

theorem RawCall.Spells.stops {p : Char → Bool} (text : c.Spells t)
    (apart : ∀ d, isWordStart d → p d = false) (tail : List Char) : Stops p (t ++ tail) := by
  cases text with
  | mk name _ _ =>
    simp only [List.append_assoc]
    exact name.stops apart _

theorem RawCall.Spells.length_pos (text : c.Spells t) : 0 < t.length := by
  cases text with
  | mk _ _ _ => simp

theorem not_isLayout_of_isWordStart {d : Char} (start : isWordStart d) : isLayout d = false := by
  by_contra layout
  have word := isWordChar_of_isWordStart start
  rw [not_isWordChar_of_isLayout (by simpa using layout)] at word
  exact absurd word (by decide)

theorem skipLayout_call {gap : List Char} (layout : LayoutRun gap) (text : c.Spells t) :
    skipLayout (gap ++ (t ++ rest)) = t ++ rest := by
  rw [skipLayout_append layout, skipLayout_eq_self]
  exact text.stops (fun _ => not_isLayout_of_isWordStart) rest

end calls

section texts

variable {role : Role} {cs gap rest t : List Char} {raw : List RawCall} {n : Nat}

theorem SpaceRun.layout (space : SpaceRun gap) : LayoutRun gap :=
  fun c member => isLayout_of_isSpace (space c member)

theorem LayoutRun.append {gap' : List Char} (before : LayoutRun gap) (after : LayoutRun gap') :
    LayoutRun (gap ++ gap') :=
  List.forall_mem_append.2 ⟨before, after⟩

theorem skipLayout_eq_nil (layout : LayoutRun gap) : skipLayout gap = [] := by
  have skipped : skipLayout (gap ++ []) = skipLayout [] := skipLayout_append layout
  rwa [List.append_nil] at skipped

theorem layoutRun_of_skipLayout (skipped : skipLayout cs = []) : LayoutRun cs := by
  obtain ⟨gap, parts, layout, -⟩ := skipLayout_sound cs
  rw [skipped, List.append_nil] at parts
  exact parts ▸ layout

theorem layoutRun_nil : LayoutRun [] := fun _ member => nomatch member

theorem map_cons_eq_ok_iff {α ε : Type} {x : Except ε (List α)} {a : α} {as : List α} :
    x.map (a :: ·) = .ok as ↔ ∃ rest, x = .ok rest ∧ a :: rest = as := by
  cases x <;> simp [Except.map]

theorem isWord_and : IsWord "and".toList :=
  .mk (c := 'a') (w := ['n', 'd']) (by decide) (List.all_eq_true.1 (by decide))

theorem moreFilters_sound (read : moreFilters n cs = .ok raw) :
    RestText .filter RawCall.Spells raw cs := by
  induction n generalizing cs raw with
  | zero => simp [moreFilters] at read
  | succ n ih =>
    obtain ⟨before, parts, beforeLayout, -⟩ := skipLayout_sound cs
    simp only [moreFilters] at read
    split at read
    · next tail isAnd =>
      obtain ⟨andText, stop⟩ := keyword?_sound isAnd
      obtain ⟨after, parts', afterLayout, -⟩ := skipLayout_sound tail
      split at read
      · simp at read
      · next c rest isCall =>
        obtain ⟨t, text, spells⟩ := call_sound isCall
        obtain ⟨raw, isMore, rfl⟩ := map_cons_eq_ok_iff.1 read
        rw [text] at parts'
        have shape : cs = before ++ "and".toList ++ after ++ t ++ rest := by
          rw [parts, andText, parts']
          simp only [List.append_assoc]
        rw [shape]
        refine .more ⟨before, after, beforeLayout, afterLayout, rfl, ?_⟩ spells (ih isMore)
        rw [← parts', startsWord_eq_false_iff.2 stop]
        decide
    · split at read
      · next nothing =>
        obtain rfl := Except.ok.inj read
        exact .done (layoutRun_of_skipLayout (by simpa using nothing))
      · simp at read

theorem moreFilters_complete (text : RestText .filter RawCall.Spells raw t)
    (enough : raw.length < n) : moreFilters n t = .ok raw := by
  induction text generalizing n with
  | done layout =>
    obtain ⟨n, rfl⟩ := Nat.exists_eq_add_one.2 (Nat.zero_lt_of_lt enough)
    simp [moreFilters, skipLayout_eq_nil layout, keyword?, word?]
  | @more c raw gap t rest joins spells _ ih =>
    obtain ⟨n, rfl⟩ := Nat.exists_eq_add_one.2 (Nat.zero_lt_of_lt enough)
    obtain ⟨before, after, beforeLayout, afterLayout, rfl, stop⟩ := joins
    have isAnd : keyword? "and".toList (skipLayout (before ++ "and".toList ++ after ++ t ++ rest)) =
        some (after ++ (t ++ rest)) := by
      have noWord := startsWord_eq_false_iff.1 (eq_false_of_ne_true stop)
      simp only [List.append_assoc]
      have noLayout : Stops isLayout ("and".toList ++ (after ++ (t ++ rest))) :=
        stops_cons.2 (by decide)
      rw [skipLayout_append beforeLayout, skipLayout_eq_self noLayout,
        keyword?_complete isWord_and noWord]
    simp only [moreFilters, isAnd, skipLayout_call afterLayout spells, call_complete spells,
      ih (by simpa using enough), Except.map]

theorem moreActions_sound (read : moreActions n cs = .ok raw) :
    RestText .action RawCall.Spells raw cs := by
  induction n generalizing cs raw with
  | zero => simp [moreActions] at read
  | succ n ih =>
    obtain ⟨before, parts, space, -⟩ := skipSpace_sound cs
    simp only [moreActions] at read
    split at read
    · next nothing =>
      obtain rfl := Except.ok.inj read
      rw [nothing, List.append_nil] at parts
      exact .done (parts ▸ space.layout)
    · next tail isLine =>
      obtain ⟨after, parts', afterLayout, -⟩ := skipLayout_sound tail
      have line : LayoutRun (before ++ '\n' :: after) :=
        space.layout.append (List.forall_mem_cons.2 ⟨rfl, afterLayout⟩)
      rw [isLine] at parts
      split at read
      · next nothing =>
        obtain rfl := Except.ok.inj read
        rw [List.isEmpty_iff.1 nothing, List.append_nil] at parts'
        exact .done (parts ▸ parts' ▸ line)
      · split at read
        · simp at read
        · next c rest isCall =>
          obtain ⟨t, text, spells⟩ := call_sound isCall
          obtain ⟨raw, isMore, rfl⟩ := map_cons_eq_ok_iff.1 read
          have shape : cs = (before ++ '\n' :: after) ++ t ++ rest := by
            rw [parts, parts', text]
            simp
          rw [shape]
          exact .more ⟨line, by simp⟩ spells (ih isMore)
    · simp at read

theorem LayoutRun.cases (layout : LayoutRun gap) :
    SpaceRun gap ∨ ∃ before after, gap = before ++ '\n' :: after ∧ SpaceRun before ∧
      LayoutRun after := by
  obtain ⟨before, parts, space, stop⟩ := skipSpace_sound gap
  generalize skipSpace gap = tail at parts stop
  subst parts
  cases tail with
  | nil => exact .inl (by simpa using space)
  | cons c after =>
    obtain ⟨isLine, afterLayout⟩ := List.forall_mem_cons.1 (List.forall_mem_append.1 layout).2
    have line : c = '\n' := by
      simpa [isLayout, stops_cons.1 stop] using isLine
    exact .inr ⟨before, after, by rw [line], space, afterLayout⟩

theorem moreActions_complete (text : RestText .action RawCall.Spells raw t)
    (enough : raw.length < n) : moreActions n t = .ok raw := by
  induction text generalizing n with
  | done layout =>
    obtain ⟨n, rfl⟩ := Nat.exists_eq_add_one.2 (Nat.zero_lt_of_lt enough)
    rcases layout.cases with space | ⟨before, after, rfl, space, afterLayout⟩
    · have nothing : skipSpace (_ ++ []) = [] := skipSpace_append space
      rw [List.append_nil] at nothing
      simp [moreActions, nothing]
    · simp [moreActions, skipSpace_gap space (c := '\n') (by decide),
        skipLayout_eq_nil afterLayout]
  | @more c raw gap t rest joins spells _ ih =>
    obtain ⟨n, rfl⟩ := Nat.exists_eq_add_one.2 (Nat.zero_lt_of_lt enough)
    obtain ⟨layout, line⟩ := joins
    rcases layout.cases with space | ⟨before, after, rfl, space, afterLayout⟩
    · exact absurd (space _ line) (by decide)
    · have more : (t ++ rest).isEmpty = false := by
        simpa using fun nothing => absurd nothing (List.ne_nil_of_length_pos spells.length_pos)
      simp only [List.append_assoc, List.cons_append, moreActions,
        skipSpace_gap space (c := '\n') (by decide), skipLayout_call afterLayout spells, more,
        call_complete spells, ih (by simpa using enough), Except.map]
      rfl

theorem RestText.length_le (text : RestText role RawCall.Spells raw t) :
    raw.length ≤ t.length := by
  induction text with
  | done _ => simp
  | more _ spells _ ih =>
    have := spells.length_pos
    simp only [List.length_append, List.length_cons]
    omega

theorem more_eq_ok_iff : more role cs = .ok raw ↔ RestText role RawCall.Spells raw cs := by
  constructor
  · intro read
    cases role with
    | filter => exact moreFilters_sound read
    | action => exact moreActions_sound read
  · intro text
    -- Every call takes a character of the text, whose length is the fuel.
    have enough := Nat.lt_succ_of_le text.length_le
    cases role with
    | filter => exact moreFilters_complete text enough
    | action => exact moreActions_complete text enough

theorem calls_eq_ok_iff : calls role cs = .ok raw ↔ QueryText role RawCall.Spells raw cs := by
  constructor
  · intro read
    obtain ⟨gap, parts, layout, -⟩ := skipLayout_sound cs
    simp only [calls] at read
    split at read
    · next nothing =>
      obtain rfl := Except.ok.inj read
      exact .none (layoutRun_of_skipLayout (List.isEmpty_iff.1 nothing))
    · split at read
      · simp at read
      · next c rest isCall =>
        obtain ⟨t, text, spells⟩ := call_sound isCall
        obtain ⟨raw, isMore, rfl⟩ := map_cons_eq_ok_iff.1 read
        rw [parts, text, ← List.append_assoc]
        exact .some layout spells (more_eq_ok_iff.1 isMore)
  · rintro (layout | @⟨c, raw, gap, t, rest, layout, spells, text⟩)
    · simp [calls, skipLayout_eq_nil layout]
    · have nonempty : (t ++ rest).isEmpty = false := by
        simpa using fun nothing => absurd nothing (List.ne_nil_of_length_pos spells.length_pos)
      simp only [List.append_assoc, calls, skipLayout_call layout spells, nonempty,
        call_complete spells, more_eq_ok_iff.2 text, Except.map]
      rfl

end texts

end ViewQuery.Grammar
