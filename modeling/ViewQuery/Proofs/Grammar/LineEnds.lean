import ViewQuery.Proofs.Grammar.Returns
import ViewQuery.Proofs.Grammar.Sequences

set_option autoImplicit false

namespace ViewQuery

namespace Grammar

open Decimal (digits)

-- The same refusal in the text with returns. At a line feed it stands behind the return.
def Refusal.withReturns (e : Refusal) : Refusal := ⟨returnsInside e.rest, e.expected⟩

def outcomeWithReturns {α : Type} :
    Except Refusal (α × List Char) → Except Refusal (α × List Char)
  | .error e => .error e.withReturns
  | .ok read => .ok (restWithReturns read)

section arguments

variable {cs rest : List Char} {n m : Nat}

theorem afterLiteral_withReturns (standing : Refusal) (start : List Char) (l : Lexeme) :
    afterLiteral standing.withReturns (returnsInside start) l =
      (afterLiteral standing start l).withReturns := by
  cases l <;> rfl

theorem skipSpace_suffix (cs : List Char) : skipSpace cs <:+ cs := List.dropWhile_suffix _

theorem skipLayout_suffix (cs : List Char) : skipLayout cs <:+ cs := List.dropWhile_suffix _

theorem literal?_suffix {l : Lexeme} (read : literal? cs = some (l, rest)) : rest <:+ cs := by
  obtain ⟨t, rfl, -⟩ := literal?_sound read
  exact List.suffix_append t rest

-- The text with returns is the longer one, so each text has a bound on the rounds of its own.
theorem moreArgs_withReturns (standing : Refusal) (enough : cs.length < n)
    (enough' : (withReturns cs).length < m) :
    moreArgs m standing.withReturns (withReturns cs) =
      outcomeWithReturns (moreArgs n standing cs) := by
  induction n generalizing m standing cs with
  | zero => exact absurd enough (Nat.not_lt_zero _)
  | succ n ih =>
    obtain ⟨m, rfl⟩ := Nat.exists_eq_add_one.2 (Nat.zero_lt_of_lt enough')
    simp only [moreArgs, skipSpace_withReturns]
    have suffix := skipSpace_suffix cs
    generalize skipSpace cs = start at suffix
    cases start with
    | nil => rfl
    | cons c start =>
      by_cases close : c = ')'
      · subst close
        rfl
      · by_cases comma : c = ','
        · subst comma
          simp only [returnsInside_cons, skipSpace_withReturns, literal?_returnsInside]
          cases isLiteral : literal? (skipSpace start) with
          | none => rfl
          | some read =>
            have left : Left cs read.2 := (left_of_suffix_cons suffix).trans_suffix
              ((literal?_suffix isLiteral).trans (skipSpace_suffix start))
            have further := ih (afterLiteral standing (skipSpace start) read.1)
              (left.enough enough) (left.withReturns.enough enough')
            simp only [Option.map_some, restWithReturns, afterLiteral_withReturns, further]
            cases moreArgs n (afterLiteral standing (skipSpace start) read.1) read.2 <;> rfl
        · simp [close, comma, outcomeWithReturns]

theorem args_withReturns (standing : Refusal) (cs : List Char) :
    args standing.withReturns (withReturns cs) = outcomeWithReturns (args standing cs) := by
  simp only [args, skipSpace_withReturns, literal?_returnsInside]
  cases literal? (skipSpace cs) with
  | none =>
    cases skipSpace cs with
    | nil => rfl
    | cons c start =>
      by_cases close : c = ')'
      · subst close
        rfl
      · simp [close, outcomeWithReturns, Refusal.withReturns]
  | some read =>
    have further := moreArgs_withReturns (afterLiteral standing (skipSpace cs) read.1)
      (Nat.lt_succ_self read.2.length) (Nat.lt_succ_self (withReturns read.2).length)
    simp only [Option.map_some, restWithReturns, afterLiteral_withReturns, further]
    cases moreArgs _ (afterLiteral standing (skipSpace cs) read.1) read.2 <;> rfl

theorem call_withReturns (stop : Stops (· = '\n') cs) :
    call (withReturns cs) = outcomeWithReturns (call cs) := by
  have standing (expected : List Expected) :
      (⟨withReturns cs, expected⟩ : Refusal) = Refusal.withReturns ⟨cs, expected⟩ := by
    rw [Refusal.withReturns, returnsInside_eq stop]
  simp only [call, name?_withReturns, standing]
  cases name? cs with
  | none => rfl
  | some read =>
    simp only [Option.map_some, restWithReturns, skipSpace_withReturns]
    cases skipSpace read.2 with
    | nil => rfl
    | cons c rest =>
      by_cases isOpen : c = '('
      · subst isOpen
        simp only [returnsInside_cons, args_withReturns]
        cases args ⟨cs, [.call]⟩ rest <;> rfl
      · simp [isOpen, outcomeWithReturns]

end arguments

section refusals

variable {standing e : Refusal} {cs rest : List Char} {n : Nat} {role : Role}

-- A refusal never stands before the text that was given, unless it stood there already.
theorem moreArgs_refused (refused : moreArgs n standing cs = .error e) :
    e = standing ∨ e.rest <:+ cs := by
  induction n generalizing standing cs with
  | zero => exact .inl (Except.error.inj refused).symm
  | succ n ih =>
    simp only [moreArgs] at refused
    split at refused
    · cases refused
    · next tail comma =>
      have suffix : skipSpace tail <:+ cs :=
        (skipSpace_suffix tail).trans
          ((List.suffix_cons ',' tail).trans (comma ▸ skipSpace_suffix cs))
      split at refused
      · obtain rfl := Except.error.inj refused
        exact .inr suffix
      · next l rest isLiteral =>
        split at refused
        · next e' isRefused =>
          obtain rfl := Except.error.inj refused
          rcases ih isRefused with rfl | further
          · cases l with
            | float _ => exact .inl rfl
            | int _ | bool _ | str _ => exact .inr suffix
          · exact .inr (further.trans ((literal?_suffix isLiteral).trans suffix))
        · cases refused
    · exact .inl (Except.error.inj refused).symm

theorem args_refused (refused : args standing cs = .error e) : e = standing ∨ e.rest <:+ cs := by
  simp only [args] at refused
  split at refused
  · split at refused
    · cases refused
    · obtain rfl := Except.error.inj refused
      exact .inr (skipSpace_suffix cs)
  · next l rest isLiteral =>
    split at refused
    · next e' isRefused =>
      obtain rfl := Except.error.inj refused
      rcases moreArgs_refused isRefused with rfl | further
      · cases l with
        | float _ => exact .inl rfl
        | int _ | bool _ | str _ => exact .inr (skipSpace_suffix cs)
      · exact .inr (further.trans ((literal?_suffix isLiteral).trans (skipSpace_suffix cs)))
    · cases refused

theorem call_refused (refused : call cs = .error e) : e.rest <:+ cs := by
  simp only [call] at refused
  split at refused
  · obtain rfl := Except.error.inj refused
    exact List.suffix_refl cs
  · next w tail isName =>
    obtain ⟨text, -, -⟩ := name?_sound isName
    split at refused
    · next inner isOpen =>
      split at refused
      · next e' isRefused =>
        obtain rfl := Except.error.inj refused
        rcases args_refused isRefused with rfl | further
        · exact List.suffix_refl cs
        · have inside : inner <:+ tail :=
            (List.suffix_cons '(' inner).trans (isOpen ▸ skipSpace_suffix tail)
          exact further.trans (inside.trans (text ▸ List.suffix_append w tail))
      · cases refused
    · obtain rfl := Except.error.inj refused
      exact List.suffix_refl cs

theorem call_left {c : RawCall} (read : call cs = .ok (c, rest)) : Left cs rest := by
  obtain ⟨t, rfl, text⟩ := call_sound read
  exact ⟨t, List.ne_nil_of_length_pos text.length_pos, rfl⟩

theorem keyword?_suffix {w : List Char} (read : keyword? w cs = some rest) : rest <:+ cs := by
  obtain ⟨rfl, -⟩ := keyword?_sound read
  exact List.suffix_append w rest

theorem map_cons_eq_error_iff {α ε : Type} {x : Except ε (List α)} {a : α} {e : ε} :
    x.map (a :: ·) = .error e ↔ x = .error e := by
  cases x <;> simp [Except.map]

theorem moreFilters_refused (refused : moreFilters n cs = .error e) : e.rest <:+ cs := by
  induction n generalizing cs with
  | zero => exact Except.error.inj refused ▸ List.suffix_refl cs
  | succ n ih =>
    simp only [moreFilters] at refused
    split at refused
    · next tail isAnd =>
      have suffix : skipLayout tail <:+ cs :=
        (skipLayout_suffix tail).trans ((keyword?_suffix isAnd).trans (skipLayout_suffix cs))
      split at refused
      · next isRefused =>
        obtain rfl := Except.error.inj refused
        exact (call_refused isRefused).trans suffix
      · next c rest isCall =>
        have further := ih (map_cons_eq_error_iff.1 refused)
        exact further.trans ((call_left isCall).suffix.trans suffix)
    · split at refused
      · cases refused
      · obtain rfl := Except.error.inj refused
        exact skipLayout_suffix cs

theorem orEnd_rest (cs : List Char) (e : Refusal) : (orEnd cs e).rest = e.rest := by
  unfold orEnd
  split <;> rfl

theorem moreActions_refused (refused : moreActions n cs = .error e) : e.rest <:+ cs := by
  induction n generalizing cs with
  | zero => exact Except.error.inj refused ▸ List.suffix_refl cs
  | succ n ih =>
    simp only [moreActions] at refused
    split at refused
    · cases refused
    · next tail line =>
      have suffix : skipLayout tail <:+ cs := (skipLayout_suffix tail).trans
        ((List.suffix_cons '\n' tail).trans (line ▸ skipSpace_suffix cs))
      split at refused
      · cases refused
      · split at refused
        · next isRefused =>
          obtain rfl := Except.error.inj refused
          rw [orEnd_rest]
          exact (call_refused isRefused).trans suffix
        · next c rest isCall =>
          have further := ih (map_cons_eq_error_iff.1 refused)
          exact further.trans ((call_left isCall).suffix.trans suffix)
    · obtain rfl := Except.error.inj refused
      exact skipSpace_suffix cs

theorem calls_refused (refused : calls role cs = .error e) : e.rest <:+ skipLayout cs := by
  simp only [calls] at refused
  split at refused
  · cases refused
  · split at refused
    · next isRefused =>
      obtain rfl := Except.error.inj refused
      rw [orEnd_rest]
      exact call_refused isRefused
    · next c rest isCall =>
      have isMore := map_cons_eq_error_iff.1 refused
      have further : e.rest <:+ rest := by
        cases role with
        | filter => exact moreFilters_refused isMore
        | action => exact moreActions_refused isMore
      exact further.trans (call_left isCall).suffix

end refusals

section texts

variable {cs start : List Char} {e : Refusal} {n m : Nat}

theorem stops_skipLayout (cs : List Char) : Stops (· = '\n') (skipLayout cs) := by
  apply Stops.mono _ (stops_dropWhile cs)
  intro c feed
  rw [of_decide_eq_true feed]
  rfl

theorem isEmpty_withReturns (cs : List Char) : (withReturns cs).isEmpty = cs.isEmpty := by
  cases cs using feedCases with
  | nil => rfl
  | feed cs => rfl
  | other c cs other => rw [withReturns_cons other, List.isEmpty_cons, List.isEmpty_cons]

theorem orEnd_withReturns (suffix : e.rest <:+ start) (stop : Stops (· = '\n') start) :
    orEnd (withReturns start) e.withReturns = (orEnd start e).withReturns := by
  unfold orEnd
  rcases eq_or_left suffix with same | left
  · rw [if_pos (by rw [Refusal.withReturns, same, returnsInside_eq stop]), if_pos (by rw [same])]
    rfl
  · have before : e.withReturns.rest.length < (withReturns start).length :=
      left.length_returnsInside_lt
    rw [if_neg before.ne, if_neg left.length_lt.ne]

theorem asWhole_withReturns (role : Role) (suffix : e.rest <:+ skipLayout cs) :
    asWhole role (withReturns cs) e.withReturns = (asWhole role cs e).withReturns := by
  unfold asWhole
  rcases eq_or_left (suffix.trans (skipLayout_suffix cs)) with same | left
  · -- Nothing was skipped, so the text does not start with a line feed.
    have all : skipLayout cs = cs :=
      (skipLayout_suffix cs).eq_of_length_le (same ▸ suffix.length_le)
    have inside : returnsInside cs = withReturns cs :=
      returnsInside_eq (all ▸ stops_skipLayout cs)
    rw [if_pos (by rw [Refusal.withReturns, same, inside]), if_pos (by rw [same]),
      Refusal.withReturns, inside]
  · have before : e.withReturns.rest.length < (withReturns cs).length :=
      left.length_returnsInside_lt
    rw [if_neg before.ne, if_neg left.length_lt.ne]

theorem mapError_map_cons {α ε ε' : Type} (f : ε → ε') (x : Except ε (List α)) (a : α) :
    (x.map (a :: ·)).mapError f = (x.mapError f).map (a :: ·) := by
  cases x <;> rfl

theorem moreFilters_withReturns (enough : cs.length < n) (enough' : (withReturns cs).length < m) :
    moreFilters m (withReturns cs) = (moreFilters n cs).mapError Refusal.withReturns := by
  induction n generalizing m cs with
  | zero => exact absurd enough (Nat.not_lt_zero _)
  | succ n ih =>
    obtain ⟨m, rfl⟩ := Nat.exists_eq_add_one.2 (Nat.zero_lt_of_lt enough')
    simp only [moreFilters, skipLayout_withReturns, keyword?_withReturns, isEmpty_withReturns]
    cases isAnd : keyword? "and".toList (skipLayout cs) with
    | none =>
      rw [← returnsInside_eq (stops_skipLayout cs)]
      simp only [Option.map_none]
      split <;> rfl
    | some tail =>
      simp only [Option.map_some, skipLayout_withReturns,
        call_withReturns (stops_skipLayout tail)]
      cases isCall : call (skipLayout tail) with
      | error e => rfl
      | ok read =>
        have left : Left cs read.2 := (call_left isCall).of_suffix
          ((skipLayout_suffix tail).trans ((keyword?_suffix isAnd).trans (skipLayout_suffix cs)))
        simp only [outcomeWithReturns, restWithReturns, mapError_map_cons,
          ih (left.enough enough) (left.withReturns.enough enough')]

theorem moreActions_withReturns (enough : cs.length < n) (enough' : (withReturns cs).length < m) :
    moreActions m (withReturns cs) = (moreActions n cs).mapError Refusal.withReturns := by
  induction n generalizing m cs with
  | zero => exact absurd enough (Nat.not_lt_zero _)
  | succ n ih =>
    obtain ⟨m, rfl⟩ := Nat.exists_eq_add_one.2 (Nat.zero_lt_of_lt enough')
    simp only [moreActions, skipSpace_withReturns]
    have suffix := skipSpace_suffix cs
    generalize skipSpace cs = line at suffix
    cases line using feedCases with
    | nil => rfl
    | feed tail =>
      -- The return has been skipped; further lines are skipped up to a call.
      have stop := stops_skipLayout tail
      simp only [returnsInside_cons, skipLayout_withReturns, isEmpty_withReturns,
        call_withReturns stop]
      split
      · rfl
      · cases isCall : call (skipLayout tail) with
        | error e =>
          exact congrArg Except.error (orEnd_withReturns (call_refused isCall) stop)
        | ok read =>
          have left : Left cs read.2 := (call_left isCall).of_suffix
            ((skipLayout_suffix tail).trans ((List.suffix_cons '\n' tail).trans suffix))
          simp only [outcomeWithReturns, restWithReturns, mapError_map_cons,
            ih (left.enough enough) (left.withReturns.enough enough')]
    | other c tail other =>
      simp [other, Except.mapError, Refusal.withReturns]

theorem more_withReturns (role : Role) (cs : List Char) :
    more role (withReturns cs) = (more role cs).mapError Refusal.withReturns := by
  cases role with
  | filter => exact moreFilters_withReturns (Nat.lt_succ_self _) (Nat.lt_succ_self _)
  | action => exact moreActions_withReturns (Nat.lt_succ_self _) (Nat.lt_succ_self _)

theorem calls_withReturns (role : Role) (cs : List Char) :
    calls role (withReturns cs) = (calls role cs).mapError Refusal.withReturns := by
  have stop := stops_skipLayout cs
  simp only [calls, skipLayout_withReturns, isEmpty_withReturns, call_withReturns stop]
  split
  · rfl
  · cases isCall : call (skipLayout cs) with
    | error e => exact congrArg Except.error (orEnd_withReturns (call_refused isCall) stop)
    | ok read =>
      simp only [outcomeWithReturns, restWithReturns, more_withReturns, mapError_map_cons]

end texts

section tokens

variable {cs rest : List Char} {n m : Nat}

def pointDigits? (cs : List Char) : Option (List Char) :=
  match digits cs with
  | ([], '.' :: rest) =>
    match digits rest with
    | ([], _) => none
    | (_, rest) => some rest
  | (_ :: _, '.' :: rest) => some (digits rest).2
  | _ => none

def numberEnd? (cs : List Char) : Option (List Char) :=
  let rest := match exponent? cs with
    | some (_, rest) => rest
    | none => cs
  if startsWord rest then none else some rest

theorem pointNumber?_eq (cs : List Char) : pointNumber? cs = (pointDigits? cs).bind numberEnd? := by
  simp only [pointNumber?]
  split
  · next nothing =>
    have noPoint : pointDigits? cs = none := nothing
    rw [noPoint, Option.bind_none]
  · next rest digitsRead =>
    have point : pointDigits? cs = some rest := digitsRead
    rw [point, Option.bind_some]
    rfl

theorem pointDigits?_withReturns (cs : List Char) :
    pointDigits? (withReturns cs) = (pointDigits? cs).map withReturns := by
  simp only [pointDigits?, digits_withReturns, restWithReturns]
  obtain ⟨ds, rest⟩ := digits cs
  cases rest using feedCases with
  | nil => cases ds <;> rfl
  | feed rest => cases ds <;> rfl
  | other c rest other =>
    rw [withReturns_cons other]
    by_cases point : c = '.'
    · subst point
      cases ds with
      | nil =>
        simp only [digits_withReturns, restWithReturns]
        obtain ⟨fs, rest⟩ := digits rest
        cases fs <;> rfl
      | cons d ds => simp only [digits_withReturns, restWithReturns, Option.map_some]
    · simp [point]

theorem numberEnd?_withReturns (cs : List Char) :
    numberEnd? (withReturns cs) = (numberEnd? cs).map withReturns := by
  simp only [numberEnd?, exponent?_withReturns]
  cases exponent? cs with
  | none =>
    simp only [Option.map_none, startsWord_withReturns]
    split <;> rfl
  | some read =>
    simp only [Option.map_some, restWithReturns, startsWord_withReturns]
    split <;> rfl

theorem pointNumber?_withReturns (cs : List Char) :
    pointNumber? (withReturns cs) = (pointNumber? cs).map withReturns := by
  rw [pointNumber?_eq, pointNumber?_eq, pointDigits?_withReturns]
  cases pointDigits? cs with
  | none => rfl
  | some rest => exact numberEnd?_withReturns rest

theorem number?_withReturns (cs : List Char) :
    number? (withReturns cs) = (number? cs).map withReturns := by
  simp only [number?, pointNumber?_withReturns, float?_withReturns, int?_withReturns,
    Option.orElse_eq_orElse, Option.orElse_eq_or, Option.map_or, Option.map_map]
  rfl

theorem startsNumber_returnsInside (cs : List Char) :
    startsNumber (returnsInside cs) = startsNumber cs := by
  cases cs with
  | nil => rfl
  | cons c cs =>
    rw [returnsInside_cons]
    by_cases point : c = '.'
    · subst point
      cases cs using feedCases with
      | nil => rfl
      | feed cs => rfl
      | other d cs other => rw [withReturns_cons other]; rfl
    · simp [startsNumber, point]

theorem startsPair_returnsInside (cs : List Char) :
    startsPair (returnsInside cs) = startsPair cs := by
  cases cs with
  | nil => rfl
  | cons c cs =>
    rw [returnsInside_cons]
    cases cs using feedCases with
    | nil => rfl
    | feed cs => simp [startsPair, pairOperators]
    | other d cs other => rw [withReturns_cons other]; rfl

theorem stops_of_startsNumber (starts : startsNumber cs) : Stops (· = '\n') cs := by
  cases cs using feedCases with
  | nil => exact stops_nil
  | feed cs => cases starts
  | other c cs other => exact stops_cons.2 (decide_eq_false other)

theorem not_feed_of_pair {a b : Char} (pair : (a, b) ∈ pairOperators) : b ≠ '\n' := by
  have noFeed : ∀ p ∈ pairOperators, p.2 ≠ '\n' := by decide
  exact noFeed _ pair

theorem token?_returnsInside (cs : List Char) :
    token? (returnsInside cs) = (token? cs).map restWithReturns := by
  simp only [token?, read_returnsInside word?_withReturns (fun _ => rfl),
    read_returnsInside str?_withReturns (fun _ => rfl), startsNumber_returnsInside,
    startsPair_returnsInside]
  cases word? cs with
  | some read => rfl
  | none =>
    simp only [Option.map_none]
    split
    · next starts =>
      rw [returnsInside_eq (stops_of_startsNumber starts), number?_withReturns]
      cases number? cs <;> rfl
    · split
      · next pair =>
        obtain ⟨a, b, tail, rfl, member⟩ := exists_pair pair
        rw [returnsInside_cons, withReturns_cons (not_feed_of_pair member)]
        rfl
      · cases str? cs with
        | some read => rfl
        | none =>
          cases cs with
          | nil => rfl
          | cons c cs =>
            rw [returnsInside_cons]
            cases isMark : mark? c <;> simp [isMark]

theorem digits_suffix (cs : List Char) : (digits cs).2 <:+ cs := List.dropWhile_suffix _

theorem left_of_pointDigits (read : pointDigits? cs = some rest) : Left cs rest := by
  have suffix := digits_suffix cs
  simp only [pointDigits?] at read
  split at read
  · next tail isDigits =>
    rw [isDigits] at suffix
    have fraction := digits_suffix tail
    split at read
    · cases read
    · next isFraction =>
      obtain rfl := Option.some.inj read
      rw [isFraction] at fraction
      exact (left_of_suffix_cons suffix).trans_suffix fraction
  · next tail isDigits =>
    rw [isDigits] at suffix
    obtain rfl := Option.some.inj read
    exact (left_of_suffix_cons suffix).trans_suffix (digits_suffix tail)
  · cases read

theorem numberEnd?_suffix (read : numberEnd? cs = some rest) : rest <:+ cs := by
  simp only [numberEnd?, Option.ite_none_left_eq_some] at read
  obtain ⟨-, same⟩ := read
  obtain rfl := Option.some.inj same
  split
  · next isExponent =>
    obtain ⟨rfl, -⟩ := exponent?_sound isExponent
    exact List.suffix_append _ _
  · exact List.suffix_refl cs

theorem left_of_spelling {l : Lexeme} (spelled : ∃ t, cs = t ++ rest ∧ LexemeText l t) :
    Left cs rest := by
  obtain ⟨t, rfl, text⟩ := spelled
  obtain ⟨c, t, rfl, -⟩ := text.exists_start
  exact ⟨c :: t, by simp, rfl⟩

theorem left_of_number (read : number? cs = some rest) : Left cs rest := by
  simp only [number?, pointNumber?_eq, Option.orElse_eq_orElse, Option.orElse_eq_or,
    Option.or_eq_some_iff, Option.map_eq_some_iff, Option.bind_eq_some_iff] at read
  rcases read with ⟨mid, point, ends⟩ | ⟨-, ⟨r, float, rfl⟩ | ⟨-, r, int, rfl⟩⟩
  · exact (left_of_pointDigits point).trans_suffix (numberEnd?_suffix ends)
  · exact left_of_spelling (float?_sound float)
  · exact left_of_spelling (int?_sound int)

theorem left_of_token {t : Token} (read : token? cs = some (t, rest)) : Left cs rest := by
  cases readFrom_of_token read with
  | word isWord =>
    obtain ⟨rfl, word, -⟩ := word?_sound isWord
    cases word with
    | mk _ _ => exact ⟨_, List.cons_ne_nil _ _, rfl⟩
  | number isNumber _ => exact left_of_number isNumber
  | @pair a b _ same => exact same ▸ ⟨[a, b], by simp, rfl⟩
  | str isString => exact left_of_spelling (str?_sound isString)
  | @mark c _ _ _ same => exact same ▸ left_cons c rest

theorem tokensUpTo_withReturns (enough : cs.length < n) (enough' : (withReturns cs).length < m) :
    tokensUpTo m (withReturns cs) = tokensUpTo n cs := by
  induction n generalizing m cs with
  | zero => exact absurd enough (Nat.not_lt_zero _)
  | succ n ih =>
    obtain ⟨m, rfl⟩ := Nat.exists_eq_add_one.2 (Nat.zero_lt_of_lt enough')
    simp only [tokensUpTo, skipSpace_withReturns]
    have suffix := skipSpace_suffix cs
    generalize skipSpace cs = start at suffix
    cases start with
    | nil => rfl
    | cons c start =>
      have token := token?_returnsInside (c :: start)
      rw [returnsInside_cons] at token
      simp only [returnsInside_cons, token]
      cases isToken : token? (c :: start) with
      | none => rfl
      | some read =>
        have left : Left cs read.2 := (left_of_token isToken).of_suffix suffix
        simp only [Option.map_some, restWithReturns,
          ih (left.enough enough) (left.withReturns.enough enough')]

theorem mentions?_withReturns (cs : List Char) : mentions? (withReturns cs) = mentions? cs := by
  have same : tokens? (withReturns cs) = tokens? cs :=
    tokensUpTo_withReturns (Nat.lt_succ_self _) (Nat.lt_succ_self _)
  rw [mentions?, mentions?, same]

end tokens

end Grammar

open Grammar

def sourceWithReturns (source : String) : String :=
  String.ofList (Grammar.withReturns source.toList)

def ReadError.withReturns : ReadError → ReadError
  | .refused source refusal => .refused (Grammar.withReturns source) refusal.withReturns
  | .literal invalid => .literal invalid

theorem Expression.read_withReturns (role : Role) (source : String) :
    Expression.read role (sourceWithReturns source) =
      (Expression.read role source).mapError ReadError.withReturns := by
  simp only [Expression.read, sourceWithReturns, String.toList_ofList, calls_withReturns]
  cases isRead : Grammar.calls role source.toList with
  | error e =>
    simp only [Except.mapError, asWhole_withReturns role (calls_refused isRead),
      ReadError.withReturns]
  | ok raw =>
    simp only [Except.mapError]
    cases raw.mapM RawCall.value <;> rfl

/-- A return before each line feed changes no reading and no error but for its place, and the same
names are mentioned. -/
theorem read_line_ends (source : String) :
    (∀ role, Expression.read role (sourceWithReturns source) =
      (Expression.read role source).mapError ReadError.withReturns) ∧
    mentionedNames? (sourceWithReturns source) = mentionedNames? source := by
  refine ⟨fun role => Expression.read_withReturns role source, ?_⟩
  rw [mentionedNames?, mentionedNames?, sourceWithReturns, String.toList_ofList,
    mentions?_withReturns]

example :
    sourceWithReturns "a(\n1)\nb()" = "a(\r\n1)\r\nb()" ∧
      mentionedNames? "a(\r\n1)\r\nb()" = some ["a", "b"] := by
  decide +kernel

end ViewQuery
