import ViewQuery.Proofs.Sql.Reading

set_option autoImplicit false

namespace ViewQuery.Sql

namespace Token

-- The loosest binding of an expression that the token continues.
def joins : Token → Option Binding
  | .dot => some .atom
  | .comparison _ | .word .IN | .word .LIKE | .word .ILIKE | .word .IS => some .predicate
  | .word .AND => some .and
  | .word .OR => some .or
  | _ => none

def Stops (b : Binding) (ts : List Token) : Prop :=
  ∀ t ∈ ts.head?, ∀ b' ∈ t.joins, b'.level < b.level

variable {b b' : Binding} {t : Token} {ts : List Token}

theorem Stops.tighten (stops : Stops b ts) (tighter : b.level ≤ b'.level) : Stops b' ts :=
  fun t first b₁ joins => (stops t first b₁ joins).trans_le tighter

theorem stops_nil : Stops b [] := fun _ first => nomatch first

theorem stops_cons : Stops b (t :: ts) ↔ ∀ b' ∈ t.joins, b'.level < b.level := by
  simp [Stops]

end Token

open Token (Stops stops_nil stops_cons)

namespace Reader

variable {α : Type} {ends : List Token → Prop} {separator : Token} {ts ts' : List Token}

/-- The tokens are read in full if they end where what follows allows it. -/
structure Reads (r : Reader α) (ends : List Token → Prop) (ts : List Token) (a : α) : Prop where
  ne_nil : ts ≠ []
  takes : ∀ rest, ends rest → r (ts ++ rest) = some (a, rest)

inductive Chained (r : Reader α) (ends : List Token → Prop) (separator : Token) :
    List Token → List α → Prop
  | one {ts : List Token} {a : α} : Reads r ends ts a → Chained r ends separator ts [a]
  | more {ts ts' : List Token} {a : α} {as : List α} :
    Reads r ends ts a → Chained r ends separator ts' as →
      Chained r ends separator (ts ++ separator :: ts') (a :: as)

namespace Chained

variable {r : Reader α} {as as' : List α}

theorem append (front : Chained r ends separator ts as) (back : Chained r ends separator ts' as') :
    Chained r ends separator (ts ++ separator :: ts') (as ++ as') := by
  induction front with
  | one reads => exact .more reads back
  | more reads _ ih =>
    rw [List.append_assoc, List.cons_append]
    exact .more reads ih

theorem join {β : Type} {tokens : β → List Token} {parts : β → List α} (x : β) (xs : List β)
    (each : ∀ y ∈ x :: xs, Chained r ends separator (tokens y) (parts y)) :
    Chained r ends separator ([separator].intercalate ((x :: xs).map tokens))
      ((x :: xs).flatMap parts) := by
  induction xs generalizing x with
  | nil => simpa using each x (by simp)
  | cons y xs ih =>
    obtain ⟨first, others⟩ := List.forall_mem_cons.1 each
    simpa [List.intercalate_cons_cons] using first.append (ih y others)

theorem ofReads {β : Type} {tokens : β → List Token} {f : β → α} (x : β) (xs : List β)
    (each : ∀ y ∈ x :: xs, Reads r ends (tokens y) (f y)) :
    Chained r ends separator ([separator].intercalate ((x :: xs).map tokens))
      ((x :: xs).map f) := by
  rw [List.map_eq_flatMap (f := f)]
  exact join x xs fun y member => .one (each y member)

theorem length_le (chained : Chained r ends separator ts as) : as.length ≤ ts.length := by
  induction chained with
  | one reads => exact List.length_pos_iff.2 reads.ne_nil
  | more reads _ ih =>
    have := List.length_pos_iff.2 reads.ne_nil
    simp only [List.length_append, List.length_cons]
    omega

theorem ne_nil (chained : Chained r ends separator ts as) : ts ≠ [] := by
  cases chained with
  | one reads => exact reads.ne_nil
  | more reads _ => simp

theorem separated (chained : Chained r ends separator ts as)
    (apart : ∀ rest, ends (separator :: rest)) (n : Nat) (enough : as.length ≤ n)
    (rest : List Token) (stops : ends rest)
    (last : rest.head? ≠ some separator) :
    separated separator r n (ts ++ rest) = some (as, rest) := by
  induction chained generalizing n with
  | @one ts a reads =>
    obtain ⟨n, rfl⟩ : ∃ m, n = m + 1 := ⟨n - 1, by simp at enough; omega⟩
    have part := reads.takes rest stops
    have noMore : accept separator rest = some (false, rest) := by
      cases rest with
      | nil => rfl
      | cons t rest => exact if_neg (by simpa using last)
    simp [Reader.separated, bind, StateT.bind, part, noMore, pure, StateT.pure]
  | @more ts ts' a as reads _ ih =>
    obtain ⟨n, rfl⟩ : ∃ m, n = m + 1 := ⟨n - 1, by simp at enough; omega⟩
    have part := reads.takes (separator :: (ts' ++ rest)) (apart _)
    have others := ih n (by simpa using enough)
    have next : accept separator (separator :: (ts' ++ rest)) = some (true, ts' ++ rest) :=
      if_pos rfl
    simp [Reader.separated, bind, StateT.bind, part, next, others, pure, StateT.pure]

end Chained

section levels

variable {fuel : Nat} {inner : Reader Expr} {b : Binding} {e l r : Expr}

theorem reads_column (c : Column) : Reads (operand inner) (Stops .atom) c.tokens (.column c) := by
  obtain ⟨table, name⟩ := c
  cases table with
  | some t => exact ⟨by simp [Column.tokens], fun rest _ => rfl⟩
  | none =>
    refine ⟨by simp [Column.tokens], fun rest stops => ?_⟩
    change operand inner (.name name :: rest) = _
    rw [operand]
    rintro c ts rfl
    exact absurd (stops_cons.1 stops .atom rfl) (by decide)

theorem reads_bracketed (reads : Reads inner (Stops .or) ts e) :
    Reads (operand inner) (Stops .atom) (bracketed ts) e := by
  refine ⟨by simp [bracketed], fun rest _ => ?_⟩
  have inside := reads.takes (.closing :: rest) (stops_cons.2 (by simp [Token.joins]))
  simp [bracketed, operand, inside]

theorem predicateOf_stops {rest : List Token} (stops : Stops .predicate rest) :
    predicateOf fuel inner e rest = some (e, rest) := by
  cases rest with
  | nil => rfl
  | cons t rest =>
    rw [predicateOf]
    all_goals
      intros
      simp_all [stops_cons, Token.joins]

theorem bind_some {α β : Type} {r : Reader α} {f : α → Reader β} {ts rest : List Token} {a : α}
    (reads : r ts = some (a, rest)) : (r >>= f) ts = f a rest := by
  simp [bind, StateT.bind, reads]

theorem map_some {α β : Type} {r : Reader α} {f : α → β} {ts rest : List Token} {a : α}
    (reads : r ts = some (a, rest)) : (f <$> r) ts = some (f a, rest) := by
  simp [Functor.map, StateT.map, bind, reads]

theorem reads_predicateOf {x : Expr} (operand : Reads (operand inner) (Stops .atom) ts e)
    (apart : ∀ rest, Stops .predicate rest → Stops .atom (ts' ++ rest))
    (said : ∀ rest, Stops .predicate rest →
      predicateOf fuel inner e (ts' ++ rest) = some (x, rest)) :
    Reads (predicate fuel inner) (Stops .predicate) (ts ++ ts') x := by
  refine ⟨by simp [operand.ne_nil], fun rest stops => ?_⟩
  rw [List.append_assoc, predicate, bind_some (operand.takes _ (apart rest stops)), said rest stops]

theorem reads_predicate (operand : Reads (operand inner) (Stops .atom) ts e) :
    Reads (predicate fuel inner) (Stops .predicate) ts e := by
  have apart : ∀ rest, Stops .predicate rest → Stops .atom ([] ++ rest) :=
    fun rest stops => stops.tighten (by decide)
  simpa using reads_predicateOf operand apart fun rest stops => predicateOf_stops stops

theorem reads_compare (op : Comparison) (left : Reads (operand inner) (Stops .atom) ts l)
    (right : Reads (operand inner) (Stops .atom) ts' r) :
    Reads (predicate fuel inner) (Stops .predicate) (ts ++ .comparison op :: ts')
      (.compare op l r) := by
  refine reads_predicateOf left (fun rest _ => stops_cons.2 ?_) ?_
  · simp [Token.joins, Binding.level]
  intro rest stops
  exact map_some (right.takes rest (stops.tighten (by decide)))

theorem reads_like (ignoreCase : Bool) (left : Reads (operand inner) (Stops .atom) ts l)
    (right : Reads (operand inner) (Stops .atom) ts' r) :
    Reads (predicate fuel inner) (Stops .predicate)
      (ts ++ .word (if ignoreCase then .ILIKE else .LIKE) :: ts') (.like l r ignoreCase) := by
  refine reads_predicateOf left (fun rest _ => stops_cons.2 ?_) ?_
  · cases ignoreCase <;> simp [Token.joins, Binding.level]
  · intro rest stops
    have pattern := right.takes rest (stops.tighten (by decide))
    cases ignoreCase with
    | true => exact map_some pattern
    | false => exact map_some pattern

theorem reads_isNull (operand : Reads (operand inner) (Stops .atom) ts e) :
    Reads (predicate fuel inner) (Stops .predicate) (ts ++ [.word .IS, .word .NULL]) (.isNull e) :=
  reads_predicateOf operand (fun rest _ => stops_cons.2 (by simp [Token.joins, Binding.level]))
    fun rest _ => rfl

theorem reads_inList {es : List Expr} (operand : Reads (operand inner) (Stops .atom) ts e)
    (list : ∀ rest, items fuel inner (ts' ++ .closing :: rest) = some (es, rest)) :
    Reads (predicate fuel inner) (Stops .predicate) (ts ++ .word .IN :: bracketed ts')
      (.inList e es) := by
  refine reads_predicateOf operand (fun rest _ => stops_cons.2 ?_) ?_
  · simp [Token.joins, Binding.level]
  intro rest stops
  have inside := map_some (f := Expr.inList e) (list rest)
  simpa [bracketed, predicateOf] using inside

theorem items_listed {es : List Expr} (chained : Chained inner (Stops .or) .comma ts es)
    (enough : ts.length ≤ fuel) (first : ts.head? ≠ some .closing) (rest : List Token) :
    items fuel inner (ts ++ .closing :: rest) = some (es, rest) := by
  have list := chained.separated (fun _ => stops_cons.2 (by simp [Token.joins])) fuel
    (chained.length_le.trans enough) (.closing :: rest) (stops_cons.2 (by simp [Token.joins]))
    (by simp)
  obtain ⟨t, ts, rfl⟩ := List.exists_cons_of_ne_nil chained.ne_nil
  rw [List.cons_append] at list ⊢
  rw [items, list]
  intro rest same
  exact first (by simp [(List.cons.inj same).1])

theorem reads_negation (reads : Reads (predicate fuel inner) (Stops .predicate) ts e) :
    Reads (negation fuel inner) (Stops .not) ts e := by
  refine ⟨reads.ne_nil, fun rest stops => ?_⟩
  have taken := reads.takes rest (stops.tighten (by decide))
  obtain ⟨t, ts, rfl⟩ := List.exists_cons_of_ne_nil reads.ne_nil
  by_cases isNot : t = .word .NOT
  · -- No operand starts with the word.
    subst isNot
    cases taken
  · rw [← taken, List.cons_append, negation]
    intro rest same
    exact isNot (List.cons.inj same).1

theorem reads_not (reads : Reads (negation fuel inner) (Stops .not) ts e) :
    Reads (negation fuel inner) (Stops .not) (.word .NOT :: ts) (.not e) := by
  refine ⟨by simp, fun rest stops => ?_⟩
  rw [List.cons_append, negation, reads.takes rest stops]
  rfl

theorem reads_conjunction {es : List Expr}
    (chained : Chained (negation fuel inner) (Stops .not) (.word .AND) ts es)
    (enough : ts.length ≤ fuel) :
    Reads (conjunction fuel inner) (Stops .and) ts (Expr.conjunction es) := by
  refine ⟨chained.ne_nil, fun rest stops => ?_⟩
  have apart : ∀ rest, Stops .not (.word .AND :: rest) :=
    fun _ => stops_cons.2 (by simp [Token.joins, Binding.level])
  have last : rest.head? ≠ some (.word .AND) := by
    intro first
    exact absurd (stops _ first .and rfl) (by decide)
  exact map_some (chained.separated apart fuel (chained.length_le.trans enough) rest
    (stops.tighten (by decide)) last)

theorem reads_disjunction {es : List Expr}
    (chained : Chained (conjunction fuel inner) (Stops .and) (.word .OR) ts es)
    (enough : ts.length ≤ fuel) :
    Reads (disjunction fuel inner) (Stops .or) ts (Expr.disjunction es) := by
  refine ⟨chained.ne_nil, fun rest stops => ?_⟩
  have apart : ∀ rest, Stops .and (.word .OR :: rest) :=
    fun _ => stops_cons.2 (by simp [Token.joins, Binding.level])
  have last : rest.head? ≠ some (.word .OR) := by
    intro first
    exact absurd (stops _ first .or rfl) (by decide)
  exact map_some (chained.separated apart fuel (chained.length_le.trans enough) rest
    (stops.tighten (by decide)) last)

theorem Reads.loosen (reads : Reads (level fuel inner b) (Stops b) ts e) (enough : ts.length ≤ fuel)
    (b' : Binding) (looser : b'.level ≤ b.level) :
    Reads (level fuel inner b') (Stops b') ts e := by
  have predicate (h : Reads (level fuel inner .atom) (Stops .atom) ts e) :
      Reads (level fuel inner .predicate) (Stops .predicate) ts e := reads_predicate h
  have negation (h : Reads (level fuel inner .predicate) (Stops .predicate) ts e) :
      Reads (level fuel inner .not) (Stops .not) ts e := reads_negation h
  have conjunction (h : Reads (level fuel inner .not) (Stops .not) ts e) :
      Reads (level fuel inner .and) (Stops .and) ts e := reads_conjunction (.one h) enough
  have disjunction (h : Reads (level fuel inner .and) (Stops .and) ts e) :
      Reads (level fuel inner .or) (Stops .or) ts e := reads_disjunction (.one h) enough
  cases b <;> cases b' <;> simp [Binding.level] at looser <;> grind

end levels

theorem length_le_intercalate {part : List Token} {parts : List (List Token)}
    (member : part ∈ parts) : part.length ≤ ([separator].intercalate parts).length :=
  (Token.infix_intercalate member).length_le

end Reader

namespace Expr

open Reader

variable {e : Expr} {items : List Expr} {n : Nat}

def Readable (e : Expr) : Prop :=
  ∀ n, e.tokens.length ≤ n →
    (e.binding ≠ .or →
      Chained (negation n (bounded n)) (Stops .not) (.word .AND) e.tokens e.conjuncts) ∧
    Reads (level n (bounded n) e.binding) (Stops e.binding) e.tokens e.normal

theorem Readable.of_apart (apart : e.binding ≠ .and)
    (reads : ∀ n, e.tokens.length ≤ n →
      Reads (level n (bounded n) e.binding) (Stops e.binding) e.tokens e.normal) : Readable e := by
  intro n enough
  refine ⟨fun tight => ?_, reads n enough⟩
  have tighter : Binding.not.level ≤ e.binding.level := by
    cases shape : e.binding <;> simp_all [Binding.level]
  rw [conjuncts_eq_singleton apart]
  exact .one ((reads n enough).loosen enough .not tighter)

theorem Readable.placed (readable : Readable e) (b : Binding)
    (enough : (placedTokens b e e.tokens).length ≤ n) :
    Reads (level n (bounded n) b) (Stops b) (placedTokens b e e.tokens) e.normal := by
  by_cases loose : e.binding.level < b.level
  · rw [placedTokens, if_pos loose] at enough ⊢
    -- The brackets are two tokens, so what is inside can do with less fuel.
    obtain ⟨n, rfl⟩ : ∃ m, n = m + 1 := ⟨n - 1, by simp [bracketed] at enough; omega⟩
    have fits : e.tokens.length ≤ n := by simp [bracketed] at enough; omega
    have inside : Reads (bounded (n + 1)) (Stops .or) e.tokens e.normal :=
      (readable n fits).2.loosen fits .or (Nat.zero_le _)
    have outside : Reads (level (n + 1) (bounded (n + 1)) .atom) (Stops .atom)
        (bracketed e.tokens) e.normal :=
      reads_bracketed inside
    exact outside.loosen enough b (by cases b <;> decide)
  · rw [placedTokens, if_neg loose] at enough ⊢
    exact (readable n enough).2.loosen enough b (by omega)

theorem Readable.chained (readable : Readable e)
    (enough : (placedTokens .and e e.tokens).length ≤ n) :
    Chained (negation n (bounded n)) (Stops .not) (.word .AND) (placedTokens .and e e.tokens)
      e.conjuncts := by
  by_cases loose : e.binding = .or
  · have brackets : placedTokens .and e e.tokens = placedTokens .not e e.tokens := by
      simp [placedTokens, loose, Binding.level]
    rw [brackets] at enough ⊢
    rw [conjuncts_eq_singleton (by simp [loose])]
    exact .one (readable.placed .not enough)
  · have tight : ¬e.binding.level < Binding.and.level := by
      cases shape : e.binding <;> simp_all [Binding.level]
    rw [placedTokens, if_neg tight] at enough ⊢
    exact (readable n enough).1 loose

theorem Readable.congr {e' : Expr} (readable : Readable e) (tokens : e'.tokens = e.tokens)
    (binding : e'.binding = e.binding) (conjuncts : e'.conjuncts = e.conjuncts) : Readable e' := by
  intro n enough
  rw [tokens] at enough
  rw [tokens, binding, conjuncts, normal, conjuncts]
  exact readable n enough

theorem reads_literal (l : Literal) :
    Reads (operand (bounded n)) (Stops .atom) [.literal l] (.literal l) :=
  ⟨by simp, fun _ _ => rfl⟩

theorem readable_and (each : ∀ e ∈ items, Readable e) : Readable (.and items) := by
  match items with
  | [] =>
    refine .of_apart (by simp [binding]) fun n _ => ?_
    rw [tokens]
    exact reads_compare .eq (reads_literal (.int 1)) (reads_literal (.int 1))
  | [e] =>
    have same : (Expr.and [e]).conjuncts = e.conjuncts := by simp [conjuncts, itemsConjuncts]
    exact (each e (by simp)).congr (by rw [tokens]) (by rw [binding]) same
  | e :: e' :: items =>
    have two : 2 ≤ (e :: e' :: items).length := by simp
    intro n enough
    have chained : Chained (negation n (bounded n)) (Stops .not) (.word .AND)
        (Expr.and (e :: e' :: items)).tokens (Expr.and (e :: e' :: items)).conjuncts := by
      rw [tokens_and two] at enough ⊢
      rw [conjuncts_and (by simp)]
      refine .join e (e' :: items) fun i member => (each i member).chained ?_
      exact (length_le_intercalate (List.mem_map_of_mem member)).trans enough
    exact ⟨fun _ => chained, reads_conjunction chained enough⟩

theorem readable_or (each : ∀ e ∈ items, Readable e) : Readable (.or items) := by
  match items with
  | [] =>
    refine .of_apart (by simp [binding]) fun n _ => ?_
    rw [tokens]
    exact reads_compare .eq (reads_literal (.int 1)) (reads_literal (.int 0))
  | [e] => exact (each e (by simp)).congr (by rw [tokens]) (by rw [binding]) (by rw [conjuncts])
  | e :: e' :: items =>
    have two : 2 ≤ (e :: e' :: items).length := by simp
    have parts : (Expr.or (e :: e' :: items)).normal =
        disjunction ((e :: e' :: items).map normal) := by
      rw [normal, conjuncts, normals_eq_map]
      · rfl
      · simp
    refine .of_apart (by simp [binding]) fun n enough => ?_
    rw [tokens_or two] at enough ⊢
    rw [parts]
    refine reads_disjunction (.ofReads e (e' :: items) fun i member => ?_) enough
    have fits := (length_le_intercalate (List.mem_map_of_mem member)).trans enough
    exact ((each i member).placed .not fits).loosen fits .and (by decide)

theorem readable_inList (left : Readable e) (each : ∀ i ∈ items, Readable i) :
    Readable (.inList e items) := by
  refine .of_apart (by simp [binding]) fun n enough => ?_
  rw [tokens, itemsTokens_eq_map] at enough ⊢
  simp only [List.length_append, List.length_cons, bracketed, List.length_nil] at enough
  obtain ⟨n, rfl⟩ : ∃ m, n = m + 1 := ⟨n - 1, by omega⟩
  rw [normal, conjuncts, normals_eq_map]
  refine reads_inList (left.placed .atom (by omega)) fun rest => ?_
  cases items with
  | nil => rfl
  | cons i items =>
    have listFits : ([Token.comma].intercalate
        ((i :: items).map fun i => placedTokens .or i i.tokens)).length ≤ n := by omega
    have written := written_items .or Token.Written.append_comma i items fun i _ => i.written_tokens
    obtain ⟨t, isFirst, hugs⟩ := written.first
    rw [itemsTokens_eq_map] at isFirst
    refine items_listed (.ofReads i items fun i member => ?_) (by omega) ?_ rest
    · have fits := (length_le_intercalate (List.mem_map_of_mem member)).trans listFits
      exact (each i member).placed .or fits
    · intro closing
      rw [isFirst] at closing
      cases closing
      cases hugs

theorem readable (e : Expr) : Readable e := by
  induction e using Expr.induction with
  | null => exact .of_apart (by simp [binding]) fun n _ => ⟨by simp [tokens], fun _ _ => rfl⟩
  | literal l => exact .of_apart (by simp [binding]) fun n _ => reads_literal l
  | column c => exact .of_apart (by simp [binding]) fun n _ => reads_column c
  | compare op l r left right =>
    refine .of_apart (by simp [binding]) fun n enough => ?_
    rw [tokens, List.length_append, List.length_cons] at enough
    rw [tokens]
    exact reads_compare op (left.placed .atom (by omega)) (right.placed .atom (by omega))
  | and items each => exact readable_and each
  | or items each => exact readable_or each
  | not e inner =>
    refine .of_apart (by simp [binding]) fun n enough => ?_
    rw [tokens, List.length_cons] at enough
    rw [tokens]
    have fits : (placedTokens .atom e e.tokens).length ≤ n := by omega
    exact reads_not ((inner.placed .atom fits).loosen fits .not (by decide))
  | inList e items left each => exact readable_inList left each
  | like e p ignoreCase left right =>
    refine .of_apart (by simp [binding]) fun n enough => ?_
    rw [tokens, List.length_append, List.length_cons] at enough
    rw [tokens]
    exact reads_like ignoreCase (left.placed .atom (by omega)) (right.placed .atom (by omega))
  | isNull e inner =>
    refine .of_apart (by simp [binding]) fun n enough => ?_
    rw [tokens, List.length_append] at enough
    rw [tokens]
    exact reads_isNull (inner.placed .atom (by omega))

end Expr

end ViewQuery.Sql
