import ViewQuery.Proofs.Sql.Lexing

set_option autoImplicit false

namespace ViewQuery.Sql

inductive Given where
  | string (value : String)
  | name (name : String)
  deriving DecidableEq

def Given.isQuoted : Given → Bool
  | .string _ => true
  | .name s => !isPlainName s.toList

def Column.given (c : Column) : List Given :=
  match c.table with
  | some t => [.name t, .name c.name]
  | none => [.name c.name]

namespace Expr

mutual

def given : Expr → List Given
  | .null => []
  | .literal (.str s) => [.string s]
  | .literal _ => []
  | .column c => c.given
  | .compare _ l r => l.given ++ r.given
  | .and items => itemsGiven items
  | .or items => itemsGiven items
  | .not e => e.given
  | .inList e items => e.given ++ itemsGiven items
  | .like e p _ => e.given ++ p.given
  | .isNull e => e.given

def itemsGiven : List Expr → List Given
  | [] => []
  | e :: es => e.given ++ itemsGiven es

end

mutual

def masked : Expr → Expr
  | .null => .null
  | .literal (.str _) => .literal (.str "")
  | .literal l => .literal l
  | .column c => .column c
  | .compare op l r => .compare op l.masked r.masked
  | .and items => .and (itemsMasked items)
  | .or items => .or (itemsMasked items)
  | .not e => .not e.masked
  | .inList e items => .inList e.masked (itemsMasked items)
  | .like e p ignoreCase => .like e.masked p.masked ignoreCase
  | .isNull e => .isNull e.masked

def itemsMasked : List Expr → List Expr
  | [] => []
  | e :: es => e.masked :: itemsMasked es

end

theorem itemsGiven_eq_flatMap (items : List Expr) : itemsGiven items = items.flatMap given := by
  induction items with
  | nil => rfl
  | cons e items ih => rw [itemsGiven, ih, List.flatMap_cons]

theorem itemsMasked_eq_map (items : List Expr) : itemsMasked items = items.map masked := by
  induction items with
  | nil => rfl
  | cons e items ih => rw [itemsMasked, ih, List.map_cons]

end Expr

def Projection.given (p : Projection) : List Given := p.expr.given ++ p.label.toList.map .name

def Projection.masked (p : Projection) : Projection := { p with expr := p.expr.masked }

def SortKey.given (k : SortKey) : List Given := k.expr.given

def SortKey.masked (k : SortKey) : SortKey := { k with expr := k.expr.masked }

namespace Select

mutual

def given : Select → List Given
  | ⟨_, projections, source, predicates, sortKeys, _, _⟩ =>
    projections.flatMap Projection.given
      ++ (match source with
        | some s => sourceGiven s
        | none => [])
      ++ predicates.flatMap Expr.given ++ sortKeys.flatMap SortKey.given

def sourceGiven : Source → List Given
  | .table name => [.name name]
  | .subquery q label => q.given ++ [.name label]

end

mutual

def masked : Select → Select
  | ⟨distinct, projections, source, predicates, sortKeys, limit, offset⟩ =>
    ⟨distinct, projections.map Projection.masked,
      (match source with
        | some s => some (sourceMasked s)
        | none => none),
      predicates.map Expr.masked, sortKeys.map SortKey.masked, limit, offset⟩

def sourceMasked : Source → Source
  | .table name => .table name
  | .subquery q label => .subquery q.masked label

end

end Select

namespace Lexeme

def given? : Lexeme → Option Given
  | .string s => some (.string s)
  | .quotedName s => some (.name s)
  | _ => none

def masked : Lexeme → Lexeme
  | .string _ => .string ""
  | l => l

end Lexeme

namespace Token

open Lexer (bareLexeme)

def given? : Token → Option Given
  | .name s => some (.name s)
  | .literal (.str s) => some (.string s)
  | _ => none

def masked : Token → Token
  | .literal (.str _) => .literal (.str "")
  | t => t

section lexemes

@[simp] theorem given?_bareLexeme (cs : List Char) : (bareLexeme cs).given? = none := by
  unfold bareLexeme
  split <;> rfl

@[simp] theorem masked_bareLexeme (cs : List Char) : (bareLexeme cs).masked = bareLexeme cs := by
  unfold bareLexeme
  split <;> rfl

theorem given?_signedLexemes (cs : List Char) :
    (signedLexemes cs).filterMap Lexeme.given? = [] := by
  have signs : ∀ c ∈ (Grammar.minus cs).1, (Lexeme.symbol [c]).given? = none := fun _ _ => rfl
  simpa [signedLexemes] using signs

theorem masked_signedLexemes (cs : List Char) :
    (signedLexemes cs).map Lexeme.masked = signedLexemes cs := by
  have signs : ∀ c ∈ (Grammar.minus cs).1, (Lexeme.symbol [c]).masked = .symbol [c] :=
    fun _ _ => rfl
  simpa [signedLexemes] using signs

theorem given?_nameLexeme (s : String) :
    [nameLexeme s].filterMap Lexeme.given? = [Given.name s].filter Given.isQuoted := by
  unfold nameLexeme
  split
  · next plain => simp [Given.isQuoted, plain, Lexeme.given?]
  · next quoted => simp [Given.isQuoted, quoted, Lexeme.given?]

theorem given?_lexemes (t : Token) :
    t.lexemes.filterMap Lexeme.given? = t.given?.toList.filter Given.isQuoted := by
  cases t with
  | name s => exact given?_nameLexeme s
  | literal l =>
    cases l with
    | str s => rfl
    | _ => exact given?_signedLexemes _
  | count n => simp [lexemes, given?]
  | _ => rfl

theorem lexemes_masked (t : Token) : t.masked.lexemes = t.lexemes.map Lexeme.masked := by
  cases t with
  | name s =>
    have kept : (nameLexeme s).masked = nameLexeme s := by
      unfold nameLexeme
      split <;> rfl
    simp [masked, lexemes, kept]
  | literal l =>
    cases l with
    | str s => rfl
    | _ => exact (masked_signedLexemes _).symm
  | count n => simp [masked, lexemes]
  | _ => rfl

theorem given?_flatMap_lexemes (ts : List Token) :
    (ts.flatMap lexemes).filterMap Lexeme.given? = (ts.filterMap given?).filter Given.isQuoted := by
  induction ts with
  | nil => rfl
  | cons t ts ih =>
    rw [List.flatMap_cons, List.filterMap_append, given?_lexemes, ih, ← List.filter_append]
    congr 1
    cases isGiven : t.given? <;> simp [isGiven]

theorem flatMap_lexemes_masked (ts : List Token) :
    (ts.map masked).flatMap lexemes = (ts.flatMap lexemes).map Lexeme.masked := by
  simp only [List.flatMap_map, List.map_flatMap, lexemes_masked]

end lexemes

section punctuation

variable (ts : List Token)

@[simp] theorem given?_word (w : Word) :
    (word w :: ts).filterMap given? = ts.filterMap given? := List.filterMap_cons_none rfl

@[simp] theorem given?_comparison (op : Comparison) :
    (comparison op :: ts).filterMap given? = ts.filterMap given? := List.filterMap_cons_none rfl

@[simp] theorem given?_opening : (opening :: ts).filterMap given? = ts.filterMap given? :=
  List.filterMap_cons_none rfl

@[simp] theorem given?_closing : (closing :: ts).filterMap given? = ts.filterMap given? :=
  List.filterMap_cons_none rfl

end punctuation

section joining

variable {separator : Token}

theorem given?_intercalate (nothing : separator.given? = none) (tss : List (List Token)) :
    ([separator].intercalate tss).filterMap given? = tss.flatMap fun ts => ts.filterMap given? := by
  induction tss with
  | nil => rfl
  | cons ts tss ih =>
    cases tss with
    | nil => simp [List.intercalate]
    | cons ts' tss =>
      rw [List.intercalate_cons_cons, List.filterMap_append, List.filterMap_append, ih]
      simp [nothing]

theorem masked_intercalate (kept : separator.masked = separator) (tss : List (List Token)) :
    ([separator].intercalate tss).map masked =
      [separator].intercalate (tss.map fun ts => ts.map masked) := by
  induction tss with
  | nil => rfl
  | cons ts tss ih =>
    cases tss with
    | nil => simp [List.intercalate]
    | cons ts' tss =>
      rw [List.intercalate_cons_cons, List.map_append, List.map_append, ih]
      simp [List.intercalate_cons_cons, kept]

theorem Phrase.of_forall {ts : List Token} (noDot : ∀ t ∈ ts, t ≠ .dot) : Phrase ts := by
  induction ts with
  | nil => exact .nil
  | cons t ts ih =>
    obtain ⟨first, others⟩ := List.forall_mem_cons.1 noDot
    exact .cons first (ih others)

theorem Phrase.bracketed {ts : List Token} (phrase : Phrase ts) : Phrase (bracketed ts) :=
  .cons Token.noConfusion (phrase.append (.cons Token.noConfusion .nil))

theorem compositional_phrase : Compositional Phrase where
  one _ _ _ noDot := .cons noDot .nil
  qualified _ _ := .qualified (.cons Token.noConfusion .nil)
  append := Phrase.append
  brackets := Phrase.bracketed

theorem Phrase.intercalate {tss : List (List Token)} (noDot : separator ≠ .dot)
    (phrases : ∀ ts ∈ tss, Phrase ts) : Phrase ([separator].intercalate tss) := by
  cases tss with
  | nil => exact .nil
  | cons ts tss =>
    exact compositional_phrase.intercalate (.cons noDot .nil) (List.cons_ne_nil _ _) phrases

end joining

end Token

open Token (Phrase)

namespace Expr

variable {e : Expr} {items : List Expr} {required : Binding}

theorem phrase_placed (required : Binding) (phrase : Phrase e.tokens) :
    Phrase (placedTokens required e e.tokens) := by
  unfold placedTokens
  split
  · exact phrase.bracketed
  · exact phrase

theorem phrase_items {separator : Token} (noDot : separator ≠ .dot)
    (phrases : ∀ i ∈ items, Phrase i.tokens) :
    Phrase ([separator].intercalate (itemsTokens required items)) := by
  refine .intercalate noDot fun ts member => ?_
  rw [itemsTokens_eq_map] at member
  obtain ⟨i, isItem, rfl⟩ := List.mem_map.1 member
  exact phrase_placed required (phrases i isItem)

theorem phrase_tokens (e : Expr) : Phrase e.tokens :=
  e.forall_tokens Token.compositional_phrase .nil

theorem given?_placed (required : Binding) (given : e.tokens.filterMap Token.given? = e.given) :
    (placedTokens required e e.tokens).filterMap Token.given? = e.given := by
  unfold placedTokens
  split
  · simp [bracketed, given]
  · exact given

theorem given?_items {separator : Token} (nothing : separator.given? = none)
    (givens : ∀ i ∈ items, i.tokens.filterMap Token.given? = i.given) :
    ([separator].intercalate (itemsTokens required items)).filterMap Token.given? =
      itemsGiven items := by
  rw [Token.given?_intercalate nothing, itemsTokens_eq_map, itemsGiven_eq_flatMap, List.flatMap_map]
  exact List.flatMap_congr fun i member => given?_placed required (givens i member)

theorem given_tokens (e : Expr) : e.tokens.filterMap Token.given? = e.given := by
  induction e using Expr.induction with
  | null => rfl
  | literal l => cases l <;> rfl
  | column c =>
    obtain ⟨table, name⟩ := c
    cases table <;> rfl
  | compare op l r left right =>
    simp [tokens, given, given?_placed _ left, given?_placed _ right]
  | and items each =>
    cases items with
    | nil => rfl
    | cons e items =>
      cases items with
      | nil => simpa [tokens, given, itemsGiven] using each e (by simp)
      | cons _ _ => exact given?_items rfl each
  | or items each =>
    cases items with
    | nil => rfl
    | cons e items =>
      cases items with
      | nil => simpa [tokens, given, itemsGiven] using each e (by simp)
      | cons _ _ => exact given?_items rfl each
  | not e inner => simp [tokens, given, given?_placed _ inner]
  | inList e items inner each =>
    have list : ([Token.comma].intercalate (itemsTokens .or items)).filterMap Token.given? =
        itemsGiven items := given?_items rfl each
    simp [tokens, given, given?_placed _ inner, bracketed, list]
  | like e p ignoreCase inner pattern =>
    simp [tokens, given, given?_placed _ inner, given?_placed _ pattern]
  | isNull e inner => simp [tokens, given, given?_placed _ inner]

theorem binding_masked (e : Expr) : e.masked.binding = e.binding := by
  induction e using Expr.induction with
  | literal l => cases l <;> rfl
  | and items each =>
    match items with
    | [] => rfl
    | [e] => exact each e (by simp)
    | _ :: _ :: _ => rfl
  | or items each =>
    match items with
    | [] => rfl
    | [e] => exact each e (by simp)
    | _ :: _ :: _ => rfl
  | _ => rfl

theorem masked_placed (required : Binding) (same : e.masked.tokens = e.tokens.map Token.masked) :
    placedTokens required e.masked e.masked.tokens =
      (placedTokens required e e.tokens).map Token.masked := by
  rw [placedTokens, placedTokens, binding_masked, same]
  split
  · simp [bracketed, Token.masked]
  · rfl

theorem masked_items {separator : Token} (kept : separator.masked = separator)
    (same : ∀ i ∈ items, i.masked.tokens = i.tokens.map Token.masked) :
    [separator].intercalate (itemsTokens required (itemsMasked items)) =
      ([separator].intercalate (itemsTokens required items)).map Token.masked := by
  rw [Token.masked_intercalate kept, itemsTokens_eq_map, itemsTokens_eq_map, itemsMasked_eq_map,
    List.map_map, List.map_map]
  congr 1
  exact List.map_congr_left fun i member => masked_placed required (same i member)

theorem tokens_masked (e : Expr) : e.masked.tokens = e.tokens.map Token.masked := by
  induction e using Expr.induction with
  | null => rfl
  | literal l => cases l <;> rfl
  | column c =>
    rw [masked, tokens, Column.tokens]
    split <;> rfl
  | compare op l r left right =>
    simp [tokens, masked, masked_placed _ left, masked_placed _ right, Token.masked]
  | and items each =>
    cases items with
    | nil => rfl
    | cons e items =>
      cases items with
      | nil => exact each e (by simp)
      | cons _ _ => exact masked_items rfl each
  | or items each =>
    cases items with
    | nil => rfl
    | cons e items =>
      cases items with
      | nil => exact each e (by simp)
      | cons _ _ => exact masked_items rfl each
  | not e inner => simp [tokens, masked, masked_placed _ inner, Token.masked]
  | inList e items inner each =>
    have list : [Token.comma].intercalate (itemsTokens .or (itemsMasked items)) =
        ([Token.comma].intercalate (itemsTokens .or items)).map Token.masked :=
      masked_items rfl each
    simp [tokens, masked, masked_placed _ inner, bracketed, list, Token.masked]
  | like e p ignoreCase inner pattern =>
    simp [tokens, masked, masked_placed _ inner, masked_placed _ pattern, Token.masked]
  | isNull e inner => simp [tokens, masked, masked_placed _ inner, Token.masked]

end Expr

section parts

theorem Projection.phrase_tokens (p : Projection) : Phrase p.tokens := by
  rw [tokens]
  split
  · exact p.expr.phrase_tokens.append (.of_forall (by simp))
  · exact p.expr.phrase_tokens

theorem Projection.given_tokens (p : Projection) :
    p.tokens.filterMap Token.given? = p.given := by
  obtain ⟨e, label⟩ := p
  cases label with
  | none => simp [tokens, given, e.given_tokens]
  | some a =>
    have named : [Token.name a].filterMap Token.given? = [Given.name a] := rfl
    simp [tokens, given, e.given_tokens, named]

theorem Projection.tokens_masked (p : Projection) :
    p.masked.tokens = p.tokens.map Token.masked := by
  obtain ⟨e, label⟩ := p
  cases label with
  | none => exact e.tokens_masked
  | some a => simp [tokens, masked, e.tokens_masked, Token.masked]

theorem SortKey.phrase_tokens (k : SortKey) : Phrase k.tokens := by
  refine (Expr.phrase_placed .and k.expr.phrase_tokens).append (.of_forall ?_)
  split <;> simp

theorem SortKey.given_tokens (k : SortKey) : k.tokens.filterMap Token.given? = k.given := by
  have key := Expr.given?_placed .and k.expr.given_tokens
  cases descending : k.descending <;> simp [tokens, given, key, descending]

theorem SortKey.tokens_masked (k : SortKey) : k.masked.tokens = k.tokens.map Token.masked := by
  have key := Expr.masked_placed .and k.expr.tokens_masked
  cases descending : k.descending <;> simp [tokens, masked, key, descending, Token.masked]

end parts

namespace Select

section phrases

theorem phrase_projections (ps : List Projection) : Phrase (projectionsTokens ps) := by
  rw [projectionsTokens]
  split
  · exact .of_forall (by simp)
  · exact .intercalate Token.noConfusion (List.forall_mem_map.2 fun p _ => p.phrase_tokens)

theorem phrase_where (predicates : List Expr) : Phrase (whereTokens predicates) := by
  rw [whereTokens]
  split
  · exact .nil
  · exact .cons Token.noConfusion
      (Expr.phrase_items Token.noConfusion fun e _ => e.phrase_tokens)

theorem phrase_order (keys : List SortKey) : Phrase (orderTokens keys) := by
  rw [orderTokens]
  split
  · exact .nil
  · exact .cons Token.noConfusion (.cons Token.noConfusion
      (.intercalate Token.noConfusion (List.forall_mem_map.2 fun k _ => k.phrase_tokens)))

theorem phrase_count (w : Word) (n : Option Nat) : Phrase (countTokens w n) := by
  cases n <;> exact .of_forall (by simp [countTokens])

theorem phrase_tokens (q : Select) : Phrase q.tokens := by
  induction q using Select.induction with
  | step q inner =>
    have source : Phrase (fromTokens q.source) := by
      match isSource : q.source with
      | none => exact .nil
      | some (.table name) => exact .of_forall (by simp [fromTokens, sourceTokens])
      | some (.subquery q' label) =>
        exact .cons Token.noConfusion
          ((inner q' label isSource).bracketed.append (.of_forall (by simp)))
    have distinct : Phrase (distinctTokens q.distinct) := by
      cases q.distinct <;> exact .of_forall (by simp [distinctTokens])
    have select : Phrase (.word .SELECT :: distinctTokens q.distinct) :=
      .cons Token.noConfusion distinct
    have front := select.append (phrase_projections q.projections)
    have ordered := ((front.append source).append (phrase_where q.predicates)).append
      (phrase_order q.sortKeys)
    rw [tokens_eq]
    exact (ordered.append (phrase_count .LIMIT q.limit)).append (phrase_count .OFFSET q.offset)

end phrases

section given

theorem given?_projections (ps : List Projection) :
    (projectionsTokens ps).filterMap Token.given? = ps.flatMap Projection.given := by
  rw [projectionsTokens]
  split
  · next none =>
    rw [List.isEmpty_iff.1 none]
    rfl
  · rw [Token.given?_intercalate rfl, List.flatMap_map]
    exact List.flatMap_congr fun p _ => p.given_tokens

theorem given?_where (predicates : List Expr) :
    (whereTokens predicates).filterMap Token.given? = predicates.flatMap Expr.given := by
  rw [whereTokens, ← Expr.itemsGiven_eq_flatMap]
  split
  · next none =>
    rw [List.isEmpty_iff.1 none]
    rfl
  · exact Expr.given?_items rfl fun e _ => e.given_tokens

theorem given?_order (keys : List SortKey) :
    (orderTokens keys).filterMap Token.given? = keys.flatMap SortKey.given := by
  rw [orderTokens]
  split
  · next none =>
    rw [List.isEmpty_iff.1 none]
    rfl
  · rw [Token.given?_word, Token.given?_word, Token.given?_intercalate rfl, List.flatMap_map]
    exact List.flatMap_congr fun k _ => k.given_tokens

theorem given?_count (w : Word) (n : Option Nat) :
    (countTokens w n).filterMap Token.given? = [] := by
  cases n <;> rfl

theorem given_eq (q : Select) :
    q.given = q.projections.flatMap Projection.given ++ q.source.elim [] sourceGiven ++
      q.predicates.flatMap Expr.given ++ q.sortKeys.flatMap SortKey.given := by
  obtain ⟨_, _, source, _, _, _, _⟩ := q
  rw [given.eq_def]
  cases source <;> rfl

theorem given_tokens (q : Select) : q.tokens.filterMap Token.given? = q.given := by
  induction q using Select.induction with
  | step q inner =>
    have source : (fromTokens q.source).filterMap Token.given? = q.source.elim [] sourceGiven := by
      match isSource : q.source with
      | none => rfl
      | some (.table name) => rfl
      | some (.subquery q' label) =>
        have named : [Token.name label].filterMap Token.given? = [Given.name label] := rfl
        simp [fromTokens, sourceTokens, sourceGiven, bracketed, inner q' label isSource, named]
    have distinct : (distinctTokens q.distinct).filterMap Token.given? = [] := by
      cases q.distinct <;> rfl
    simp [tokens_eq, given_eq, distinct, given?_projections, source, given?_where, given?_order,
      given?_count]

end given

section masked

theorem projectionsTokens_masked (ps : List Projection) :
    projectionsTokens (ps.map Projection.masked) = (projectionsTokens ps).map Token.masked := by
  rw [projectionsTokens, projectionsTokens, List.isEmpty_map]
  split
  · rfl
  · rw [Token.masked_intercalate rfl, List.map_map, List.map_map]
    congr 1
    exact List.map_congr_left fun p _ => p.tokens_masked

theorem whereTokens_masked (predicates : List Expr) :
    whereTokens (predicates.map Expr.masked) = (whereTokens predicates).map Token.masked := by
  rw [whereTokens, whereTokens, List.isEmpty_map, ← Expr.itemsMasked_eq_map]
  split
  · rfl
  · rw [Expr.masked_items rfl fun e _ => e.tokens_masked]
    rfl

theorem orderTokens_masked (keys : List SortKey) :
    orderTokens (keys.map SortKey.masked) = (orderTokens keys).map Token.masked := by
  rw [orderTokens, orderTokens, List.isEmpty_map]
  split
  · rfl
  · rw [List.map_cons, List.map_cons, Token.masked_intercalate rfl, List.map_map, List.map_map]
    congr 3
    exact List.map_congr_left fun k _ => k.tokens_masked

theorem countTokens_masked (w : Word) (n : Option Nat) :
    (countTokens w n).map Token.masked = countTokens w n := by
  cases n <;> rfl

theorem masked_eq (q : Select) :
    q.masked = ⟨q.distinct, q.projections.map Projection.masked, q.source.map sourceMasked,
      q.predicates.map Expr.masked, q.sortKeys.map SortKey.masked, q.limit, q.offset⟩ := by
  obtain ⟨_, _, source, _, _, _, _⟩ := q
  rw [masked.eq_def]
  cases source <;> rfl

theorem tokens_masked (q : Select) : q.masked.tokens = q.tokens.map Token.masked := by
  induction q using Select.induction with
  | step q inner =>
    have source : fromTokens (q.source.map sourceMasked) =
        (fromTokens q.source).map Token.masked := by
      match isSource : q.source with
      | none => rfl
      | some (.table name) => rfl
      | some (.subquery q' label) =>
        simp [fromTokens, sourceTokens, sourceMasked, bracketed, inner q' label isSource,
          Token.masked]
    have distinct : (distinctTokens q.distinct).map Token.masked = distinctTokens q.distinct := by
      cases q.distinct <;> rfl
    rw [tokens_eq, tokens_eq q, masked_eq]
    simp [projectionsTokens_masked, source, whereTokens_masked, orderTokens_masked,
      countTokens_masked, distinct, Token.masked]

end masked

end Select

theorem Expr.lex_tokens (e : Expr) : lex e.text = some (e.tokens.flatMap Token.lexemes) := by
  have lexes := e.phrase_tokens.lexes
  rw [e.written_tokens.spelled] at lexes
  exact lexes.lex

theorem Select.lex_tokens (q : Select) : lex q.text = some (q.tokens.flatMap Token.lexemes) := by
  have lexes := q.phrase_tokens.lexes
  rw [q.written_tokens.spelled] at lexes
  exact lexes.lex

/-- The text of a query or an expression has one string for each string value and one quoted name
for each name that needs quotes, in their order, and other values give other strings only. -/
theorem lex_text :
    (∀ e : Expr, ∃ ls, lex e.text = some ls ∧
      ls.filterMap Lexeme.given? = e.given.filter Given.isQuoted ∧
      ∀ e' : Expr, e'.masked = e.masked →
        ∃ ls', lex e'.text = some ls' ∧ ls'.map Lexeme.masked = ls.map Lexeme.masked) ∧
    ∀ q : Select, ∃ ls, lex q.text = some ls ∧
      ls.filterMap Lexeme.given? = q.given.filter Given.isQuoted ∧
      ∀ q' : Select, q'.masked = q.masked →
        ∃ ls', lex q'.text = some ls' ∧ ls'.map Lexeme.masked = ls.map Lexeme.masked := by
  refine ⟨fun e => ⟨_, e.lex_tokens, ?_, fun e' same => ⟨_, e'.lex_tokens, ?_⟩⟩,
    fun q => ⟨_, q.lex_tokens, ?_, fun q' same => ⟨_, q'.lex_tokens, ?_⟩⟩⟩
  · rw [Token.given?_flatMap_lexemes, e.given_tokens]
  · rw [← Token.flatMap_lexemes_masked, ← e'.tokens_masked, same, e.tokens_masked,
      Token.flatMap_lexemes_masked]
  · rw [Token.given?_flatMap_lexemes, q.given_tokens]
  · rw [← Token.flatMap_lexemes_masked, ← q'.tokens_masked, same, q.tokens_masked,
      Token.flatMap_lexemes_masked]

example : lex (Expr.compare .eq (.ofName "na\"me") (.literal (.str "' OR 1=1 --"))).text =
    some [.quotedName "na\"me", .symbol ['='], .string "' OR 1=1 --"] := by
  decide +kernel

end ViewQuery.Sql
