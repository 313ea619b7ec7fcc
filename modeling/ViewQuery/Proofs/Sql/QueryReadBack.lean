import ViewQuery.Proofs.Sql.ReadBack

set_option autoImplicit false

namespace ViewQuery.Sql

namespace Token

-- The place of what the token opens or closes in a query, zero where it does neither.
def rank : Token → Nat
  | .word .FROM => 1
  | .word .WHERE => 2
  | .word .ORDER => 3
  | .word .LIMIT => 4
  | .word .OFFSET => 5
  | .closing => 6
  | _ => 0

def After (k : Nat) (ts : List Token) : Prop := ∀ t ∈ ts.head?, k < t.rank

def Clause (k : Nat) (ts : List Token) : Prop := ∀ t ∈ ts.head?, t.rank = k

variable {k : Nat} {ts rest : List Token}

theorem After.stops (after : After k rest) (b : Binding) : Stops b rest := by
  intro t first b' joins
  have later := after t first
  cases t with
  | word w => cases w <;> simp_all [Token.joins, rank]
  | _ => simp_all [Token.joins, rank]

theorem After.head_ne (after : After k rest) {t : Token} (early : t.rank ≤ k) :
    rest.head? ≠ some t := by
  intro first
  exact absurd (after t first) (by omega)

theorem Clause.after (clause : Clause (k + 1) ts) (after : After (k + 1) rest) :
    After k (ts ++ rest) := by
  intro t first
  cases ts with
  | nil => exact Nat.lt_of_succ_lt (after t first)
  | cons t' ts =>
    obtain rfl : t' = t := by simpa using first
    exact (clause t' rfl).symm ▸ Nat.lt_succ_self k

end Token

open Token (Stops After Clause stops_cons)

namespace Reader

variable {α : Type} {k : Nat} {t : Token} {ts ts' rest : List Token}

theorem accept_next (t : Token) (ts : List Token) : accept t (t :: ts) = some (true, ts) :=
  if_pos rfl

theorem accept_other (other : ts.head? ≠ some t) : accept t ts = some (false, ts) := by
  cases ts with
  | nil => rfl
  | cons t' ts => exact if_neg (by simpa using other)

theorem clause_none {w : Word} {r : Reader α} (after : After (Token.word w).rank rest) :
    clause w r rest = some (none, rest) :=
  bind_some (accept_other (after.head_ne le_rfl))

theorem clause_some {w : Word} {r : Reader α} {a : α} (reads : r ts = some (a, rest)) :
    clause w r (.word w :: ts) = some (some a, rest) := by
  rw [clause, bind_some (accept_next _ _)]
  exact map_some reads

theorem reads_unbounded {e : Expr}
    (reads : ∀ n, ts.length ≤ n → Reads (disjunction n (bounded n)) (Stops .or) ts e) :
    Reads expression (Stops .or) ts e := by
  refine ⟨(reads _ le_rfl).ne_nil, fun rest stops => ?_⟩
  have enough : ts.length ≤ (ts ++ rest).length := by simp
  exact (reads _ enough).takes rest stops

theorem reads_expression (e : Expr) (b : Binding) :
    Reads expression (Stops .or) (Expr.placedTokens b e e.tokens) e.normal :=
  reads_unbounded fun _ enough =>
    (e.readable.placed b enough).loosen enough .or (Nat.zero_le _)

theorem reads_tokens (e : Expr) : Reads expression (Stops .or) e.tokens e.normal :=
  reads_expression e .or

theorem reads_conditions (p : Expr) (ps : List Expr) :
    Reads expression (Stops .or)
      ([Token.word .AND].intercalate (Expr.itemsTokens .and (p :: ps)))
      (.conjunction ((p :: ps).flatMap Expr.conjuncts)) := by
  rw [Expr.itemsTokens_eq_map]
  refine reads_unbounded fun n enough => ?_
  have chained : Chained (negation n (bounded n)) (Stops .not) (.word .AND) _
      ((p :: ps).flatMap Expr.conjuncts) := .join p ps fun e member =>
    e.readable.chained ((length_le_intercalate (List.mem_map_of_mem member)).trans enough)
  exact reads_disjunction (.one (reads_conjunction chained enough)) enough

end Reader

structure Projection.Same (p p' : Projection) : Prop where
  label : p.label = p'.label
  expr : p.expr.Same p'.expr

structure SortKey.Same (k k' : SortKey) : Prop where
  descending : k.descending = k'.descending
  expr : k.expr.Same k'.expr

mutual

inductive Select.Same : Select → Select → Prop
  | intro {q q' : Select} (distinct : q.distinct = q'.distinct)
    (projections : List.Forall₂ Projection.Same q.projections q'.projections)
    (source : SameSource q.source q'.source)
    (unconditional : q.predicates = [] ↔ q'.predicates = [])
    (predicates : Expr.Same (.and q.predicates) (.and q'.predicates))
    (sortKeys : List.Forall₂ SortKey.Same q.sortKeys q'.sortKeys)
    (limit : q.limit = q'.limit) (offset : q.offset = q'.offset) : Select.Same q q'

inductive SameSource : Option Source → Option Source → Prop
  | none : SameSource none none
  | table (name : String) : SameSource (some (.table name)) (some (.table name))
  | subquery {q q' : Select} (label : String) (same : Select.Same q q') :
    SameSource (some (.subquery q label)) (some (.subquery q' label))

end

def Projection.normal (p : Projection) : Projection := { p with expr := p.expr.normal }

def SortKey.normal (k : SortKey) : SortKey := { k with expr := k.expr.normal }

mutual

def Select.normal : Select → Select
  | ⟨distinct, projections, source, predicates, sortKeys, limit, offset⟩ =>
    ⟨distinct, projections.map Projection.normal,
      match source with
      | some s => some s.normal
      | none => none,
      predicates.flatMap Expr.conjuncts, sortKeys.map SortKey.normal, limit, offset⟩

def Source.normal : Source → Source
  | .table name => .table name
  | .subquery q label => .subquery q.normal label

end

namespace Select

theorem normal_eq (q : Select) :
    q.normal = ⟨q.distinct, q.projections.map Projection.normal, q.source.map Source.normal,
      q.predicates.flatMap Expr.conjuncts, q.sortKeys.map SortKey.normal, q.limit, q.offset⟩ := by
  obtain ⟨_, _, source, _, _, _, _⟩ := q
  cases source <;> rfl

theorem depth_lt {q inner : Select} {label : String}
    (isSource : q.source = some (.subquery inner label)) : inner.depth < q.depth := by
  obtain ⟨_, _, _, _, _, _, _⟩ := q
  subst isSource
  exact Nat.lt_succ_self inner.depth

theorem depth_lt_length (q : Select) : q.depth < q.tokens.length := by
  induction q using Select.induction with
  | step q inner =>
    obtain ⟨_, _, source, _, _, _, _⟩ := q
    match source with
    | none => simp [depth, tokens_eq]
    | some (.table _) => simp [depth, sourceDepth, tokens_eq]
    | some (.subquery q label) =>
      have inside := inner q label rfl
      simp only [depth, sourceDepth, tokens_eq, fromTokens, sourceTokens, bracketed,
        List.length_append, List.length_cons] at inside ⊢
      omega

theorem conjuncts_ne_nil {ps : List Expr} (some : ps ≠ []) : ps.flatMap Expr.conjuncts ≠ [] := by
  obtain ⟨p, ps, rfl⟩ := List.exists_cons_of_ne_nil some
  simp [p.conjuncts_ne_nil]

theorem same_normal (q : Select) : q.Same q.normal := by
  induction q using Select.induction with
  | step q inner =>
    have source : SameSource q.source q.normal.source := by
      rw [normal_eq]
      match isSource : q.source with
      | none => exact .none
      | some (.table name) => exact .table name
      | some (.subquery inner' label) => exact .subquery label (inner inner' label isSource)
    rw [normal_eq] at source ⊢
    refine .intro rfl ?_ source ?_ ?_ ?_ rfl rfl
    · rw [List.forall₂_map_right_iff, List.forall₂_same]
      exact fun p _ => ⟨rfl, p.expr.same_normal⟩
    · constructor
      · intro none
        simp [none]
      · intro none
        by_contra some
        exact conjuncts_ne_nil some none
    · exact Expr.same_flattened q.predicates fun e _ => e.same_normal
    · rw [List.forall₂_map_right_iff, List.forall₂_same]
      exact fun k _ => ⟨rfl, k.expr.same_normal⟩

end Select

namespace Reader

variable {k : Nat} {t : Token} {ts rest : List Token}

def EndsItem (ts : List Token) : Prop := ∀ t ∈ ts.head?, t = .comma ∨ 0 < t.rank

theorem EndsItem.stops (ends : EndsItem rest) (b : Binding) : Stops b rest := by
  intro t first b' joins
  rcases ends t first with rfl | later
  · cases joins
  · have after : After 0 [t] := by simpa [After] using later
    exact after.stops b t rfl b' joins

theorem EndsItem.head_ne (ends : EndsItem rest) {w : Word} (early : (Token.word w).rank = 0) :
    rest.head? ≠ some (.word w) := by
  intro first
  rcases ends _ first with same | later
  · cases same
  · omega

theorem reads_projection (p : Projection) : Reads projection EndsItem p.tokens p.normal := by
  obtain ⟨e, label⟩ := p
  have expr := reads_tokens e
  cases label with
  | none =>
    refine ⟨expr.ne_nil, fun rest ends => ?_⟩
    have unlabeled := accept_other (ends.head_ne (w := .AS) rfl)
    exact (bind_some (expr.takes rest (ends.stops .or))).trans (bind_some unlabeled)
  | some label =>
    refine ⟨by simp [Projection.tokens], fun rest _ => ?_⟩
    have part := expr.takes (.word .AS :: .name label :: rest)
      (stops_cons.2 (by simp [Token.joins]))
    rw [Projection.tokens, List.append_assoc]
    exact (bind_some part).trans (bind_some (accept_next _ _))

theorem reads_sortKey (key : SortKey) : Reads sortKey EndsItem key.tokens key.normal := by
  obtain ⟨e, descending⟩ := key
  have expr := reads_expression e .and
  refine ⟨by simp [SortKey.tokens, expr.ne_nil], fun rest ends => ?_⟩
  rw [SortKey.tokens, List.append_assoc]
  cases descending with
  | false =>
    have ascending := accept_other (ends.head_ne (w := .DESC) rfl)
    exact (bind_some (expr.takes rest (ends.stops .or))).trans (bind_some ascending)
  | true =>
    have part := expr.takes (.word .DESC :: rest) (stops_cons.2 (by simp [Token.joins]))
    exact (bind_some part).trans (bind_some (accept_next _ _))

theorem listed_chained {α : Type} {part : Reader α} {as : List α}
    (chained : Chained part EndsItem .comma ts as) (after : After k rest) :
    listed part (ts ++ rest) = some (as, rest) := by
  have enough : as.length ≤ (ts ++ rest).length := by
    have := chained.length_le
    simp only [List.length_append]
    omega
  have ends : EndsItem rest := fun t first => .inr (Nat.zero_lt_of_lt (after t first))
  exact chained.separated (fun _ => by simp [EndsItem]) _ enough rest ends
    (after.head_ne (Nat.zero_le _))

theorem starts_projection (p : Projection) (unread : ∀ ts, expression (t :: ts) = none) :
    ∃ t' ts, p.tokens = t' :: ts ∧ t' ≠ t := by
  obtain ⟨e, label⟩ := p
  have expr := reads_tokens e
  obtain ⟨t', ts, split⟩ := List.exists_cons_of_ne_nil expr.ne_nil
  have other : t' ≠ t := by
    rintro rfl
    have taken := expr.takes [] Token.stops_nil
    rw [split, List.cons_append, unread] at taken
    cases taken
  cases label with
  | none => exact ⟨t', ts, split, other⟩
  | some label =>
    exact ⟨t', ts ++ [.word .AS, .name label], by simp [Projection.tokens, split], other⟩

theorem head_projections (p : Projection) (ps : List Projection)
    (unread : ∀ ts, expression (t :: ts) = none) :
    (Select.projectionsTokens (p :: ps) ++ rest).head? ≠ some t := by
  obtain ⟨t', ts, split, other⟩ := starts_projection p unread
  cases ps with
  | nil => simp [Select.projectionsTokens, split, other]
  | cons p' ps => simp [Select.projectionsTokens, List.intercalate_cons_cons, split, other]

theorem takes_projections (ps : List Projection) (after : After k rest) :
    projections (Select.projectionsTokens ps ++ rest) = some (ps.map Projection.normal, rest) := by
  cases ps with
  | nil => exact bind_some (accept_next _ _)
  | cons p ps =>
    have items : (Select.projectionsTokens (p :: ps) ++ rest).head? ≠ some .star :=
      head_projections p ps fun _ => rfl
    have chained : Chained projection EndsItem .comma _ ((p :: ps).map Projection.normal) :=
      .ofReads p ps fun p _ => reads_projection p
    exact (bind_some (accept_other items)).trans (listed_chained chained after)

theorem takes_distinct (distinct : Bool) (ps : List Projection) :
    accept (.word .DISTINCT)
        (Select.distinctTokens distinct ++ (Select.projectionsTokens ps ++ rest)) =
      some (distinct, Select.projectionsTokens ps ++ rest) := by
  cases distinct with
  | true => exact accept_next _ _
  | false =>
    cases ps with
    | nil => rfl
    | cons p ps => exact accept_other (head_projections p ps fun _ => rfl)

-- A conjunct is not a conjunction itself.
theorem conditions_of_mem {e c : Expr} (member : c ∈ e.conjuncts) : conditions c = [c] := by
  induction e using Expr.induction with
  | and items each =>
    by_cases none : items = []
    · subst none
      obtain rfl : c = Expr.always := by simpa [Expr.conjuncts] using member
      rfl
    · rw [Expr.conjuncts_and none] at member
      obtain ⟨i, isItem, inside⟩ := List.mem_flatMap.1 member
      exact each i isItem inside
  | or items each =>
    rcases items with _ | ⟨e, _ | ⟨e', items⟩⟩
    · obtain rfl : c = Expr.never := by
        simpa [Expr.conjuncts, Expr.normals, Expr.disjunction] using member
      rfl
    · rw [Expr.conjuncts] at member
      exact each e (by simp) member
    · obtain rfl : c = .or (Expr.normals (e :: e' :: items)) := List.mem_singleton.1 member
      rfl
  | _ =>
    obtain rfl := List.mem_singleton.1 member
    rfl

theorem conditions_conjunction {cs : List Expr} (some : cs ≠ [])
    (flat : ∀ c ∈ cs, conditions c = [c]) : conditions (.conjunction cs) = cs := by
  match cs with
  | [c] => exact flat c (by simp)
  | c :: c' :: cs => rfl

theorem takes_where (ps : List Expr) (after : After 2 rest) :
    ∃ condition, clause .WHERE expression (Select.whereTokens ps ++ rest) = some (condition, rest) ∧
      condition.elim [] conditions = ps.flatMap Expr.conjuncts := by
  cases ps with
  | nil => exact ⟨none, clause_none after, rfl⟩
  | cons p ps =>
    have taken := (reads_conditions p ps).takes rest (after.stops .or)
    refine ⟨_, clause_some taken, conditions_conjunction (Select.conjuncts_ne_nil (by simp)) ?_⟩
    intro c member
    obtain ⟨e, -, inside⟩ := List.mem_flatMap.1 member
    exact conditions_of_mem inside

theorem takes_order (keys : List SortKey) (after : After 3 rest) :
    ∃ sorted, clause .ORDER sortKeys (Select.orderTokens keys ++ rest) = some (sorted, rest) ∧
      sorted.getD [] = keys.map SortKey.normal := by
  cases keys with
  | nil => exact ⟨none, clause_none after, rfl⟩
  | cons key keys =>
    have chained : Chained sortKey EndsItem .comma _ ((key :: keys).map SortKey.normal) :=
      .ofReads key keys fun key _ => reads_sortKey key
    exact ⟨_, clause_some (listed_chained chained after), rfl⟩

theorem takes_count (w : Word) (n : Option Nat) (after : After (Token.word w).rank rest) :
    clause w count (Select.countTokens w n ++ rest) = some (n, rest) := by
  cases n with
  | none => exact clause_none after
  | some n => exact clause_some rfl

theorem takes_from (query : Reader Select) (source : Option Source) (after : After 1 rest)
    (inner : ∀ q label, source = some (.subquery q label) → ∀ rest, After 5 rest →
      query (q.tokens ++ rest) = some (q.normal, rest)) :
    clause .FROM (Reader.source query) (Select.fromTokens source ++ rest) =
      some (source.map Source.normal, rest) := by
  match source with
  | none => exact clause_none after
  | some (.table name) => exact clause_some rfl
  | some (.subquery q label) =>
    have inside := inner q label rfl (.closing :: .word .AS :: .name label :: rest)
      (by simp [After, Token.rank])
    refine clause_some ?_
    simp [Select.sourceTokens, bracketed, Reader.source, inside, Source.normal]

theorem clause_from (source : Option Source) : Clause 1 (Select.fromTokens source) := by
  cases source <;> simp [Clause, Select.fromTokens, Token.rank]

theorem clause_where (ps : List Expr) : Clause 2 (Select.whereTokens ps) := by
  cases ps <;> simp [Clause, Select.whereTokens, Token.rank]

-- Clauses come in a fixed order, so the next word tells where one ends.
theorem clause_order (keys : List SortKey) : Clause 3 (Select.orderTokens keys) := by
  cases keys <;> simp [Clause, Select.orderTokens, Token.rank]

theorem clause_count (w : Word) (n : Option Nat) :
    Clause (Token.word w).rank (Select.countTokens w n) := by
  cases n <;> simp [Clause, Select.countTokens]

theorem takes_query (n : Nat) (q : Select) (shallow : q.depth < n) (after : After 5 rest) :
    query n (q.tokens ++ rest) = some (q.normal, rest) := by
  induction n generalizing q rest with
  | zero => cases shallow
  | succ n ih =>
    -- From the back, each clause is followed by later ones.
    have afterLimit := (clause_count .OFFSET q.offset).after after
    have afterOrder := (clause_count .LIMIT q.limit).after afterLimit
    have afterWhere := (clause_order q.sortKeys).after afterOrder
    have afterFrom := (clause_where q.predicates).after afterWhere
    have afterProjections := (clause_from q.source).after afterFrom
    have source := takes_from (query n) q.source afterFrom fun inner label isSource rest after =>
      ih inner (by have := Select.depth_lt isSource; omega) after
    obtain ⟨condition, takesWhere, conjuncts⟩ := takes_where q.predicates afterWhere
    obtain ⟨sorted, takesOrder, keys⟩ := takes_order q.sortKeys afterOrder
    rw [Select.tokens_eq, Select.normal_eq, query]
    simp only [List.append_assoc, List.cons_append]
    refine (bind_some rfl).trans ?_
    refine (bind_some (takes_distinct q.distinct q.projections)).trans ?_
    refine (bind_some (takes_projections q.projections afterProjections)).trans ?_
    refine (bind_some source).trans ?_
    refine (bind_some takesWhere).trans ?_
    refine (bind_some takesOrder).trans ?_
    refine (bind_some (takes_count .LIMIT q.limit afterLimit)).trans ?_
    refine (bind_some (takes_count .OFFSET q.offset after)).trans ?_
    rw [conjuncts, keys]
    rfl

end Reader

theorem read_tokens (e : Expr) : Expr.read e.tokens = some e.normal := by
  have taken := (Reader.reads_tokens e).takes [] Token.stops_nil
  rw [List.append_nil] at taken
  rw [Expr.read, Reader.all, taken]

theorem read_query (q : Select) : Select.read q.tokens = some q.normal := by
  have after : After 5 [] := fun _ first => nomatch first
  have taken := Reader.takes_query q.tokens.length q q.depth_lt_length after
  rw [List.append_nil] at taken
  rw [Select.read, Reader.all, taken]

theorem tokens_eq_iff (e e' : Expr) : e.tokens = e'.tokens ↔ e.Same e' := by
  constructor
  · intro tokens
    have normal : some e.normal = some e'.normal := by
      rw [← read_tokens, ← read_tokens, tokens]
    have back : Expr.Same e'.normal e' := Relation.EqvGen.symm _ _ e'.same_normal
    exact e.same_normal.trans (Option.some.inj normal ▸ back)
  · intro same
    induction same with
    | rel e e' identity => exact identity.tokens_eq.1
    | refl e => rfl
    | symm e e' _ ih => exact ih.symm
    | trans e e' e'' _ _ first second => exact first.trans second

/-- The text of an expression or a query is that of its tokens, and these are read back as the tree
they were written from, up to the identities and to nothing else. -/
theorem text_reads_back :
    (∀ e : Expr, e.text.toList = Token.spell e.tokens ∧
      ∃ e', Expr.read e.tokens = some e' ∧ e.Same e') ∧
    (∀ e e' : Expr, e.tokens = e'.tokens ↔ e.Same e') ∧
    ∀ q : Select, q.text.toList = Token.spell q.tokens ∧
      ∃ q', Select.read q.tokens = some q' ∧ q.Same q' := by
  refine ⟨fun e => ⟨?_, e.normal, read_tokens e, e.same_normal⟩, tokens_eq_iff,
    fun q => ⟨?_, q.normal, read_query q, q.same_normal⟩⟩
  · rw [e.written_tokens.spelled, Expr.text, String.toList_ofList]
  · rw [q.written_tokens.spelled, Select.text, String.toList_ofList]

example (a b c d : String) :
    Expr.read [.name a, .word .OR, .name b, .word .AND, .word .NOT, .name c, .comparison .eq,
        .name d] =
      some (.or [.ofName a, .and [.ofName b, .not (.compare .eq (.ofName c) (.ofName d))]]) := rfl

end ViewQuery.Sql
