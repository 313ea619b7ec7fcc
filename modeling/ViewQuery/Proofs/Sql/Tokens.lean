import Mathlib
import ViewQuery.Sql.Select

set_option autoImplicit false

namespace ViewQuery.Sql

open Decimal (natText)

inductive Word where
  | SELECT | DISTINCT | FROM | AS | WHERE | ORDER | BY | DESC | LIMIT | OFFSET
  | AND | OR | NOT | IN | LIKE | ILIKE | IS | NULL
  deriving DecidableEq

def Word.chars : Word → List Char
  | .SELECT => "SELECT".toList
  | .DISTINCT => "DISTINCT".toList
  | .FROM => "FROM".toList
  | .AS => "AS".toList
  | .WHERE => "WHERE".toList
  | .ORDER => "ORDER".toList
  | .BY => "BY".toList
  | .DESC => "DESC".toList
  | .LIMIT => "LIMIT".toList
  | .OFFSET => "OFFSET".toList
  | .AND => "AND".toList
  | .OR => "OR".toList
  | .NOT => "NOT".toList
  | .IN => "IN".toList
  | .LIKE => "LIKE".toList
  | .ILIKE => "ILIKE".toList
  | .IS => "IS".toList
  | .NULL => "NULL".toList

inductive Token where
  | word (w : Word)
  | name (s : String)
  | literal (l : Literal)
  | count (n : Nat)
  | comparison (op : Comparison)
  | opening
  | closing
  | comma
  | dot
  | star
  deriving DecidableEq

namespace Token

def chars : Token → List Char
  | .word w => w.chars
  | .name s => nameChars s
  | .literal l => literalChars l
  | .count n => natText n
  | .comparison op => op.chars
  | .opening => ['(']
  | .closing => [')']
  | .comma => [',']
  | .dot => ['.']
  | .star => ['*']

def hugsNext : Token → Bool
  | .opening | .dot => true
  | _ => false

def hugsPrevious : Token → Bool
  | .closing | .comma | .dot => true
  | _ => false

def gap (t t' : Token) : List Char := if t.hugsNext || t'.hugsPrevious then [] else [' ']

def spell : List Token → List Char
  | [] => []
  | [t] => t.chars
  | t :: t' :: ts => t.chars ++ gap t t' ++ spell (t' :: ts)

theorem spell_append {ts ts' : List Token} {t u : Token} (last : ts.getLast? = some t)
    (first : ts'.head? = some u) : spell (ts ++ ts') = spell ts ++ gap t u ++ spell ts' := by
  obtain ⟨rest, rfl⟩ : ∃ rest, ts' = u :: rest := List.head?_eq_some_iff.1 first
  induction ts with
  | nil => cases last
  | cons a ts ih =>
    cases ts with
    | nil =>
      obtain rfl : a = t := by simpa using last
      rfl
    | cons b ts =>
      have inner := ih (by simpa using last)
      simp only [List.cons_append, spell, List.append_assoc] at inner ⊢
      rw [inner]

-- The text of some tokens, neither end of which hugs what is next to it.
structure Written (ts : List Token) (cs : List Char) : Prop where
  spelled : spell ts = cs
  first : ∃ t, ts.head? = some t ∧ t.hugsPrevious = false
  last : ∃ t, ts.getLast? = some t ∧ t.hugsNext = false

namespace Written

variable {ts ts' : List Token} {cs cs' : List Char}

theorem one (t : Token) (next : t.hugsNext = false) (previous : t.hugsPrevious = false) :
    Written [t] t.chars :=
  ⟨rfl, ⟨t, rfl, previous⟩, ⟨t, rfl, next⟩⟩

theorem append (front : Written ts cs) (back : Written ts' cs') :
    Written (ts ++ ts') (cs ++ ' ' :: cs') := by
  obtain ⟨t, isLast, next⟩ := front.last
  obtain ⟨t', isFirst, previous⟩ := back.first
  refine ⟨?_, ?_, ?_⟩
  · rw [spell_append isLast isFirst, front.spelled, back.spelled, gap, next, previous]
    simp
  · obtain ⟨a, isHead, hugs⟩ := front.first
    exact ⟨a, by simp [List.head?_append, isHead], hugs⟩
  · obtain ⟨a, isEnd, hugs⟩ := back.last
    exact ⟨a, by simp [List.getLast?_append, isEnd], hugs⟩

theorem append_comma (front : Written ts cs) (back : Written ts' cs') :
    Written (ts ++ .comma :: ts') (cs ++ [',', ' '] ++ cs') := by
  obtain ⟨t, isLast, next⟩ := front.last
  obtain ⟨t', isFirst, previous⟩ := back.first
  have after : spell (.comma :: ts') = ',' :: ' ' :: cs' := by
    rw [← List.singleton_append, spell_append (t := .comma) rfl isFirst, back.spelled, gap,
      previous]
    rfl
  refine ⟨?_, ?_, ?_⟩
  · rw [spell_append isLast (u := .comma) rfl, front.spelled, after]
    simp [gap, hugsPrevious]
  · obtain ⟨a, isHead, hugs⟩ := front.first
    exact ⟨a, by simp [List.head?_append, isHead], hugs⟩
  · obtain ⟨a, isEnd, hugs⟩ := back.last
    exact ⟨a, by simp [List.getLast?_append, List.getLast?_cons, isEnd], hugs⟩

theorem brackets (inner : Written ts cs) :
    Written (.opening :: ts ++ [.closing]) (inBrackets cs) := by
  obtain ⟨t, isFirst, -⟩ := inner.first
  obtain ⟨t', isLast, -⟩ := inner.last
  have opened : spell (.opening :: ts) = '(' :: cs := by
    rw [← List.singleton_append, spell_append (t := .opening) rfl isFirst, inner.spelled]
    simp [gap, hugsNext, spell, chars]
  have ends : (Token.opening :: ts).getLast? = some t' := by simp [List.getLast?_cons, isLast]
  refine ⟨?_, ⟨.opening, rfl, rfl⟩, ⟨.closing, List.getLast?_concat .., rfl⟩⟩
  rw [spell_append ends (u := .closing) rfl, opened]
  simp [gap, hugsPrevious, spell, chars, inBrackets]

theorem emptyBrackets : Written [.opening, .closing] ['(', ')'] :=
  ⟨rfl, ⟨.opening, rfl, rfl⟩, ⟨.closing, rfl, rfl⟩⟩

theorem joined {α : Type} {separator : Token} {between : List Char} {tokens : α → List Token}
    {chars : α → List Char}
    (join : ∀ {ts cs ts' cs'}, Written ts cs → Written ts' cs' →
      Written (ts ++ separator :: ts') (cs ++ between ++ cs'))
    (a : α) (as : List α) (parts : ∀ x ∈ a :: as, Written (tokens x) (chars x)) :
    Written ([separator].intercalate ((a :: as).map tokens))
      (joinWith between ((a :: as).map chars)) := by
  induction as generalizing a with
  | nil => simpa [joinWith] using parts a (by simp)
  | cons b as ih =>
    obtain ⟨first, others⟩ := List.forall_mem_cons.1 parts
    have all := join first (ih b others)
    simpa [List.intercalate_cons_cons, joinWith] using all

theorem append_word {w : Word} {between : List Char} (blanks : between = ' ' :: w.chars ++ [' '])
    (front : Written ts cs) (back : Written ts' cs') :
    Written (ts ++ .word w :: ts') (cs ++ between ++ cs') := by
  have all := front.append ((one (.word w) rfl rfl).append back)
  simpa [chars, blanks] using all

end Written

inductive Trails : List Token → List Char → Prop
  | nothing : Trails [] []
  | written {ts : List Token} {cs : List Char} : Written ts cs → Trails ts (' ' :: cs)

variable {ts ts' : List Token} {cs cs' : List Char}

theorem Trails.word {w : Word} {before : List Char} (blanks : before = ' ' :: w.chars ++ [' '])
    (written : Written ts cs) : Trails (.word w :: ts) (before ++ cs) := by
  have all := Trails.written ((Written.one (.word w) rfl rfl).append written)
  simpa [blanks, chars] using all

theorem Written.append_trailing (front : Written ts cs) (back : Trails ts' cs') :
    Written (ts ++ ts') (cs ++ cs') := by
  cases back with
  | nothing => simpa using front
  | written back => exact front.append back

theorem infix_intercalate {separator : Token} {part : List Token} {parts : List (List Token)}
    (member : part ∈ parts) : part <:+: [separator].intercalate parts := by
  induction parts with
  | nil => cases member
  | cons first parts ih =>
    cases parts with
    | nil =>
      obtain rfl := List.mem_singleton.1 member
      simp
    | cons second parts =>
      rw [List.intercalate_cons_cons]
      rcases List.mem_cons.1 member with rfl | later
      · exact ((List.prefix_append _ _).trans (List.prefix_append _ _)).isInfix
      · exact (ih later).trans (List.suffix_append _ _).isInfix

end Token

open Token (Written Trails spell)

namespace Expr

/-- Every expression has a property that passes from the parts of an expression to the whole. -/
@[elab_as_elim]
theorem induction {motive : Expr → Prop} (null : motive .null) (literal : ∀ l, motive (.literal l))
    (column : ∀ c, motive (.column c))
    (compare : ∀ op l r, motive l → motive r → motive (.compare op l r))
    (and : ∀ items, (∀ e ∈ items, motive e) → motive (.and items))
    (or : ∀ items, (∀ e ∈ items, motive e) → motive (.or items))
    (not : ∀ e, motive e → motive (.not e))
    (inList : ∀ e items, motive e → (∀ i ∈ items, motive i) → motive (.inList e items))
    (like : ∀ e p ignoreCase, motive e → motive p → motive (.like e p ignoreCase))
    (isNull : ∀ e, motive e → motive (.isNull e)) (e : Expr) : motive e := by
  refine @Expr.rec motive (fun items => ∀ e ∈ items, motive e) null literal column compare and or
    not inList like isNull ?_ ?_ e
  · exact fun _ member => nomatch member
  · exact fun e items first others => List.forall_mem_cons.2 ⟨first, others⟩

end Expr

def Column.tokens (c : Column) : List Token :=
  match c.table with
  | some t => [.name t, .dot, .name c.name]
  | none => [.name c.name]

def bracketed (ts : List Token) : List Token := .opening :: ts ++ [.closing]

namespace Token

structure Compositional (motive : List Token → Prop) : Prop where
  one : ∀ t : Token, t ≠ .opening → t ≠ .closing → t ≠ .dot → motive [t]
  qualified : ∀ s s', motive [.name s, .dot, .name s']
  append : ∀ {ts ts'}, motive ts → motive ts' → motive (ts ++ ts')
  brackets : ∀ {ts}, motive ts → motive (bracketed ts)

namespace Compositional

variable {motive : List Token → Prop} (parts : Compositional motive)

include parts

theorem word (w : Word) : motive [.word w] := parts.one _ nofun nofun nofun

theorem literal (l : Literal) : motive [.literal l] := parts.one _ nofun nofun nofun

theorem comparison (op : Comparison) : motive [.comparison op] := parts.one _ nofun nofun nofun

theorem intercalate {separator : Token} (single : motive [separator]) {tss : List (List Token)}
    (some : tss ≠ []) (each : ∀ ts ∈ tss, motive ts) : motive ([separator].intercalate tss) := by
  induction tss with
  | nil => exact absurd rfl some
  | cons ts tss ih =>
    obtain ⟨first, others⟩ := List.forall_mem_cons.1 each
    cases tss with
    | nil => simpa using first
    | cons ts' tss =>
      rw [List.intercalate_cons_cons]
      exact parts.append (parts.append first single) (ih (List.cons_ne_nil _ _) others)

end Compositional

end Token

namespace Expr

def placedTokens (required : Binding) (e : Expr) (ts : List Token) : List Token :=
  if e.binding.level < required.level then bracketed ts else ts

mutual

def tokens : Expr → List Token
  | .null => [.word .NULL]
  | .literal l => [.literal l]
  | .column c => c.tokens
  | .compare op l r =>
    placedTokens .atom l l.tokens ++ .comparison op :: placedTokens .atom r r.tokens
  | .and [] => [.literal (.int 1), .comparison .eq, .literal (.int 1)]
  | .or [] => [.literal (.int 1), .comparison .eq, .literal (.int 0)]
  | .and [e] => e.tokens
  | .or [e] => e.tokens
  | .and items => [Token.word .AND].intercalate (itemsTokens .and items)
  | .or items => [Token.word .OR].intercalate (itemsTokens .not items)
  | .not e => .word .NOT :: placedTokens .atom e e.tokens
  | .inList e items =>
    placedTokens .atom e e.tokens ++ .word .IN ::
      bracketed ([Token.comma].intercalate (itemsTokens .or items))
  | .like e p ignoreCase =>
    placedTokens .atom e e.tokens ++ .word (if ignoreCase then .ILIKE else .LIKE) ::
      placedTokens .atom p p.tokens
  | .isNull e => placedTokens .atom e e.tokens ++ [.word .IS, .word .NULL]

def itemsTokens (required : Binding) : List Expr → List (List Token)
  | [] => []
  | e :: es => placedTokens required e e.tokens :: itemsTokens required es

end

theorem itemsTokens_eq_map (required : Binding) (items : List Expr) :
    itemsTokens required items = items.map fun e => placedTokens required e e.tokens := by
  induction items with
  | nil => rfl
  | cons e items ih => rw [itemsTokens, ih, List.map_cons]

theorem forall_tokens {motive : List Token → Prop} (parts : Token.Compositional motive)
    (nil : motive []) (e : Expr) : motive e.tokens := by
  have placed (required : Binding) {e : Expr} (inner : motive e.tokens) :
      motive (placedTokens required e e.tokens) := by
    unfold placedTokens
    split
    · exact parts.brackets inner
    · exact inner
  have items (required : Binding) {separator : Token} (single : motive [separator])
      {items : List Expr} (each : ∀ i ∈ items, motive i.tokens) :
      motive ([separator].intercalate (itemsTokens required items)) := by
    cases items with
    | nil => exact nil
    | cons e items =>
      rw [itemsTokens_eq_map]
      refine parts.intercalate single (by simp) (List.forall_mem_map.2 ?_)
      exact fun i member => placed required (each i member)
  induction e using Expr.induction with
  | null => exact parts.word .NULL
  | literal l => exact parts.literal l
  | column c =>
    obtain ⟨table, name⟩ := c
    cases table with
    | none => exact parts.one _ nofun nofun nofun
    | some t => exact parts.qualified t name
  | compare op l r left right =>
    exact parts.append (placed .atom left) (parts.append (parts.comparison op) (placed .atom right))
  | and es each =>
    match es with
    | [] =>
      exact parts.append (parts.literal _) (parts.append (parts.comparison .eq) (parts.literal _))
    | [e] => exact each e (by simp)
    | _ :: _ :: _ => exact items .and (parts.word .AND) each
  | or es each =>
    match es with
    | [] =>
      exact parts.append (parts.literal _) (parts.append (parts.comparison .eq) (parts.literal _))
    | [e] => exact each e (by simp)
    | _ :: _ :: _ => exact items .not (parts.word .OR) each
  | not e inner => exact parts.append (parts.word .NOT) (placed .atom inner)
  | inList e es inner each =>
    have list := parts.brackets (items .or (parts.one .comma nofun nofun nofun) each)
    exact parts.append (placed .atom inner) (parts.append (parts.word .IN) list)
  | like e p ignoreCase inner pattern =>
    exact parts.append (placed .atom inner) (parts.append (parts.word _) (placed .atom pattern))
  | isNull e inner =>
    exact parts.append (placed .atom inner) (parts.append (parts.word .IS) (parts.word .NULL))

theorem itemsChars_eq_map (required : Binding) (items : List Expr) :
    itemsChars required items = items.map fun e => placed required e e.chars := by
  induction items with
  | nil => rfl
  | cons e items ih => rw [itemsChars, ih, List.map_cons]

theorem written_column (c : Column) : Written c.tokens c.chars := by
  obtain ⟨table, name⟩ := c
  cases table with
  | none => exact .one (.name name) rfl rfl
  | some t =>
    refine ⟨?_, ⟨.name t, rfl, rfl⟩, ⟨.name name, rfl, rfl⟩⟩
    simp [Column.tokens, Column.chars, spell, Token.gap, Token.hugsNext, Token.hugsPrevious,
      Token.chars]

theorem written_placed (required : Binding) {e : Expr} (written : Written e.tokens e.chars) :
    Written (placedTokens required e e.tokens) (placed required e e.chars) := by
  unfold placedTokens placed
  split
  · exact written.brackets
  · exact written

theorem written_items {separator : Token} {between : List Char} (required : Binding)
    (join : ∀ {ts cs ts' cs'}, Written ts cs → Written ts' cs' →
      Written (ts ++ separator :: ts') (cs ++ between ++ cs'))
    (e : Expr) (items : List Expr) (written : ∀ i ∈ e :: items, Written i.tokens i.chars) :
    Written ([separator].intercalate (itemsTokens required (e :: items)))
      (joinWith between (itemsChars required (e :: items))) := by
  rw [itemsTokens_eq_map, itemsChars_eq_map]
  exact .joined join e items fun i member => written_placed required (written i member)

theorem written_and (required : Binding) (e : Expr) (items : List Expr)
    (written : ∀ i ∈ e :: items, Written i.tokens i.chars) :
    Written ([Token.word .AND].intercalate (itemsTokens required (e :: items)))
      (joinWith " AND ".toList (itemsChars required (e :: items))) :=
  written_items required (Written.append_word (by decide)) e items written

theorem written_tokens (e : Expr) : Written e.tokens e.chars := by
  induction e using Expr.induction with
  | null => exact .one (.word .NULL) rfl rfl
  | literal l => exact .one (.literal l) rfl rfl
  | column c => exact written_column c
  | compare op l r left right =>
    have tail := (Written.one (.comparison op) rfl rfl).append (written_placed .atom right)
    have all := (written_placed .atom left).append tail
    rw [tokens, chars]
    simpa only [List.append_assoc, List.cons_append, List.nil_append, Token.chars] using all
  | and items each =>
    match items with
    | [] =>
      rw [tokens, chars]
      exact ⟨by decide, ⟨_, rfl, rfl⟩, ⟨_, rfl, rfl⟩⟩
    | [e] => exact each e (by simp)
    | e :: e' :: items => exact written_and .and e (e' :: items) each
  | or items each =>
    match items with
    | [] =>
      rw [tokens, chars]
      exact ⟨by decide, ⟨_, rfl, rfl⟩, ⟨_, rfl, rfl⟩⟩
    | [e] => exact each e (by simp)
    | e :: e' :: items =>
      exact written_items .not (Written.append_word (w := .OR) (by decide)) e (e' :: items) each
  | not e inner => exact (Written.one (.word .NOT) rfl rfl).append (written_placed .atom inner)
  | inList e items inner each =>
    have list : Written (bracketed ([Token.comma].intercalate (itemsTokens .or items)))
        ('(' :: joinWith [',', ' '] (itemsChars .or items) ++ [')']) := by
      cases items with
      | nil => exact .emptyBrackets
      | cons i items => exact (written_items .or Written.append_comma i items each).brackets
    have all := (written_placed .atom inner).append_word (w := .IN) rfl list
    have blanks : ' ' :: Word.IN.chars ++ [' ', '('] = " IN (".toList := by decide
    rw [tokens, chars, ← blanks]
    simpa only [List.append_assoc, List.cons_append, List.nil_append] using all
  | like e p ignoreCase inner pattern =>
    cases ignoreCase with
    | true => exact (written_placed .atom inner).append_word rfl (written_placed .atom pattern)
    | false => exact (written_placed .atom inner).append_word rfl (written_placed .atom pattern)
  | isNull e inner =>
    have tail : Written [.word .IS, .word .NULL] "IS NULL".toList :=
      ⟨by decide, ⟨_, rfl, rfl⟩, ⟨_, rfl, rfl⟩⟩
    exact (written_placed .atom inner).append tail

end Expr

def Projection.tokens (p : Projection) : List Token :=
  match p.label with
  | some a => p.expr.tokens ++ [.word .AS, .name a]
  | none => p.expr.tokens

def SortKey.tokens (k : SortKey) : List Token :=
  Expr.placedTokens .and k.expr k.expr.tokens ++ if k.descending then [.word .DESC] else []

namespace Select

def distinctTokens (distinct : Bool) : List Token := if distinct then [.word .DISTINCT] else []

def projectionsTokens (ps : List Projection) : List Token :=
  if ps.isEmpty then [.star] else [Token.comma].intercalate (ps.map Projection.tokens)

def whereTokens (predicates : List Expr) : List Token :=
  if predicates.isEmpty then []
  else .word .WHERE :: [Token.word .AND].intercalate (Expr.itemsTokens .and predicates)

def orderTokens (keys : List SortKey) : List Token :=
  if keys.isEmpty then []
  else .word .ORDER :: .word .BY :: [Token.comma].intercalate (keys.map SortKey.tokens)

def countTokens (w : Word) : Option Nat → List Token
  | some n => [.word w, .count n]
  | none => []

mutual

def tokens : Select → List Token
  | ⟨distinct, projections, source, predicates, sortKeys, limit, offset⟩ =>
    .word .SELECT :: distinctTokens distinct ++ projectionsTokens projections
      ++ (match source with
        | some s => .word .FROM :: sourceTokens s
        | none => [])
      ++ whereTokens predicates ++ orderTokens sortKeys ++ countTokens .LIMIT limit
      ++ countTokens .OFFSET offset

def sourceTokens : Source → List Token
  | .table name => [.name name]
  | .subquery q label => bracketed q.tokens ++ [.word .AS, .name label]

end

def fromTokens : Option Source → List Token
  | some s => .word .FROM :: sourceTokens s
  | none => []

theorem tokens_eq (q : Select) :
    q.tokens = .word .SELECT :: distinctTokens q.distinct ++ projectionsTokens q.projections
      ++ fromTokens q.source ++ whereTokens q.predicates ++ orderTokens q.sortKeys
      ++ countTokens .LIMIT q.limit ++ countTokens .OFFSET q.offset := by
  obtain ⟨_, _, source, _, _, _, _⟩ := q
  rw [tokens.eq_def]
  cases source <;> rfl

def fromChars : Option Source → List Char
  | some s => " FROM ".toList ++ sourceChars s
  | none => []

theorem chars_eq (q : Select) :
    q.chars = "SELECT ".toList ++ (if q.distinct then "DISTINCT ".toList else [])
      ++ projectionsChars q.projections ++ fromChars q.source ++ whereChars q.predicates
      ++ orderChars q.sortKeys ++ countChars " LIMIT " q.limit
      ++ countChars " OFFSET " q.offset := by
  obtain ⟨_, _, source, _, _, _, _⟩ := q
  rw [chars.eq_def]
  cases source <;> rfl

@[elab_as_elim]
theorem induction {motive : Select → Prop}
    (step : ∀ q : Select,
      (∀ inner label, q.source = some (.subquery inner label) → motive inner) → motive q)
    (q : Select) : motive q := by
  induction size : q.depth using Nat.strong_induction_on generalizing q with
  | _ n ih =>
    apply step
    intro inner label isSource
    obtain ⟨_, _, _, _, _, _, _⟩ := q
    subst isSource size
    exact ih inner.depth (Nat.lt_succ_self _) inner rfl

section written

variable {between : List Char}

theorem written_projection (p : Projection) : Written p.tokens (projectionChars p) := by
  obtain ⟨e, label⟩ := p
  cases label with
  | none => exact e.written_tokens
  | some a =>
    have label : Written [.name a] (nameChars a) := .one (.name a) rfl rfl
    have trails : Trails [.word .AS, .name a] (" AS ".toList ++ nameChars a) :=
      .word (by decide) label
    simpa [Projection.tokens, projectionChars] using e.written_tokens.append_trailing trails

theorem written_projections (ps : List Projection) :
    Written (projectionsTokens ps) (projectionsChars ps) := by
  cases ps with
  | nil => exact .one .star rfl rfl
  | cons p ps =>
    exact .joined Written.append_comma p ps fun p _ => written_projection p

theorem written_front (distinct : Bool) (ps : List Projection) :
    Written (.word .SELECT :: distinctTokens distinct ++ projectionsTokens ps)
      ("SELECT ".toList ++ (if distinct then "DISTINCT ".toList else [])
        ++ projectionsChars ps) := by
  have select := Written.one (.word .SELECT) rfl rfl
  have word : "SELECT ".toList = Word.SELECT.chars ++ [' '] := by decide
  cases distinct with
  | false => simpa [distinctTokens, word, Token.chars] using select.append (written_projections ps)
  | true =>
    have word' : "DISTINCT ".toList = Word.DISTINCT.chars ++ [' '] := by decide
    have all := select.append
      ((Written.one (.word .DISTINCT) rfl rfl).append (written_projections ps))
    simpa [distinctTokens, word, word', Token.chars] using all

theorem written_sortKey (k : SortKey) : Written k.tokens (sortKeyChars k) := by
  obtain ⟨e, descending⟩ := k
  have key := Expr.written_placed .and e.written_tokens
  cases descending with
  | false => simpa [SortKey.tokens, sortKeyChars] using key
  | true => exact key.append (.one (.word .DESC) rfl rfl)

theorem trails_where (predicates : List Expr) :
    Trails (whereTokens predicates) (whereChars predicates) := by
  cases predicates with
  | nil => exact .nothing
  | cons p ps =>
    have items := Expr.written_and .and p ps fun e _ => e.written_tokens
    exact .word (w := .WHERE) (by decide) items

theorem trails_order (keys : List SortKey) :
    Trails (orderTokens keys) (orderChars keys) := by
  cases keys with
  | nil => exact .nothing
  | cons k ks =>
    have items := Written.joined Written.append_comma k ks fun k _ => written_sortKey k
    have keys := (Written.one (.word .BY) rfl rfl).append items
    have words : " ORDER BY ".toList =
        (' ' :: Word.ORDER.chars ++ [' ']) ++ (Word.BY.chars ++ [' ']) := by decide
    have all := Trails.word (w := .ORDER) rfl keys
    simpa [orderTokens, orderChars, words, Token.chars] using all

theorem trails_count (w : Word) (before : String)
    (blanks : before.toList = ' ' :: w.chars ++ [' ']) (n : Option Nat) :
    Trails (countTokens w n) (countChars before n) := by
  cases n with
  | none => exact .nothing
  | some n => exact .word blanks (.one (.count n) rfl rfl)

theorem trails_source (source : Option Source)
    (inner : ∀ q label, source = some (.subquery q label) → Written q.tokens q.chars) :
    Trails (fromTokens source) (fromChars source) := by
  match source with
  | none => exact .nothing
  | some (.table name) => exact .word (w := .FROM) (by decide) (.one (.name name) rfl rfl)
  | some (.subquery q label) =>
    have named : Trails [.word .AS, .name label] (" AS ".toList ++ nameChars label) :=
      .word (by decide) (.one (.name label) rfl rfl)
    have query := (inner q label rfl).brackets.append_trailing named
    rw [← List.append_assoc] at query
    exact .word (w := .FROM) (by decide) query

theorem written_tokens (q : Select) : Written q.tokens q.chars := by
  induction q using Select.induction with
  | step q inner =>
    have front := written_front q.distinct q.projections
    have ordered := ((front.append_trailing (trails_source q.source inner)).append_trailing
      (trails_where q.predicates)).append_trailing (trails_order q.sortKeys)
    have limited := ordered.append_trailing (trails_count .LIMIT " LIMIT " (by decide) q.limit)
    rw [tokens_eq, chars_eq]
    exact limited.append_trailing (trails_count .OFFSET " OFFSET " (by decide) q.offset)

end written

end Select

end ViewQuery.Sql
