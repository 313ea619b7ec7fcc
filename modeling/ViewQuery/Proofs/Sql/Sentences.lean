import ViewQuery.Proofs.Sql.Quoting

set_option autoImplicit false

namespace ViewQuery.Sql

/-- The grammar of expressions, by how tightly they hold together. -/
inductive Sentence : Binding → List Token → Prop
  | null : Sentence .atom [.word .NULL]
  | literal (l : Literal) : Sentence .atom [.literal l]
  | name (s : String) : Sentence .atom [.name s]
  | qualified (s s' : String) : Sentence .atom [.name s, .dot, .name s']
  | brackets {ts : List Token} : Sentence .or ts → Sentence .atom (bracketed ts)
  | compare {ts ts' : List Token} (op : Comparison) : Sentence .atom ts → Sentence .atom ts' →
    Sentence .predicate (ts ++ .comparison op :: ts')
  | like {ts ts' : List Token} {w : Word} : w = .LIKE ∨ w = .ILIKE → Sentence .atom ts →
    Sentence .atom ts' → Sentence .predicate (ts ++ .word w :: ts')
  | isNull {ts : List Token} : Sentence .atom ts →
    Sentence .predicate (ts ++ [.word .IS, .word .NULL])
  | inList {ts : List Token} {items : List (List Token)} : Sentence .atom ts → items ≠ [] →
    (∀ item ∈ items, Sentence .or item) →
    Sentence .predicate (ts ++ .word .IN :: bracketed ([Token.comma].intercalate items))
  | not {ts : List Token} : Sentence .not ts → Sentence .not (.word .NOT :: ts)
  | and {ts ts' : List Token} : Sentence .and ts → Sentence .and ts' →
    Sentence .and (ts ++ .word .AND :: ts')
  | or {ts ts' : List Token} : Sentence .or ts → Sentence .or ts' →
    Sentence .or (ts ++ .word .OR :: ts')
  | looser {b b' : Binding} {ts : List Token} : Sentence b ts → b'.level ≤ b.level → Sentence b' ts

def IsSentence (text : String) : Prop := ∃ ts, Sentence .or ts ∧ Token.spell ts = text.toList

namespace Expr

mutual

def hasEmptyList : Expr → Bool
  | .null | .literal _ | .column _ => false
  | .compare _ l r => l.hasEmptyList || r.hasEmptyList
  | .and items => itemsHaveEmptyList items
  | .or items => itemsHaveEmptyList items
  | .not e => e.hasEmptyList
  | .inList e items => items.isEmpty || e.hasEmptyList || itemsHaveEmptyList items
  | .like e p _ => e.hasEmptyList || p.hasEmptyList
  | .isNull e => e.hasEmptyList

def itemsHaveEmptyList : List Expr → Bool
  | [] => false
  | e :: es => e.hasEmptyList || itemsHaveEmptyList es

end

theorem itemsHaveEmptyList_eq_any (items : List Expr) :
    itemsHaveEmptyList items = items.any hasEmptyList := by
  induction items with
  | nil => rfl
  | cons e items ih => rw [itemsHaveEmptyList, ih, List.any_cons]

theorem itemsHaveEmptyList_eq_false {items : List Expr} :
    itemsHaveEmptyList items = false ↔ ∀ i ∈ items, i.hasEmptyList = false := by
  simp [itemsHaveEmptyList_eq_any]

end Expr

namespace Lexeme

def opening : Lexeme := .symbol ['(']

def closing : Lexeme := .symbol [')']

-- How many brackets are open after a lexeme; nothing if it closes one that was not opened.
def depthAfter (depth : Nat) (l : Lexeme) : Option Nat :=
  if l = opening then some (depth + 1)
  else if l = closing then if depth = 0 then none else some (depth - 1)
  else some depth

def Balanced (ls : List Lexeme) : Prop := ∀ depth, ls.foldlM depthAfter depth = some depth

-- No bracket is closed right where it was opened, and none is closed first or opened last.
structure Filled (ls : List Lexeme) : Prop where
  apart : ls.IsChain fun l l' => ¬(l = opening ∧ l' = closing)
  first : ∃ l ∈ ls.head?, l ≠ closing
  last : ∃ l ∈ ls.getLast?, l ≠ opening

variable {ls ls' : List Lexeme}

theorem Balanced.append (front : Balanced ls) (back : Balanced ls') : Balanced (ls ++ ls') :=
  fun depth => by
    rw [List.foldlM_append, front]
    exact back depth

theorem Balanced.inBrackets (inner : Balanced ls) : Balanced (opening :: ls ++ [closing]) := by
  intro depth
  have opened : depthAfter depth opening = some (depth + 1) := rfl
  have closed : depthAfter (depth + 1) closing = some depth := rfl
  simp [opened, inner (depth + 1), closed]

theorem balanced_of_forall (neither : ∀ l ∈ ls, l ≠ opening ∧ l ≠ closing) : Balanced ls := by
  intro depth
  induction ls with
  | nil => rfl
  | cons l ls ih =>
    obtain ⟨⟨noOpening, noClosing⟩, others⟩ := List.forall_mem_cons.1 neither
    rw [List.foldlM_cons, depthAfter, if_neg noOpening, if_neg noClosing]
    exact ih others

theorem Filled.append (front : Filled ls) (back : Filled ls') : Filled (ls ++ ls') := by
  obtain ⟨l, isLast, noOpening⟩ := front.last
  refine ⟨front.apart.append back.apart ?_, ?_, ?_⟩
  · intro a isLast' b _ both
    exact noOpening (Option.mem_unique isLast isLast' ▸ both.1)
  · obtain ⟨a, isHead, other⟩ := front.first
    exact ⟨a, by simp_all [List.head?_append], other⟩
  · obtain ⟨a, isEnd, other⟩ := back.last
    exact ⟨a, by simp_all [List.getLast?_append], other⟩

theorem Filled.inBrackets (inner : Filled ls) : Filled (opening :: ls ++ [closing]) := by
  obtain ⟨l, isFirst, noClosing⟩ := inner.first
  obtain ⟨l', isLast, noOpening⟩ := inner.last
  have opened : (opening :: ls).IsChain fun l l' => ¬(l = opening ∧ l' = closing) :=
    inner.apart.cons fun a isFirst' both => noClosing (Option.mem_unique isFirst isFirst' ▸ both.2)
  refine ⟨opened.append (.singleton closing) ?_, ⟨opening, rfl, nofun⟩, ⟨closing, ?_, nofun⟩⟩
  · intro a isLast' b _ both
    have isLast'' : l' ∈ (opening :: ls).getLast? := by simp_all [List.getLast?_cons]
    exact noOpening (Option.mem_unique isLast'' isLast' ▸ both.1)
  · exact List.getLast?_concat ..

theorem filled_of_forall (some : ls ≠ []) (neither : ∀ l ∈ ls, l ≠ opening ∧ l ≠ closing) :
    Filled ls := by
  obtain ⟨l, more, rfl⟩ := List.exists_cons_of_ne_nil some
  refine ⟨?_, ⟨l, rfl, (neither l (by simp)).2⟩, ⟨_, List.getLast?_eq_getLast_of_ne_nil some, ?_⟩⟩
  · have pairwise : (l :: more).Pairwise fun l l' => ¬(l = opening ∧ l' = closing) :=
      List.pairwise_of_forall_mem_list fun a inside _ _ both => (neither a inside).1 both.1
    exact pairwise.isChain
  · exact (neither _ (List.getLast_mem some)).1

theorem Filled.not_empty_brackets (filled : Filled ls) : ¬[opening, closing] <:+: ls := by
  intro inside
  have pair := filled.apart.infix inside
  simp at pair

end Lexeme

open Token (Phrase)
open Lexeme (Balanced Filled)

theorem Token.lexemes_neither {t : Token} (noOpening : t ≠ .opening) (noClosing : t ≠ .closing) :
    t.lexemes ≠ [] ∧ ∀ l ∈ t.lexemes, l ≠ Lexeme.opening ∧ l ≠ Lexeme.closing := by
  have bare (cs c : List Char) : Lexer.bareLexeme cs ≠ .symbol c := by
    unfold Lexer.bareLexeme
    split <;> exact Lexeme.noConfusion
  have signed (cs : List Char) : signedLexemes cs ≠ [] ∧
      ∀ l ∈ signedLexemes cs, l ≠ Lexeme.opening ∧ l ≠ Lexeme.closing := by
    have sign : ∀ c ∈ (Grammar.minus cs).1, c = '-' := by
      unfold Grammar.minus
      split <;> simp
    simp only [signedLexemes, List.mem_append, List.mem_map, List.mem_singleton]
    refine ⟨by simp, ?_⟩
    rintro l (⟨c, isSign, rfl⟩ | rfl)
    · rw [sign c isSign]
      decide
    · exact ⟨bare _ _, bare _ _⟩
  cases t with
  | opening => exact absurd rfl noOpening
  | closing => exact absurd rfl noClosing
  | literal l =>
    cases l with
    | str s => simp [lexemes, Lexeme.opening, Lexeme.closing]
    | _ => exact signed _
  | count n => simp [lexemes, Lexeme.opening, Lexeme.closing, bare]
  | name s =>
    rw [lexemes, nameLexeme]
    split <;> simp [Lexeme.opening, Lexeme.closing]
  | comparison op => cases op <;> decide
  | _ => simp [lexemes, Lexeme.opening, Lexeme.closing]

theorem Token.compositional_lexemes {motive : List Lexeme → Prop}
    (some : ∀ {ls}, ls ≠ [] → (∀ l ∈ ls, l ≠ Lexeme.opening ∧ l ≠ Lexeme.closing) → motive ls)
    (append : ∀ {ls ls'}, motive ls → motive ls' → motive (ls ++ ls'))
    (inBrackets : ∀ {ls}, motive ls → motive (Lexeme.opening :: ls ++ [Lexeme.closing])) :
    Compositional fun ts => motive (ts.flatMap lexemes) := by
  have one (t : Token) (noOpening : t ≠ .opening) (noClosing : t ≠ .closing) :
      motive ([t].flatMap lexemes) := by
    rw [List.flatMap_singleton]
    exact some (lexemes_neither noOpening noClosing).1 (lexemes_neither noOpening noClosing).2
  have join {ts ts' : List Token} (front : motive (ts.flatMap lexemes))
      (back : motive (ts'.flatMap lexemes)) : motive ((ts ++ ts').flatMap lexemes) := by
    rw [List.flatMap_append]
    exact append front back
  refine ⟨fun t noOpening noClosing _ => one t noOpening noClosing, fun s s' => ?_, join,
    fun inner => ?_⟩
  · exact join (one (.name s) nofun nofun)
      (join (one .dot nofun nofun) (one (.name s') nofun nofun))
  · rw [bracketed, List.flatMap_append]
    exact inBrackets inner

namespace Sentence

variable {b : Binding} {ts : List Token}

theorem closed {motive : List Token → Prop} (parts : Token.Compositional motive)
    (sentence : Sentence b ts) : motive ts := by
  induction sentence with
  | null => exact parts.word .NULL
  | literal l => exact parts.literal l
  | name s => exact parts.one _ nofun nofun nofun
  | qualified s s' => exact parts.qualified s s'
  | brackets _ inner => exact parts.brackets inner
  | compare op _ _ left right => exact parts.append left (parts.append (parts.comparison op) right)
  | like _ _ _ left right => exact parts.append left (parts.append (parts.word _) right)
  | isNull _ inner => exact parts.append inner (parts.append (parts.word .IS) (parts.word .NULL))
  | inList _ some _ inner each =>
    have list := parts.intercalate (parts.one .comma nofun nofun nofun) some each
    exact parts.append inner (parts.append (parts.word .IN) (parts.brackets list))
  | not _ inner => exact parts.append (parts.word .NOT) inner
  | and _ _ left right => exact parts.append left (parts.append (parts.word .AND) right)
  | or _ _ left right => exact parts.append left (parts.append (parts.word .OR) right)
  | looser _ _ same => exact same

theorem phrase (sentence : Sentence b ts) : Phrase ts := sentence.closed Token.compositional_phrase

theorem filled (sentence : Sentence b ts) : Filled (ts.flatMap Token.lexemes) :=
  sentence.closed (Token.compositional_lexemes Lexeme.filled_of_forall Filled.append
    Filled.inBrackets)

theorem joined {w : Word}
    (join : ∀ {ts ts'}, Sentence b ts → Sentence b ts' → Sentence b (ts ++ .word w :: ts'))
    {tss : List (List Token)} (some : tss ≠ []) (each : ∀ ts ∈ tss, Sentence b ts) :
    Sentence b ([Token.word w].intercalate tss) := by
  induction tss with
  | nil => exact absurd rfl some
  | cons ts tss ih =>
    obtain ⟨first, others⟩ := List.forall_mem_cons.1 each
    cases tss with
    | nil => simpa using first
    | cons ts' tss =>
      rw [List.intercalate_cons_cons, List.append_assoc]
      exact join first (ih (List.cons_ne_nil _ _) others)

end Sentence

def Token.Hollow (ts : List Token) : Prop := [opening, closing] <:+: ts

namespace Token.Hollow

variable {ts : List Token}

theorem brackets (hollow : Hollow ts) : Hollow (bracketed ts) :=
  hollow.trans ⟨[.opening], [.closing], rfl⟩

theorem append_left (hollow : Hollow ts) (ts' : List Token) : Hollow (ts ++ ts') :=
  hollow.trans (List.prefix_append ts ts').isInfix

theorem append_right (hollow : Hollow ts) (ts' : List Token) : Hollow (ts' ++ ts) :=
  hollow.trans (List.suffix_append ts' ts).isInfix

end Token.Hollow

open Token (Hollow)

namespace Expr

theorem sentence_placed {e : Expr} (required : Binding) (sentence : Sentence e.binding e.tokens) :
    Sentence required (placedTokens required e e.tokens) := by
  unfold placedTokens
  split
  · have inside : Sentence .or e.tokens := sentence.looser (Nat.zero_le _)
    exact inside.brackets.looser (by cases required <;> decide)
  · next tight => exact sentence.looser (Nat.not_lt.1 tight)

theorem sentence_items {w : Word} {b : Binding} (required : Binding)
    (join : ∀ {ts ts'}, Sentence b ts → Sentence b ts' → Sentence b (ts ++ .word w :: ts'))
    (looser : b.level ≤ required.level) {items : List Expr} (some : items ≠ [])
    (each : ∀ i ∈ items, Sentence i.binding i.tokens) :
    Sentence b ([Token.word w].intercalate (itemsTokens required items)) := by
  rw [itemsTokens_eq_map]
  refine .joined join (by simpa using some) (List.forall_mem_map.2 fun i member => ?_)
  exact (sentence_placed required (each i member)).looser looser

theorem sentence_and {items : List Expr} (each : ∀ i ∈ items, Sentence i.binding i.tokens) :
    Sentence (Expr.and items).binding (Expr.and items).tokens := by
  match items with
  | [] => exact .compare .eq (.literal _) (.literal _)
  | [e] => simpa [tokens, binding] using each e (by simp)
  | _ :: _ :: _ => exact sentence_items .and .and (Nat.le_refl _) (by simp) each

theorem sentence_or {items : List Expr} (each : ∀ i ∈ items, Sentence i.binding i.tokens) :
    Sentence (Expr.or items).binding (Expr.or items).tokens := by
  match items with
  | [] => exact .compare .eq (.literal _) (.literal _)
  | [e] => simpa [tokens, binding] using each e (by simp)
  | _ :: _ :: _ => exact sentence_items .not .or (Nat.zero_le _) (by simp) each

theorem sentence_tokens {e : Expr} (noneEmpty : e.hasEmptyList = false) :
    Sentence e.binding e.tokens := by
  induction e using Expr.induction with
  | null => exact .null
  | literal l => exact .literal l
  | column c =>
    obtain ⟨table, name⟩ := c
    cases table with
    | none => exact .name name
    | some t => exact .qualified t name
  | compare op l r left right =>
    obtain ⟨noneLeft, noneRight⟩ := Bool.or_eq_false_iff.1 noneEmpty
    exact .compare op (sentence_placed .atom (left noneLeft))
      (sentence_placed .atom (right noneRight))
  | and items each =>
    have noneEmpty := itemsHaveEmptyList_eq_false.1 noneEmpty
    exact sentence_and fun i member => each i member (noneEmpty i member)
  | or items each =>
    have noneEmpty := itemsHaveEmptyList_eq_false.1 noneEmpty
    exact sentence_or fun i member => each i member (noneEmpty i member)
  | not e inner =>
    have operand := sentence_placed .atom (inner noneEmpty)
    exact .not (operand.looser (by decide))
  | inList e items inner each =>
    simp only [hasEmptyList, Bool.or_eq_false_iff, List.isEmpty_eq_false_iff] at noneEmpty
    obtain ⟨⟨some, noneLeft⟩, noneItems⟩ := noneEmpty
    have list : ∀ item ∈ itemsTokens .or items, Sentence .or item := by
      rw [itemsTokens_eq_map]
      refine List.forall_mem_map.2 fun i member => sentence_placed .or ?_
      exact each i member (itemsHaveEmptyList_eq_false.1 noneItems i member)
    refine .inList (sentence_placed .atom (inner noneLeft)) ?_ list
    rw [itemsTokens_eq_map]
    simpa using some
  | like e p ignoreCase left right =>
    obtain ⟨noneLeft, noneRight⟩ := Bool.or_eq_false_iff.1 noneEmpty
    exact .like (by cases ignoreCase <;> simp) (sentence_placed .atom (left noneLeft))
      (sentence_placed .atom (right noneRight))
  | isNull e inner => exact .isNull (sentence_placed .atom (inner noneEmpty))

section hollow

variable {e : Expr}

theorem hollow_placed (required : Binding) (hollow : Hollow e.tokens) :
    Hollow (placedTokens required e e.tokens) := by
  unfold placedTokens
  split
  · exact hollow.brackets
  · exact hollow

theorem hollow_items {separator : Token} (required : Binding) {items : List Expr}
    (some : ∃ i ∈ items, Hollow i.tokens) :
    Hollow ([separator].intercalate (itemsTokens required items)) := by
  obtain ⟨i, member, hollow⟩ := some
  rw [itemsTokens_eq_map]
  exact (hollow_placed required hollow).trans (Token.infix_intercalate (List.mem_map_of_mem member))

theorem hollow_and {items : List Expr} (some : ∃ i ∈ items, Hollow i.tokens) :
    Hollow (Expr.and items).tokens := by
  match items with
  | [] => simp at some
  | [e] => simpa [tokens] using some
  | _ :: _ :: _ => exact hollow_items .and some

theorem hollow_or {items : List Expr} (some : ∃ i ∈ items, Hollow i.tokens) :
    Hollow (Expr.or items).tokens := by
  match items with
  | [] => simp at some
  | [e] => simpa [tokens] using some
  | _ :: _ :: _ => exact hollow_items .not some

theorem hollow_tokens (someEmpty : e.hasEmptyList = true) : Hollow e.tokens := by
  have items {items : List Expr}
      (each : ∀ i ∈ items, i.hasEmptyList = true → Hollow i.tokens)
      (someEmpty : itemsHaveEmptyList items = true) : ∃ i ∈ items, Hollow i.tokens := by
    rw [itemsHaveEmptyList_eq_any, List.any_eq_true] at someEmpty
    obtain ⟨i, member, someEmpty⟩ := someEmpty
    exact ⟨i, member, each i member someEmpty⟩
  induction e using Expr.induction with
  | null => cases someEmpty
  | literal l => cases someEmpty
  | column c => cases someEmpty
  | compare op l r left right =>
    rcases Bool.or_eq_true_iff.1 someEmpty with inLeft | inRight
    · exact (hollow_placed .atom (left inLeft)).append_left _
    · exact ((hollow_placed .atom (right inRight)).append_right [.comparison op]).append_right _
  | and parts each => exact hollow_and (items each someEmpty)
  | or parts each => exact hollow_or (items each someEmpty)
  | not e inner => exact (hollow_placed .atom (inner someEmpty)).append_right [.word .NOT]
  | inList e parts inner each =>
    simp only [hasEmptyList, Bool.or_eq_true, List.isEmpty_iff] at someEmpty
    rw [tokens]
    rcases someEmpty with (rfl | inLeft) | inItems
    · have pair : Hollow [.opening, .closing] := List.infix_rfl
      exact (pair.append_right [.word .IN]).append_right _
    · exact (hollow_placed .atom (inner inLeft)).append_left _
    · have list : Hollow (bracketed ([Token.comma].intercalate (itemsTokens .or parts))) :=
        (hollow_items .or (items each inItems)).brackets
      exact (list.append_right [.word .IN]).append_right _
  | like e p ignoreCase left right =>
    rcases Bool.or_eq_true_iff.1 someEmpty with inLeft | inRight
    · exact (hollow_placed .atom (left inLeft)).append_left _
    · exact ((hollow_placed .atom (right inRight)).append_right [_]).append_right _
  | isNull e inner => exact (hollow_placed .atom (inner someEmpty)).append_left _

end hollow

theorem balanced_tokens (e : Expr) : Balanced (e.tokens.flatMap Token.lexemes) :=
  e.forall_tokens (Token.compositional_lexemes (fun _ => Lexeme.balanced_of_forall) Balanced.append
    Balanced.inBrackets) fun _ => rfl

end Expr

theorem IsSentence.not_hollow {ts : List Token} {text : String} (sentence : IsSentence text)
    (lexed : lex text = some (ts.flatMap Token.lexemes)) : ¬Hollow ts := by
  obtain ⟨ts', sentence, spelled⟩ := sentence
  rintro ⟨before, after, rfl⟩
  -- Other tokens may have the same text, but they have the same lexemes then.
  have lexed' := sentence.phrase.lexes.lex
  rw [spelled, String.ofList_toList, lexed, Option.some.injEq] at lexed'
  refine sentence.filled.not_empty_brackets ?_
  rw [← lexed', List.flatMap_append, List.flatMap_append]
  exact List.infix_append _ _ _

/-- The text of an expression is a sentence of SQL if and only if all its lists have items, and the
brackets of the text balance in either case. -/
theorem Expr.isSentence_text_iff (e : Expr) :
    (IsSentence e.text ↔ e.hasEmptyList = false) ∧
    ∃ ls, lex e.text = some ls ∧ Balanced ls := by
  refine ⟨⟨fun sentence => ?_, fun noneEmpty => ?_⟩, _, e.lex_tokens, e.balanced_tokens⟩
  · by_contra someEmpty
    exact sentence.not_hollow e.lex_tokens (hollow_tokens (by simpa using someEmpty))
  · refine ⟨e.tokens, (sentence_tokens noneEmpty).looser (Nat.zero_le _), ?_⟩
    rw [e.written_tokens.spelled, text, String.toList_ofList]

theorem Expr.not_isSentence_empty_list : ¬IsSentence (Expr.inList (.ofName "a") []).text := by
  intro sentence
  refine sentence.not_hollow (Expr.lex_tokens _) ?_
  exact hollow_tokens rfl

end ViewQuery.Sql
