import ViewQuery.Grammar.Tree
import ViewQuery.Proofs.Grammar.Exactness
import ViewQuery.Proofs.Text.Trimming
import ViewQuery.Proofs.Validation.Dispatch

set_option autoImplicit false

namespace ViewQuery.Grammar

open Decimal

def bodyRule (quote : Char) : Rule := if quote = '\'' then .singleBody else .doubleBody

def Node.leaf (r : Rule) (t : List Char) : Node := ⟨r, t, []⟩

inductive LiteralTree : Lexeme → Node → Prop
  | float {n : Numeral} {t : List Char} : FloatText n t →
      LiteralTree (.float t) ⟨.literal, t, [.leaf .float t]⟩
  | int {n : Int} {t : List Char} : IntText n t →
      LiteralTree (.int t) ⟨.literal, t, [.leaf .int t]⟩
  | bool (b : Bool) : LiteralTree (.bool b) ⟨.literal, boolText b, [.leaf .boolean (boolText b)]⟩
  | str {quote : Char} {s t : List Char} : quote = '\'' ∨ quote = '"' → BodyText quote s t →
      LiteralTree (.str s) ⟨.literal, quote :: t ++ [quote],
        [⟨.string, quote :: t ++ [quote], [.leaf (bodyRule quote) t]⟩]⟩

def Node.Spans (n : Node) (t : List Char) : Prop := n.text = t

-- The tree of a call. Its arguments are spanned from the first to the last, if there are any.
inductive CallTree : RawCall → Node → Prop
  | bare {w gap inner : List Char} : Identifier w → SpaceRun gap → SpaceRun inner →
      CallTree ⟨w, []⟩ ⟨.call, w ++ gap ++ '(' :: inner ++ [')'], [.leaf .name w]⟩
  | applied {w gap t : List Char} {ls : List Lexeme} {ns : List Node} : Identifier w →
      SpaceRun gap → ItemsText Node.Spans ns t → List.Forall₂ LiteralTree ls ns →
      CallTree ⟨w, ls⟩ ⟨.call, w ++ gap ++ '(' :: t ++ [')'],
        [.leaf .name w, ⟨.args, Text.trimBy isSpace t, ns⟩]⟩

def joinedNodes : Role → List Node → List Node
  | .filter, ns => ns.intersperse (.leaf .conjunction "and".toList)
  | .action, ns => ns

inductive WholeTree (role : Role) : List RawCall → Node → Prop
  | mk {t : List Char} {raw : List RawCall} {ns : List Node} : QueryText role Node.Spans ns t →
      List.Forall₂ CallTree raw ns →
      WholeTree role raw ⟨.whole role, t, joinedNodes role ns ++ [.leaf .endOfText []]⟩

section texts

variable {l : Lexeme} {c : RawCall} {raw : List RawCall} {role : Role} {n : Node} {t : List Char}

theorem lexemeText_iff_tree : LexemeText l t ↔ ∃ n : Node, n.Spans t ∧ LiteralTree l n := by
  constructor
  · rintro (text | text | b | ⟨isQuote, body⟩)
    · exact ⟨_, by exact rfl, .float text⟩
    · exact ⟨_, by exact rfl, .int text⟩
    · exact ⟨_, by exact rfl, .bool b⟩
    · exact ⟨_, by exact rfl, .str isQuote body⟩
  · rintro ⟨n, rfl, text | text | b | ⟨isQuote, body⟩⟩
    · exact .float text
    · exact .int text
    · exact .bool b
    · exact .str (.mk isQuote body)

theorem spells_iff_tree : c.Spells t ↔ ∃ n : Node, n.Spans t ∧ CallTree c n := by
  have literals : ∀ l u, LexemeText l u ↔ ∃ n : Node, n.Spans u ∧ LiteralTree l n :=
    fun _ _ => lexemeText_iff_tree
  constructor
  · obtain ⟨w, ls⟩ := c
    rintro ⟨name, gap, inner | items⟩
    · exact ⟨_, by exact rfl, .bare name gap inner⟩
    · obtain ⟨ns, items, trees⟩ := (itemsText_iff literals).1 items
      exact ⟨_, by exact rfl, .applied name gap items (List.Forall₂.flip trees)⟩
  · rintro ⟨n, rfl, ⟨name, gap, inner⟩ | ⟨name, gap, items, trees⟩⟩
    · exact .mk name gap (.none inner)
    · exact .mk name gap (.some ((itemsText_iff literals).2 ⟨_, items, List.Forall₂.flip trees⟩))

theorem queryText_iff_tree :
    QueryText role RawCall.Spells raw t ↔ ∃ root : Node, root.Spans t ∧ WholeTree role raw root := by
  have calls : ∀ c u, RawCall.Spells c u ↔ ∃ n : Node, n.Spans u ∧ CallTree c n :=
    fun _ _ => spells_iff_tree
  constructor
  · intro text
    obtain ⟨ns, nodes, trees⟩ := (queryText_iff calls).1 text
    exact ⟨_, by exact rfl, .mk nodes (List.Forall₂.flip trees)⟩
  · rintro ⟨root, rfl, nodes, trees⟩
    exact (queryText_iff calls).2 ⟨_, nodes, List.Forall₂.flip trees⟩

end texts

section integers

variable {ds : List Char}

def int64OfInt (n : Int) : Except String Int64 :=
  if Int64.maxValue.toInt < n then .error LiteralFault.tooLarge.reason
  else if n < Int64.minValue.toInt then .error LiteralFault.tooSmall.reason
  else .ok (Int64.ofInt n)

theorem le_foldl_digits (n : Nat) (ds : List Char) :
    n ≤ ds.foldl (fun n c => 10 * n + digitValue c) n := by
  induction ds generalizing n with
  | nil => exact le_rfl
  | cons d ds ih => exact le_trans (by omega) (ih (10 * n + digitValue d))

theorem signed_step (negative : Bool) (n : Nat) (d : Char) :
    (if negative then 10 * signed negative n - digitValue d
      else 10 * signed negative n + digitValue d) = signed negative (10 * n + digitValue d) := by
  cases negative
  · simp [signed]
  · simp [signed]
    ring

theorem signed_above {negative : Bool} {m n : Nat} {bound : Int} (grows : m ≤ n)
    (nonneg : 0 ≤ bound) (above : bound < signed negative m) : bound < signed negative n := by
  cases negative <;> simp only [signed, if_true, Bool.false_eq_true, if_false] at * <;> omega

theorem signed_below {negative : Bool} {m n : Nat} {bound : Int} (grows : m ≤ n)
    (nonpos : bound ≤ 0) (below : signed negative m < bound) : signed negative n < bound := by
  cases negative <;> simp only [signed, if_true, Bool.false_eq_true, if_false] at * <;> omega

-- A number that leaves the range at a digit does not come back into it with the others.
theorem int64Digits_signed (negative : Bool) (inside : ∀ d ∈ ds, isDigit d) (n : Nat)
    (within : Int64.minValue.toInt ≤ signed negative n ∧ signed negative n ≤ Int64.maxValue.toInt) :
    int64Digits negative (signed negative n) ds =
      int64OfInt (signed negative (ds.foldl (fun n c => 10 * n + digitValue c) n)) := by
  induction ds generalizing n with
  | nil =>
    obtain ⟨low, high⟩ := within
    rw [int64Digits, List.foldl_nil, int64OfInt, if_neg (Int.not_lt.2 high),
      if_neg (Int.not_lt.2 low)]
  | cons d ds ih =>
    obtain ⟨digit, others⟩ := List.forall_mem_cons.1 inside
    have grows := le_foldl_digits (10 * n + digitValue d) ds
    simp only [int64Digits, digit, if_true, signed_step, List.foldl_cons]
    split
    next above => rw [int64OfInt, if_pos (signed_above grows (by decide) above)]
    next notAbove =>
      split
      next below =>
        have stays := signed_below grows (by decide) below
        have order : Int64.minValue.toInt ≤ Int64.maxValue.toInt := by decide
        rw [int64OfInt, if_neg (Int.not_lt.2 (stays.le.trans order)), if_pos stays]
      next notBelow => exact ih others _ ⟨Int.not_lt.1 notBelow, Int.not_lt.1 notAbove⟩

theorem IntText.int64_eq {n : Int} {t : List Char} (text : IntText n t) :
    int64 t = int64OfInt n := by
  cases text with
  | @mk negative ds whole =>
    have parts : sign (signText negative ++ ds) = (negative, ds) := by
      simpa using sign_signText whole.run []
    have read := int64Digits_signed negative whole.run.2 0 (by cases negative <;> decide)
    have zero : signed negative 0 = 0 := by cases negative <;> rfl
    rw [zero] at read
    have filled : (signText negative ++ ds).isEmpty = false := by
      simpa using fun _ => whole.run.1
    simp only [int64, parts, filled, whole.run.isEmpty, Bool.false_eq_true, if_false]
    exact read

end integers

section reading

variable {broken : List Char} {l : Lexeme} {c : RawCall} {raw : List RawCall} {n root : Node}

theorem FloatText.float64_eq {n : Numeral} {t : List Char} (text : FloatText n t) :
    float64 t = if (n.round double).isFinite then .ok (toFloat (n.round double))
      else .error LiteralFault.notFinite.reason := by
  obtain ⟨c, cs, rfl, -⟩ := (LexemeText.float text).exists_start
  simp only [float64, text.ofText?_eq, List.isEmpty_cons, Bool.false_eq_true, if_false]

theorem BodyText.unescape_eq {quote : Char} {s t : List Char} (body : BodyText quote s t) :
    unescape broken t = s := by
  induction body with
  | nil => rfl
  | plain _ notSlash _ _ _ ih => simp [unescape, notSlash, ih]
  | escape escape _ ih => simp [unescape, unescape?_eq_some_iff.2 escape, ih]

theorem LiteralTree.read (tree : LiteralTree l n) :
    n.literal broken = l.value.mapError .ofInvalid := by
  cases tree with
  | float text =>
    simp only [Node.literal, Node.leaf, Lexeme.value, text.float64_eq, text.value]
    split <;> rfl
  | int text =>
    simp only [Node.literal, Node.leaf, Lexeme.value, text.int64_eq, text.value, int64OfInt]
    split
    · rfl
    · split <;> rfl
  | bool b => cases b <;> rfl
  | str isQuote body =>
    simp only [Node.literal, Node.leaf, Lexeme.value, body.unescape_eq]
    rfl

theorem mapM_mapError {α β γ ε δ : Type} {f : α → Except ε γ} {g : β → Except δ γ} {h : ε → δ}
    {as : List α} {bs : List β}
    (same : List.Forall₂ (fun a b => g b = (f a).mapError h) as bs) :
    bs.mapM g = (as.mapM f).mapError h := by
  induction same with
  | nil => rfl
  | @cons a b as bs first _ ih =>
    rw [List.mapM_cons, List.mapM_cons, first, ih]
    cases f a with
    | error e => rfl
    | ok c => cases as.mapM f <;> rfl

theorem CallTree.read (tree : CallTree c n) : n.call broken = c.value.mapError .ofInvalid := by
  cases tree with
  | bare name gap inner => rfl
  | @applied w gap t ls ns name gap' items trees =>
    have args : ns.mapM (Node.literal broken) = (ls.mapM Lexeme.value).mapError .ofInvalid :=
      mapM_mapError (trees.imp fun _ _ tree => tree.read)
    simp only [Node.call, args, RawCall.value]
    cases ls.mapM Lexeme.value <;> rfl

theorem filter_joinedNodes (role : Role) {ns : List Node} (calls : ∀ n ∈ ns, n.rule = .call) :
    (joinedNodes role ns).filter (fun n => n.rule = .call) = ns := by
  cases role with
  | action => simpa [joinedNodes] using calls
  | filter =>
    have dropped : ((Node.leaf .conjunction "and".toList).rule = .call) = False := by
      simp [Node.leaf]
    rw [joinedNodes]
    generalize Node.leaf .conjunction "and".toList = between at dropped
    induction ns with
    | nil => rfl
    | cons n ns ih =>
      obtain ⟨first, others⟩ := List.forall_mem_cons.1 calls
      cases ns with
      | nil => simp [first]
      | cons m ns =>
        rw [List.intersperse_cons_cons, List.filter_cons, List.filter_cons, ih others]
        simp [first, dropped]

theorem CallTree.rule_eq (tree : CallTree c n) : n.rule = .call := by
  cases tree <;> rfl

theorem WholeTree.read {role : Role} (tree : WholeTree role raw root) :
    readTrees broken role [root] =
      ((raw.mapM RawCall.value).map (Expression.mk role)).mapError .ofInvalid := by
  cases tree with
  | @mk t raw ns text trees =>
    have rules : ∀ n ∈ ns, n.rule = .call := by
      intro n member
      obtain ⟨c, -, tree⟩ := exists_left_of_mem trees member
      exact tree.rule_eq
    have calls : (joinedNodes role ns ++ [Node.leaf .endOfText []]).filter
        (fun n => n.rule = .call) = ns := by
      rw [List.filter_append, filter_joinedNodes role rules]
      exact List.append_nil ns
    have values : ns.mapM (Node.call broken) = (raw.mapM RawCall.value).mapError .ofInvalid :=
      mapM_mapError (trees.imp fun _ _ tree => tree.read)
    simp only [readTrees, calls, values]
    cases raw.mapM RawCall.value <;> rfl

end reading

end ViewQuery.Grammar
