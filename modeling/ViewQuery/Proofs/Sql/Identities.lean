import Mathlib
import ViewQuery.Proofs.Sql.Tokens

set_option autoImplicit false

namespace ViewQuery.Sql

namespace Expr

def always : Expr := .compare .eq (.literal (.int 1)) (.literal (.int 1))

def never : Expr := .compare .eq (.literal (.int 1)) (.literal (.int 0))

def conjunction : List Expr → Expr
  | [] => always
  | [e] => e
  | items => .and items

def disjunction : List Expr → Expr
  | [] => never
  | [e] => e
  | items => .or items

/-- One use of an identity, in the expression or in one of its parts. -/
inductive Identity : Expr → Expr → Prop
  | andNone : Identity (.and []) always
  | orNone : Identity (.or []) never
  | andOne (e : Expr) : Identity (.and [e]) e
  | orOne (e : Expr) : Identity (.or [e]) e
  | andNested (before items after : List Expr) (some : items ≠ []) :
    Identity (.and (before ++ .and items :: after)) (.and (before ++ items ++ after))
  | compareLeft (op : Comparison) (r : Expr) {l l' : Expr} :
    Identity l l' → Identity (.compare op l r) (.compare op l' r)
  | compareRight (op : Comparison) (l : Expr) {r r' : Expr} :
    Identity r r' → Identity (.compare op l r) (.compare op l r')
  | andItem (before after : List Expr) {e e' : Expr} :
    Identity e e' → Identity (.and (before ++ e :: after)) (.and (before ++ e' :: after))
  | orItem (before after : List Expr) {e e' : Expr} :
    Identity e e' → Identity (.or (before ++ e :: after)) (.or (before ++ e' :: after))
  | not {e e' : Expr} : Identity e e' → Identity (.not e) (.not e')
  | inLeft (items : List Expr) {e e' : Expr} :
    Identity e e' → Identity (.inList e items) (.inList e' items)
  | inItem (e : Expr) (before after : List Expr) {i i' : Expr} :
    Identity i i' → Identity (.inList e (before ++ i :: after)) (.inList e (before ++ i' :: after))
  | likeLeft (p : Expr) (ignoreCase : Bool) {e e' : Expr} :
    Identity e e' → Identity (.like e p ignoreCase) (.like e' p ignoreCase)
  | likeRight (e : Expr) (ignoreCase : Bool) {p p' : Expr} :
    Identity p p' → Identity (.like e p ignoreCase) (.like e p' ignoreCase)
  | isNull {e e' : Expr} : Identity e e' → Identity (.isNull e) (.isNull e')

def Same : Expr → Expr → Prop := Relation.EqvGen Identity

mutual

def conjuncts : Expr → List Expr
  | .null => [.null]
  | .literal l => [.literal l]
  | .column c => [.column c]
  | .compare op l r => [.compare op (conjunction l.conjuncts) (conjunction r.conjuncts)]
  | .and [] => [always]
  | .and items => itemsConjuncts items
  | .or [e] => e.conjuncts
  | .or items => [disjunction (normals items)]
  | .not e => [.not (conjunction e.conjuncts)]
  | .inList e items => [.inList (conjunction e.conjuncts) (normals items)]
  | .like e p ignoreCase =>
    [.like (conjunction e.conjuncts) (conjunction p.conjuncts) ignoreCase]
  | .isNull e => [.isNull (conjunction e.conjuncts)]

def itemsConjuncts : List Expr → List Expr
  | [] => []
  | e :: es => e.conjuncts ++ itemsConjuncts es

def normals : List Expr → List Expr
  | [] => []
  | e :: es => conjunction e.conjuncts :: normals es

end

def normal (e : Expr) : Expr := conjunction e.conjuncts

theorem itemsConjuncts_eq_flatMap (items : List Expr) :
    itemsConjuncts items = items.flatMap conjuncts := by
  induction items with
  | nil => rfl
  | cons e items ih => rw [itemsConjuncts, ih, List.flatMap_cons]

theorem normals_eq_map (items : List Expr) : normals items = items.map normal := by
  induction items with
  | nil => rfl
  | cons e items ih => rw [normals, ih, List.map_cons, normal]

theorem conjuncts_ne_nil (e : Expr) : e.conjuncts ≠ [] := by
  induction e using Expr.induction with
  | and items each =>
    match items with
    | [] => simp [conjuncts]
    | e :: items =>
      have first := each e (by simp)
      simp [conjuncts, itemsConjuncts, first]
  | or items each =>
    match items with
    | [] => simp [conjuncts]
    | [e] => simpa [conjuncts] using each e (by simp)
    | e :: e' :: items => simp [conjuncts]
  | _ => simp [conjuncts]

theorem conjuncts_and {items : List Expr} (some : items ≠ []) :
    (Expr.and items).conjuncts = items.flatMap conjuncts := by
  obtain ⟨e, items, rfl⟩ := List.exists_cons_of_ne_nil some
  rw [conjuncts, itemsConjuncts_eq_flatMap]
  simp

theorem conjuncts_eq_singleton {e : Expr} (apart : e.binding ≠ .and) :
    e.conjuncts = [e.normal] := by
  induction e using Expr.induction with
  | and items each =>
    match items with
    | [] => rfl
    | [e] =>
      have inner := each e (by simp) (by simpa [binding] using apart)
      have same : (Expr.and [e]).conjuncts = e.conjuncts := by simp [conjuncts, itemsConjuncts]
      rw [normal, same]
      exact inner
    | e :: e' :: items => exact absurd rfl apart
  | or items each =>
    match items with
    | [] => rfl
    | [e] =>
      have inner := each e (by simp) (by simpa [binding] using apart)
      simpa [conjuncts, normal] using inner
    | e :: e' :: items => rfl
  | _ => rfl

section same

variable {e e' : Expr}

theorem Same.refl (e : Expr) : Same e e := Relation.EqvGen.refl e

theorem Same.trans {e'' : Expr} (first : Same e e') (second : Same e' e'') : Same e e'' :=
  Relation.EqvGen.trans _ _ _ first second

theorem Identity.same (identity : Identity e e') : Same e e' := Relation.EqvGen.rel _ _ identity

theorem Same.inside {f : Expr → Expr}
    (inside : ∀ {e e'}, Identity e e' → Identity (f e) (f e')) (same : Same e e') :
    Same (f e) (f e') := by
  induction same with
  | rel e e' identity => exact (inside identity).same
  | refl e => exact .refl _
  | symm e e' _ ih => exact Relation.EqvGen.symm _ _ ih
  | trans e e' e'' _ _ first second => exact first.trans second

-- The items are replaced one after the other, from the front.
theorem Same.items {f : List Expr → Expr} {g : Expr → Expr}
    (inside : ∀ before after {e e'}, Identity e e' →
      Identity (f (before ++ e :: after)) (f (before ++ e' :: after)))
    (before items : List Expr) (each : ∀ e ∈ items, Same e (g e)) :
    Same (f (before ++ items)) (f (before ++ items.map g)) := by
  induction items generalizing before with
  | nil => exact .refl _
  | cons e items ih =>
    obtain ⟨first, others⟩ := List.forall_mem_cons.1 each
    have here := Same.inside (f := fun e => f (before ++ e :: items)) (inside before items) first
    have there := ih (before ++ [g e]) others
    simp only [List.append_assoc, List.singleton_append] at there
    exact here.trans there

theorem same_and_conjunction (before after : List Expr) {items : List Expr} (some : items ≠ []) :
    Same (.and (before ++ conjunction items :: after)) (.and (before ++ items ++ after)) := by
  match items with
  | [e] => simpa [conjunction] using Same.refl _
  | e :: e' :: items => exact (Identity.andNested before (e :: e' :: items) after some).same

theorem same_and_conjunctions (before items : List Expr) :
    Same (.and (before ++ items.map normal)) (.and (before ++ items.flatMap conjuncts)) := by
  induction items generalizing before with
  | nil => exact .refl _
  | cons e items ih =>
    have here := same_and_conjunction before (items.map normal) e.conjuncts_ne_nil
    have there := ih (before ++ e.conjuncts)
    simp only [List.append_assoc] at here there
    exact here.trans there

theorem same_flattened (items : List Expr) (each : ∀ e ∈ items, Same e e.normal) :
    Same (.and items) (.and (items.flatMap conjuncts)) := by
  have inner := Same.items (f := .and) Identity.andItem [] items each
  exact inner.trans (same_and_conjunctions [] items)

theorem same_conjunction (items : List Expr) : Same (.and items) (conjunction items) := by
  match items with
  | [] => exact Identity.andNone.same
  | [e] => exact (Identity.andOne e).same
  | e :: e' :: items => exact .refl _

theorem same_normal (e : Expr) : Same e e.normal := by
  induction e using Expr.induction with
  | null => exact .refl _
  | literal l => exact .refl _
  | column c => exact .refl _
  | compare op l r left right =>
    have first := Same.inside (f := fun l => .compare op l r) (.compareLeft op r) left
    have second := Same.inside (f := fun r => .compare op l.normal r)
      (.compareRight op l.normal) right
    exact first.trans second
  | and items each =>
    have flat := same_flattened items each
    match items with
    | [] => exact Identity.andNone.same
    | e :: items =>
      rw [normal, conjuncts_and (by simp)]
      exact flat.trans (same_conjunction _)
  | or items each =>
    have inner := Same.items (f := .or) Identity.orItem [] items each
    match items with
    | [] => exact Identity.orNone.same
    | [e] => exact (Identity.orOne e).same.trans (each e (by simp))
    | e :: e' :: items =>
      rw [normal, conjuncts, normals_eq_map]
      · exact inner
      · simp
  | not e inner => exact .inside .not inner
  | inList e items inner each =>
    have first := Same.inside (f := fun e => .inList e items) (.inLeft items) inner
    have second := Same.items (f := .inList e.normal) (.inItem e.normal) [] items each
    rw [normal, conjuncts, normals_eq_map]
    exact first.trans second
  | like e p ignoreCase inner pattern =>
    have first := Same.inside (f := fun e => .like e p ignoreCase) (.likeLeft p ignoreCase) inner
    have second := Same.inside (f := fun p => .like e.normal p ignoreCase)
      (.likeRight e.normal ignoreCase) pattern
    exact first.trans second
  | isNull e inner => exact .inside .isNull inner

end same

section tokens

variable {items : List Expr}

theorem binding_and (two : 2 ≤ items.length) : (Expr.and items).binding = .and := by
  match items with
  | _ :: _ :: _ => rfl

theorem binding_or (two : 2 ≤ items.length) : (Expr.or items).binding = .or := by
  match items with
  | _ :: _ :: _ => rfl

theorem tokens_and (two : 2 ≤ items.length) :
    (Expr.and items).tokens =
      [Token.word .AND].intercalate (items.map fun e => placedTokens .and e e.tokens) := by
  match items with
  | e :: e' :: items => rw [tokens, itemsTokens_eq_map] <;> simp

theorem tokens_or (two : 2 ≤ items.length) :
    (Expr.or items).tokens =
      [Token.word .OR].intercalate (items.map fun e => placedTokens .not e e.tokens) := by
  match items with
  | e :: e' :: items => rw [tokens, itemsTokens_eq_map] <;> simp

theorem placedTokens_and (some : items ≠ []) :
    placedTokens .and (.and items) (Expr.and items).tokens =
      [Token.word .AND].intercalate (items.map fun e => placedTokens .and e e.tokens) := by
  match items with
  | [e] =>
    rw [List.map_singleton, List.intercalate_singleton, placedTokens, placedTokens, tokens, binding]
  | e :: e' :: items =>
    rw [placedTokens, binding_and (by simp), if_neg (by simp), tokens_and (by simp)]

omit items in
theorem intercalate_nested {α : Type} (separator : List α) (before after : List (List α))
    {parts : List (List α)} (some : parts ≠ []) :
    separator.intercalate (before ++ separator.intercalate parts :: after) =
      separator.intercalate (before ++ parts ++ after) := by
  induction before with
  | nil =>
    induction parts with
    | nil => exact absurd rfl some
    | cons a parts ih =>
      cases parts with
      | nil => simp
      | cons b parts =>
        have rest := ih (by simp)
        cases after with
        | nil => simp
        | cons c after => simpa [List.intercalate_cons_cons] using rest
  | cons a before ih =>
    obtain ⟨b, rest, split⟩ := List.exists_cons_of_ne_nil
      (show before ++ separator.intercalate parts :: after ≠ [] by simp)
    obtain ⟨b', rest', split'⟩ := List.exists_cons_of_ne_nil
      (show before ++ parts ++ after ≠ [] by simp [some])
    rw [split, split'] at ih
    rw [List.cons_append, List.cons_append, List.cons_append, split, split',
      List.intercalate_cons_cons, List.intercalate_cons_cons, ih]

theorem placedTokens_congr (required : Binding) {e e' : Expr} (tokens : e.tokens = e'.tokens)
    (binding : e.binding = e'.binding) :
    placedTokens required e e.tokens = placedTokens required e' e'.tokens := by
  rw [placedTokens, placedTokens, tokens, binding]

omit items in
theorem alone_or_two (before after : List Expr) (e : Expr) :
    before = [] ∧ after = [] ∨ 2 ≤ (before ++ e :: after).length := by
  by_cases alone : before = [] ∧ after = []
  · exact .inl alone
  · right
    by_contra short
    apply alone
    rw [← List.length_eq_zero_iff, ← List.length_eq_zero_iff]
    simp only [List.length_append, List.length_cons] at short
    omega

theorem Identity.tokens_eq {e e' : Expr} (identity : Identity e e') :
    e.tokens = e'.tokens ∧ e.binding = e'.binding := by
  induction identity with
  | andNone => exact ⟨by simp [tokens, always, placedTokens, binding, Binding.level], rfl⟩
  | orNone => exact ⟨by simp [tokens, never, placedTokens, binding, Binding.level], rfl⟩
  | andOne e => exact ⟨by rw [tokens], by rw [binding]⟩
  | orOne e => exact ⟨by rw [tokens], by rw [binding]⟩
  | andNested before items after some =>
    rcases alone_or_two before after (.and items) with ⟨rfl, rfl⟩ | two
    · simp [tokens, binding]
    · have two' : 2 ≤ (before ++ items ++ after).length := by
        have := List.length_pos_iff.2 some
        simp only [List.length_append, List.length_cons] at two ⊢
        omega
      rw [tokens_and two, tokens_and two', binding_and two, binding_and two']
      simp only [List.map_append, List.map_cons, placedTokens_and some, and_true]
      exact intercalate_nested _ _ _ (by simpa using some)
  | compareLeft op r _ ih =>
    exact ⟨by rw [tokens, tokens, placedTokens_congr .atom ih.1 ih.2], rfl⟩
  | compareRight op l _ ih =>
    exact ⟨by rw [tokens, tokens, placedTokens_congr .atom ih.1 ih.2], rfl⟩
  | @andItem before after e e' _ ih =>
    rcases alone_or_two before after e with ⟨rfl, rfl⟩ | two
    · simpa [tokens, binding] using ih
    · have two' : 2 ≤ (before ++ e' :: after).length := by simpa using two
      rw [tokens_and two, tokens_and two', binding_and two, binding_and two']
      simp [placedTokens_congr .and ih.1 ih.2]
  | @orItem before after e e' _ ih =>
    rcases alone_or_two before after e with ⟨rfl, rfl⟩ | two
    · simpa [tokens, binding] using ih
    · have two' : 2 ≤ (before ++ e' :: after).length := by simpa using two
      rw [tokens_or two, tokens_or two', binding_or two, binding_or two']
      simp [placedTokens_congr .not ih.1 ih.2]
  | not _ ih => exact ⟨by rw [tokens, tokens, placedTokens_congr .atom ih.1 ih.2], rfl⟩
  | inLeft items _ ih =>
    exact ⟨by rw [tokens, tokens, placedTokens_congr .atom ih.1 ih.2], rfl⟩
  | inItem e before after _ ih =>
    refine ⟨?_, rfl⟩
    rw [tokens, tokens, itemsTokens_eq_map, itemsTokens_eq_map]
    simp [placedTokens_congr .or ih.1 ih.2]
  | likeLeft p ignoreCase _ ih =>
    exact ⟨by rw [tokens, tokens, placedTokens_congr .atom ih.1 ih.2], rfl⟩
  | likeRight e ignoreCase _ ih =>
    exact ⟨by rw [tokens, tokens, placedTokens_congr .atom ih.1 ih.2], rfl⟩
  | isNull _ ih => exact ⟨by rw [tokens, tokens, placedTokens_congr .atom ih.1 ih.2], rfl⟩

end tokens

end Expr

end ViewQuery.Sql
