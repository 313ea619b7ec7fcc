import ViewQuery.Proofs.Grammar.Printing

set_option autoImplicit false

namespace ViewQuery

open Decimal

namespace Grammar

section sequences

variable {α : Type} {role : Role} {spells : α → List Char → Prop} {as : List α} {t : List Char}

theorem ItemsText.exists_text (items : ItemsText spells as t) : ∀ a ∈ as, ∃ t, spells a t := by
  induction items with
  | last _ text _ => simpa using ⟨_, text⟩
  | more _ text _ _ ih => exact List.forall_mem_cons.2 ⟨⟨_, text⟩, ih⟩

theorem ArgsText.exists_text (args : ArgsText spells as t) : ∀ a ∈ as, ∃ t, spells a t := by
  cases args with
  | none _ => simp
  | some items => exact items.exists_text

theorem RestText.exists_text (text : RestText role spells as t) : ∀ a ∈ as, ∃ t, spells a t := by
  induction text with
  | done _ => simp
  | more _ text _ ih => exact List.forall_mem_cons.2 ⟨⟨_, text⟩, ih⟩

theorem QueryText.exists_text (text : QueryText role spells as t) : ∀ a ∈ as, ∃ t, spells a t := by
  cases text with
  | none _ => simp
  | some _ text rest => exact List.forall_mem_cons.2 ⟨⟨_, text⟩, rest.exists_text⟩

end sequences

end Grammar

theorem Decimal.Numeral.IsDouble.isFinite {n : Numeral} {x : Float} (double : n.IsDouble x) :
    (ofFloat x).isFinite := by
  obtain ⟨u, nearest, below, rfl⟩ := double
  rw [ofFloat_toFloat n.negative nearest.representable below]
  rfl

open Grammar

structure Call.Writable (c : Call) : Prop where
  name : Identifier c.name.toList
  finite : ∀ x, .float x ∈ c.args → (ofFloat x).isFinite

theorem Call.writable_of_spells {c : Call} {t : List Char} (text : c.Spells t) : c.Writable := by
  obtain ⟨name, args⟩ := c
  cases text with
  | mk isName _ text =>
    refine ⟨isName, fun x member => ?_⟩
    obtain ⟨_, spelled⟩ := text.exists_text _ member
    cases spelled with
    | float _ double => exact double.isFinite

variable {role : Role} {source : String} {e : Expression}

theorem Expression.writable_of_read (read : Expression.read role source = .ok e) :
    ∀ c ∈ e.calls, c.Writable := by
  obtain ⟨-, text⟩ := Expression.read_sound read
  intro c member
  obtain ⟨_, spelled⟩ := text.exists_text c member
  exact Call.writable_of_spells spelled

theorem Expression.read_of_writable (e : Expression) (writable : ∀ c ∈ e.calls, c.Writable) :
    Expression.read e.role e.text = .ok e := by
  have spelled : ∀ c ∈ e.calls, c.Spells c.chars := fun c member =>
    Call.spells_chars (writable c member).name (writable c member).finite
  apply Expression.read_complete
  rw [Expression.text, String.toList_ofList]
  exact queryText_joinWith spelled

end ViewQuery
