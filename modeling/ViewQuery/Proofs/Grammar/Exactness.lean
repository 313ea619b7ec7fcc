import ViewQuery.Proofs.Grammar.Sequences
import ViewQuery.Proofs.Grammar.Values

set_option autoImplicit false

namespace ViewQuery

namespace Grammar

section relations

variable {α β : Type} {spells : α → List Char → Prop} {spells' : β → List Char → Prop}
variable {relates : α → β → Prop} {bs : List β} {t : List Char}

theorem itemsText_iff (spelled : ∀ b t, spells' b t ↔ ∃ a, spells a t ∧ relates a b) :
    ItemsText spells' bs t ↔ ∃ as, ItemsText spells as t ∧ List.Forall₂ relates as bs := by
  constructor
  · intro items
    induction items with
    | last before text after =>
      obtain ⟨a, isText, related⟩ := (spelled _ _).1 text
      exact ⟨[a], .last before isText after, .cons related .nil⟩
    | more before text after _ ih =>
      obtain ⟨a, isText, related⟩ := (spelled _ _).1 text
      obtain ⟨as, items, rest⟩ := ih
      exact ⟨a :: as, .more before isText after items, .cons related rest⟩
  · rintro ⟨as, items, related⟩
    induction items generalizing bs with
    | last before text after =>
      obtain ⟨b, bs, holds, rest, rfl⟩ := List.forall₂_cons_left_iff.1 related
      obtain rfl := List.forall₂_nil_left_iff.1 rest
      exact .last before ((spelled _ _).2 ⟨_, text, holds⟩) after
    | more before text after _ ih =>
      obtain ⟨b, bs, holds, rest, rfl⟩ := List.forall₂_cons_left_iff.1 related
      exact .more before ((spelled _ _).2 ⟨_, text, holds⟩) after (ih rest)

theorem argsText_iff (spelled : ∀ b t, spells' b t ↔ ∃ a, spells a t ∧ relates a b) :
    ArgsText spells' bs t ↔ ∃ as, ArgsText spells as t ∧ List.Forall₂ relates as bs := by
  constructor
  · rintro (space | items)
    · exact ⟨[], .none space, .nil⟩
    · obtain ⟨as, items, related⟩ := (itemsText_iff spelled).1 items
      exact ⟨as, .some items, related⟩
  · rintro ⟨as, space | items, related⟩
    · obtain rfl := List.forall₂_nil_left_iff.1 related
      exact .none space
    · exact .some ((itemsText_iff spelled).2 ⟨as, items, related⟩)

theorem callText_iff {w : List Char}
    (spelled : ∀ b t, spells' b t ↔ ∃ a, spells a t ∧ relates a b) :
    CallText spells' w bs t ↔ ∃ as, CallText spells w as t ∧ List.Forall₂ relates as bs := by
  constructor
  · rintro ⟨name, space, text⟩
    obtain ⟨as, text, related⟩ := (argsText_iff spelled).1 text
    exact ⟨as, .mk name space text, related⟩
  · rintro ⟨as, ⟨name, space, text⟩, related⟩
    exact .mk name space ((argsText_iff spelled).2 ⟨as, text, related⟩)

theorem restText_iff {role : Role} (spelled : ∀ b t, spells' b t ↔ ∃ a, spells a t ∧ relates a b) :
    RestText role spells' bs t ↔
      ∃ as, RestText role spells as t ∧ List.Forall₂ relates as bs := by
  constructor
  · intro text
    induction text with
    | done layout => exact ⟨[], .done layout, .nil⟩
    | more joins text _ ih =>
      obtain ⟨a, isText, related⟩ := (spelled _ _).1 text
      obtain ⟨as, more, rest⟩ := ih
      exact ⟨a :: as, .more joins isText more, .cons related rest⟩
  · rintro ⟨as, text, related⟩
    induction text generalizing bs with
    | done layout =>
      obtain rfl := List.forall₂_nil_left_iff.1 related
      exact .done layout
    | more joins text _ ih =>
      obtain ⟨b, bs, holds, rest, rfl⟩ := List.forall₂_cons_left_iff.1 related
      exact .more joins ((spelled _ _).2 ⟨_, text, holds⟩) (ih rest)

theorem queryText_iff {role : Role} (spelled : ∀ b t, spells' b t ↔ ∃ a, spells a t ∧ relates a b) :
    QueryText role spells' bs t ↔
      ∃ as, QueryText role spells as t ∧ List.Forall₂ relates as bs := by
  constructor
  · rintro (layout | ⟨layout, text, rest⟩)
    · exact ⟨[], .none layout, .nil⟩
    · obtain ⟨a, isText, related⟩ := (spelled _ _).1 text
      obtain ⟨as, rest, more⟩ := (restText_iff spelled).1 rest
      exact ⟨a :: as, .some layout isText rest, .cons related more⟩
  · rintro ⟨as, layout | ⟨layout, text, rest⟩, related⟩
    · obtain rfl := List.forall₂_nil_left_iff.1 related
      exact .none layout
    · obtain ⟨b, bs, holds, more, rfl⟩ := List.forall₂_cons_left_iff.1 related
      exact .some layout ((spelled _ _).2 ⟨_, text, holds⟩)
        ((restText_iff spelled).2 ⟨_, rest, more⟩)

end relations

theorem mapM_eq_ok_iff {α β ε : Type} {f : α → Except ε β} {as : List α} {bs : List β} :
    as.mapM f = .ok bs ↔ List.Forall₂ (fun a b => f a = .ok b) as bs := by
  induction as generalizing bs with
  | nil => simp [pure, Except.pure, eq_comm]
  | cons a as ih =>
    rw [List.mapM_cons, List.forall₂_cons_left_iff]
    cases first : f a with
    | error e => simp [bind, Except.bind]
    | ok b =>
      cases rest : as.mapM f with
      | error e => simp [bind, Except.bind, ← ih, rest]
      | ok bs' => simp [bind, Except.bind, pure, Except.pure, ← ih, rest, eq_comm]

theorem RawCall.value_eq_ok_iff {c : RawCall} {call : Call} :
    c.value = .ok call ↔
      call.name = String.ofList c.name ∧
        List.Forall₂ (fun l v => l.value = .ok v) c.args call.args := by
  rw [← mapM_eq_ok_iff, RawCall.value]
  cases c.args.mapM Lexeme.value with
  | error e => simp [Except.map]
  | ok args =>
    simp only [Except.map, Except.ok.injEq]
    constructor
    · rintro rfl
      exact ⟨rfl, rfl⟩
    · rintro ⟨name, rfl⟩
      rw [← name]

theorem call_spells_iff (call : Call) (t : List Char) :
    call.Spells t ↔ ∃ c : RawCall, c.Spells t ∧ c.value = .ok call := by
  unfold Call.Spells RawCall.Spells
  simp only [RawCall.value_eq_ok_iff, callText_iff fun v t => literalText_iff (v := v) (t := t)]
  constructor
  · rintro ⟨args, text, valued⟩
    exact ⟨⟨call.name.toList, args⟩, text, by simp, valued⟩
  · rintro ⟨⟨name, args⟩, text, named, valued⟩
    exact ⟨args, by simpa [named] using text, valued⟩

end Grammar

open Grammar

theorem Expression.read_sound {role : Role} {source : String} {e : Expression}
    (read : Expression.read role source = .ok e) : e.role = role ∧ e.Spells source.toList := by
  simp only [Expression.read] at read
  split at read
  · cases read
  · next raw isRaw =>
    split at read
    · cases read
    · next found valued =>
      obtain rfl := Except.ok.inj read
      exact ⟨rfl, (queryText_iff call_spells_iff).2
        ⟨raw, calls_eq_ok_iff.1 isRaw, mapM_eq_ok_iff.1 valued⟩⟩

theorem Expression.read_complete {source : String} {e : Expression}
    (text : e.Spells source.toList) : Expression.read e.role source = .ok e := by
  obtain ⟨raw, isRaw, valued⟩ := (queryText_iff call_spells_iff).1 text
  simp only [Expression.read, calls_eq_ok_iff.2 isRaw, mapM_eq_ok_iff.2 valued]

/-- A text is read as an expression exactly if it is a layout of the expression's calls. -/
theorem Expression.read_eq_ok_iff (role : Role) (source : String) (e : Expression) :
    Expression.read role source = .ok e ↔ e.role = role ∧ e.Spells source.toList := by
  constructor
  · exact Expression.read_sound
  · rintro ⟨rfl, text⟩
    exact Expression.read_complete text

end ViewQuery
