import ViewQuery.Proofs.Grammar.Lexemes
import ViewQuery.Text.Blank

set_option autoImplicit false

namespace ViewQuery.Text

open Grammar (Stops)

variable {p : Char → Bool} {before after core : List Char}

theorem trimBy_eq (front : ∀ c ∈ before, p c) (back : ∀ c ∈ after, p c) (starts : Stops p core)
    (ends : Stops p core.reverse) : trimBy p (before ++ core ++ after) = core := by
  have inFront : (before ++ core ++ after).dropWhile p = (core ++ after).dropWhile p := by
    rw [List.append_assoc, List.dropWhile_append_of_pos front]
  cases core with
  | nil =>
    have nothing : after.dropWhile p = [] := List.dropWhile_eq_nil_iff.2 back
    rw [trimBy, inFront, List.nil_append, nothing]
    rfl
  | cons c core =>
    have stays : (c :: core ++ after).dropWhile p = c :: core ++ after :=
      Grammar.dropWhile_eq_self (Grammar.stops_cons.2 (Grammar.stops_cons.1 starts))
    have inBack : ∀ c ∈ after.reverse, p c := fun c member => back c (List.mem_reverse.1 member)
    rw [trimBy, inFront, stays, List.reverse_append, Grammar.dropWhile_append inBack ends,
      List.reverse_reverse]

theorem exists_trimBy (p : Char → Bool) (cs : List Char) :
    ∃ before after, cs = before ++ trimBy p cs ++ after ∧ (∀ c ∈ before, p c) ∧
      (∀ c ∈ after, p c) ∧ Stops p (trimBy p cs) ∧ Stops p (trimBy p cs).reverse := by
  have inFront : cs = cs.takeWhile p ++ cs.dropWhile p := List.takeWhile_append_dropWhile.symm
  have starts : Stops p (cs.dropWhile p) := Grammar.stops_dropWhile cs
  unfold trimBy
  generalize cs.dropWhile p = rest at inFront starts ⊢
  have inBack : rest = (rest.reverse.dropWhile p).reverse ++ (rest.reverse.takeWhile p).reverse := by
    rw [← List.reverse_append, List.takeWhile_append_dropWhile, List.reverse_reverse]
  refine ⟨cs.takeWhile p, (rest.reverse.takeWhile p).reverse, ?_,
    fun _ member => List.mem_takeWhile_imp member,
    fun _ member => List.mem_takeWhile_imp (List.mem_reverse.1 member), ?_, ?_⟩
  · rw [List.append_assoc, ← inBack]
    exact inFront
  · -- What is left is empty, or starts as the text it was cut from.
    rw [inBack] at starts
    cases kept : (rest.reverse.dropWhile p).reverse with
    | nil => exact Grammar.stops_nil
    | cons c core =>
      rw [kept, List.cons_append] at starts
      exact Grammar.stops_cons.2 (Grammar.stops_cons.1 starts)
  · rw [List.reverse_reverse]
    exact Grammar.stops_dropWhile rest.reverse

theorem trimBy_between (front : ∀ c ∈ before, p c) (back : ∀ c ∈ after, p c) (cs : List Char) :
    trimBy p (before ++ cs ++ after) = trimBy p cs := by
  obtain ⟨front', back', parts, inFront, inBack, starts, ends⟩ := exists_trimBy p cs
  have shape : before ++ cs ++ after = (before ++ front') ++ trimBy p cs ++ (back' ++ after) := by
    conv_lhs => rw [parts]
    simp only [List.append_assoc]
  rw [shape, trimBy_eq (List.forall_mem_append.2 ⟨front, inFront⟩)
    (List.forall_mem_append.2 ⟨inBack, back⟩) starts ends]

theorem infix_trimBy (p : Char → Bool) (cs : List Char) : trimBy p cs <:+: cs := by
  obtain ⟨before, after, parts, -⟩ := exists_trimBy p cs
  exact ⟨before, after, parts.symm⟩

theorem trimBy_eq_self_iff : trimBy p core = core ↔ Stops p core ∧ Stops p core.reverse := by
  constructor
  · intro same
    obtain ⟨_, _, -, -, -, ends⟩ := exists_trimBy p core
    rwa [same] at ends
  · rintro ⟨starts, ends⟩
    have trimmed := trimBy_eq (List.forall_mem_nil _) (List.forall_mem_nil _) starts ends
    rwa [List.nil_append, List.append_nil] at trimmed

theorem trimBy_trimBy (p : Char → Bool) (cs : List Char) :
    trimBy p (trimBy p cs) = trimBy p cs := by
  obtain ⟨_, _, -, -, -, stops⟩ := exists_trimBy p cs
  exact trimBy_eq_self_iff.2 stops

theorem trimBy_trimBy_eq_self_iff {q : Char → Bool} :
    trimBy q (trimBy p core) = core ↔ trimBy p core = core ∧ trimBy q core = core := by
  constructor
  · intro same
    have inside : trimBy q (trimBy p core) <:+: trimBy p core := infix_trimBy q _
    rw [same] at inside
    have first : trimBy p core = core := (infix_trimBy p core).eq_of_length_le inside.length_le
    rw [first] at same
    exact ⟨first, same⟩
  · rintro ⟨first, second⟩
    rw [first, second]

end ViewQuery.Text
