import ViewQuery.Proofs.Grammar.Spelling

set_option autoImplicit false

namespace ViewQuery.Grammar

open Decimal

def Stops (p : Char → Bool) (rest : List Char) : Prop := ∀ c, rest.head? = some c → p c = false

section

variable {p q : Char → Bool} {run rest : List Char} {c : Char}

@[simp] theorem stops_nil : Stops p [] := by simp [Stops]

@[simp] theorem stops_cons : Stops p (c :: rest) ↔ p c = false := by simp [Stops]

theorem Stops.mono (sub : ∀ c, q c → p c) (stop : Stops p rest) : Stops q rest := by
  intro c head
  by_contra holds
  have := stop c head
  simp_all

theorem ne_of_apart {d : Char} (holds : p c) (fails : p d = false) : c ≠ d := by
  rintro rfl
  exact absurd (holds.symm.trans fails) (by decide)

theorem takeWhile_append (inside : ∀ c ∈ run, p c) (stop : Stops p rest) :
    (run ++ rest).takeWhile p = run := by
  rw [List.takeWhile_append_of_pos inside]
  cases rest with
  | nil => simp
  | cons c rest => simp [stops_cons.1 stop]

theorem dropWhile_append (inside : ∀ c ∈ run, p c) (stop : Stops p rest) :
    (run ++ rest).dropWhile p = rest := by
  rw [List.dropWhile_append_of_pos inside]
  cases rest with
  | nil => simp
  | cons c rest => simp [stops_cons.1 stop]

theorem stops_dropWhile (cs : List Char) : Stops p (cs.dropWhile p) := by
  induction cs with
  | nil => simp
  | cons c cs ih =>
    by_cases holds : p c
    · simpa [holds] using ih
    · simp [holds]

theorem startsWord_eq_false_iff : startsWord rest = false ↔ Stops isWordChar rest := by
  cases rest <;> simp [startsWord]

theorem startsPoint_eq_false_iff : startsPoint rest = false ↔ Stops (· = '.') rest := by
  cases rest with
  | nil => simp [startsPoint]
  | cons c rest => by_cases point : c = '.' <;> simp [startsPoint, point]

theorem isDigit_eq (c : Char) : isDigit c = c.isDigit := rfl

theorem isWordChar_of_isDigit (digit : isDigit c) : isWordChar c := by
  rw [isDigit_eq] at digit
  simp [isWordChar, Char.isAlphanum, digit]

theorem isWordChar_of_exponentMark (mark : exponentMark c) : isWordChar c := by
  simp only [exponentMark, Bool.or_eq_true, decide_eq_true_eq] at mark
  rcases mark with rfl | rfl <;> decide

end

section runs

variable {run rest cs : List Char}

theorem digits_complete (inside : ∀ d ∈ run, isDigit d) (stop : Stops isDigit rest) :
    digits (run ++ rest) = (run, rest) := by
  rw [digits, takeWhile_append inside stop, dropWhile_append inside stop]

theorem digits_sound (cs : List Char) :
    cs = (digits cs).1 ++ (digits cs).2 ∧ (∀ d ∈ (digits cs).1, isDigit d) ∧
      Stops isDigit (digits cs).2 :=
  ⟨List.takeWhile_append_dropWhile.symm, fun _ member => List.mem_takeWhile_imp member,
    stops_dropWhile cs⟩

theorem skipSpace_append (gap : SpaceRun run) : skipSpace (run ++ rest) = skipSpace rest :=
  List.dropWhile_append_of_pos gap

theorem dropWhile_eq_self {p : Char → Bool} (stop : Stops p rest) : rest.dropWhile p = rest := by
  cases rest with
  | nil => rfl
  | cons c rest => simp [stops_cons.1 stop]

theorem skipSpace_eq_self (stop : Stops isSpace rest) : skipSpace rest = rest :=
  dropWhile_eq_self stop

theorem skipSpace_sound (cs : List Char) :
    ∃ gap, cs = gap ++ skipSpace cs ∧ SpaceRun gap ∧ Stops isSpace (skipSpace cs) :=
  ⟨cs.takeWhile isSpace, List.takeWhile_append_dropWhile.symm,
    fun _ member => List.mem_takeWhile_imp member, stops_dropWhile cs⟩

theorem skipLayout_append (gap : LayoutRun run) : skipLayout (run ++ rest) = skipLayout rest :=
  List.dropWhile_append_of_pos gap

theorem skipLayout_eq_self (stop : Stops isLayout rest) : skipLayout rest = rest :=
  dropWhile_eq_self stop

theorem skipLayout_sound (cs : List Char) :
    ∃ gap, cs = gap ++ skipLayout cs ∧ LayoutRun gap ∧ Stops isLayout (skipLayout cs) :=
  ⟨cs.takeWhile isLayout, List.takeWhile_append_dropWhile.symm,
    fun _ member => List.mem_takeWhile_imp member, stops_dropWhile cs⟩

end runs

section words

variable {w rest cs : List Char}

inductive IsWord : List Char → Prop
  | mk {c : Char} {w : List Char} : isWordStart c → (∀ d ∈ w, isWordChar d) → IsWord (c :: w)

theorem word?_complete (word : IsWord w) (stop : Stops isWordChar rest) :
    word? (w ++ rest) = some (w, rest) := by
  obtain ⟨start, inside⟩ := word
  simp only [List.cons_append, word?, start, if_true]
  rw [takeWhile_append inside stop, dropWhile_append inside stop]

theorem word?_sound (read : word? cs = some (w, rest)) :
    cs = w ++ rest ∧ IsWord w ∧ Stops isWordChar rest := by
  cases cs with
  | nil => simp [word?] at read
  | cons c cs =>
    simp only [word?] at read
    split at read
    · next start =>
      obtain ⟨rfl, rfl⟩ := Prod.mk.inj (Option.some.inj read)
      refine ⟨?_, .mk start fun d member => List.mem_takeWhile_imp member, stops_dropWhile cs⟩
      rw [List.cons_append, List.takeWhile_append_dropWhile]
    · simp at read

theorem identifier_iff : Identifier w ↔ IsWord w ∧ isKeyword w = false := by
  have keyword : isKeyword w = false ↔ w ∉ keywords := by
    rw [isKeyword, List.any_eq_false]
    constructor
    · intro apart member
      exact apart w member (by simp)
    · intro apart k member same
      exact apart (of_decide_eq_true same ▸ member)
  constructor
  · rintro ⟨start, inside, apart⟩
    exact ⟨.mk start inside, keyword.2 apart⟩
  · rintro ⟨⟨start, inside⟩, apart⟩
    exact .mk start inside (keyword.1 apart)

theorem name?_complete (name : Identifier w) (stop : Stops isWordChar rest) :
    name? (w ++ rest) = some (w, rest) := by
  obtain ⟨word, apart⟩ := identifier_iff.1 name
  simp [name?, word?_complete word stop, apart]

theorem name?_sound (read : name? cs = some (w, rest)) :
    cs = w ++ rest ∧ Identifier w ∧ Stops isWordChar rest := by
  unfold name? at read
  split at read
  · next w' rest' isWord =>
    split at read
    · simp at read
    · next apart =>
      obtain ⟨rfl, rfl⟩ := Prod.mk.inj (Option.some.inj read)
      obtain ⟨text, word, stop⟩ := word?_sound isWord
      exact ⟨text, identifier_iff.2 ⟨word, by simpa using apart⟩, stop⟩
  · simp at read

theorem keyword?_complete (word : IsWord w) (stop : Stops isWordChar rest) :
    keyword? w (w ++ rest) = some rest := by
  simp [keyword?, word?_complete word stop]

theorem keyword?_sound (read : keyword? w cs = some rest) :
    cs = w ++ rest ∧ Stops isWordChar rest := by
  unfold keyword? at read
  split at read
  · next w' rest' isWord =>
    split at read
    · next same =>
      obtain rfl := Option.some.inj read
      obtain ⟨text, -, stop⟩ := word?_sound isWord
      exact ⟨same ▸ text, stop⟩
    · simp at read
  · simp at read

end words

end ViewQuery.Grammar
