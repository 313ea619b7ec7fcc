import Mathlib.Data.List.TakeWhile
import ViewQuery.Proofs.Catalog.Lookup
import ViewQuery.Proofs.Grammar.Lexemes
import ViewQuery.Proofs.Text.LowerCase

set_option autoImplicit false

namespace ViewQuery.Catalog

open Grammar (Stops stops_nil stops_cons)
open Text

section words

variable {cs current w rest : List Char} {ws : List (List Char)} {c : Char}

def IsWord (w : List Char) : Prop := w ≠ [] ∧ ∀ c ∈ w, isAlphanumeric c

@[simp] theorem words_nil : words [] = [] := by simp [words, wordsFrom]

theorem words_separator (separator : isAlphanumeric c = false) : words (c :: cs) = words cs := by
  simp [words, wordsFrom, separator]

theorem wordsFrom_letters (letters : ∀ c ∈ w, isAlphanumeric c) :
    wordsFrom current (w ++ rest) = wordsFrom (w.reverse ++ current) rest := by
  induction w generalizing current with
  | nil => rfl
  | cons c w ih =>
    obtain ⟨letter, letters⟩ := List.forall_mem_cons.1 letters
    simp [wordsFrom, letter, ih letters]

theorem words_word (isWord : IsWord w) (stop : Stops isAlphanumeric rest) :
    words (w ++ rest) = w :: words rest := by
  have nonempty : w.reverse.isEmpty = false := by simpa using isWord.1
  rw [words, wordsFrom_letters isWord.2, List.append_nil]
  cases rest with
  | nil => simp [wordsFrom, nonempty]
  | cons c rest =>
    have separator : isAlphanumeric c = false := stops_cons.1 stop
    simp [words, wordsFrom, separator, nonempty]

theorem words_induction {motive : List Char → Prop} (nil : motive [])
    (separator : ∀ c cs, isAlphanumeric c = false → motive cs → motive (c :: cs))
    (word : ∀ w rest, IsWord w → Stops isAlphanumeric rest → motive rest → motive (w ++ rest))
    (cs : List Char) : motive cs := by
  -- a word in front may be only the beginning of one
  suffices motive cs ∧ ∀ w, IsWord w → motive (w ++ cs) from this.1
  induction cs with
  | nil => exact ⟨nil, fun w isWord => word w [] isWord stops_nil nil⟩
  | cons c cs ih =>
    cases letter : isAlphanumeric c with
    | false =>
      have rest : motive (c :: cs) := separator c cs letter ih.1
      exact ⟨rest, fun w isWord => word w (c :: cs) isWord (stops_cons.2 letter) rest⟩
    | true =>
      have longer : ∀ w, (∀ d ∈ w, isAlphanumeric d) → motive (w ++ c :: cs) := by
        intro w letters
        rw [List.append_cons]
        refine ih.2 (w ++ [c]) ⟨by simp, ?_⟩
        simpa [or_imp, forall_and, letter] using letters
      exact ⟨longer [] (by simp), fun w isWord => longer w isWord.2⟩

theorem isWord_of_mem_words (member : w ∈ words cs) : IsWord w := by
  induction cs using words_induction with
  | nil => cases member
  | separator c cs separator ih =>
    rw [words_separator separator] at member
    exact ih member
  | word v rest isWord stop ih =>
    rw [words_word isWord stop, List.mem_cons] at member
    exact member.elim (fun same => same ▸ isWord) ih

theorem exists_mem_words : (∃ w ∈ words cs, c ∈ w) ↔ c ∈ cs ∧ isAlphanumeric c := by
  induction cs using words_induction with
  | nil => simp
  | separator d cs separator ih =>
    rw [words_separator separator, ih, List.mem_cons]
    grind
  | word v rest isWord stop ih =>
    have letters := isWord.2 c
    rw [words_word isWord stop]
    simp only [List.mem_cons, exists_eq_or_imp, ih, List.mem_append]
    grind

theorem not_isAlphanumeric_space : isAlphanumeric ' ' = false := by decide

theorem stops_separated (ws : List (List Char)) :
    Stops isAlphanumeric (ws.flatMap ([' '] ++ ·)) := by
  cases ws <;> simp [not_isAlphanumeric_space]

theorem words_separated (areWords : ∀ w ∈ ws, IsWord w) :
    words (ws.flatMap ([' '] ++ ·)) = ws := by
  induction ws with
  | nil => rfl
  | cons w ws ih =>
    obtain ⟨isWord, areWords⟩ := List.forall_mem_cons.1 areWords
    rw [List.flatMap_cons, List.append_assoc, List.singleton_append,
      words_separator not_isAlphanumeric_space, words_word isWord (stops_separated ws), ih areWords]

theorem words_joinWith (areWords : ∀ w ∈ ws, IsWord w) : words (joinWith [' '] ws) = ws := by
  cases ws with
  | nil => rfl
  | cons w ws =>
    obtain ⟨isWord, areWords⟩ := List.forall_mem_cons.1 areWords
    rw [joinWith_cons, words_word isWord (stops_separated ws), words_separated areWords]

end words

section sigmas

variable {before cs w rest : List Char} {c : Char}

/-- Every capital sigma of a text, which comes after `before`, is final exactly if it is so in its
word. -/
def SigmasAlike (before cs : List Char) : Prop :=
  ∀ past rest, cs = past ++ 'Σ' :: rest →
    isFinal (past.reverse ++ before) rest =
      isFinal (past.reverse.takeWhile isAlphanumeric) (rest.takeWhile isAlphanumeric)

theorem isWord_iff_map : IsWord w ↔ w.map isAlphanumeric ≠ [] ∧ ∀ b ∈ w.map isAlphanumeric, b := by
  simp [IsWord]

theorem stops_iff_map :
    Stops isAlphanumeric cs ↔ ∀ b ∈ (cs.map isAlphanumeric).head?, b = false := by
  simp [Stops]

theorem isWord_lowerBetween (undotted : 'İ' ∉ w) :
    IsWord (lowerBetween before w rest) ↔ IsWord w := by
  rw [isWord_iff_map, map_isAlphanumeric_lowerBetween undotted, ← isWord_iff_map]

theorem stops_lowerFrom (undotted : 'İ' ∉ cs) :
    Stops isAlphanumeric (lowerFrom before cs) ↔ Stops isAlphanumeric cs := by
  rw [stops_iff_map, map_isAlphanumeric_lowerFrom undotted, ← stops_iff_map]

theorem takeWhile_append_of_stops (stop : Stops isAlphanumeric rest) :
    (w ++ rest).takeWhile isAlphanumeric = w.takeWhile isAlphanumeric := by
  induction w with
  | nil =>
    cases rest with
    | nil => rfl
    | cons c rest => simp [stops_cons.1 stop]
  | cons c w ih => simp only [List.cons_append, List.takeWhile_cons, ih]

theorem sigmasAlike_separator (separator : isAlphanumeric c = false) :
    SigmasAlike before (c :: cs) ↔ SigmasAlike (c :: before) cs := by
  have other : c ≠ 'Σ' := by
    rintro rfl
    exact absurd separator (by decide +kernel)
  have stop : Stops isAlphanumeric [c] := stops_cons.2 separator
  constructor
  · intro alike past rest split
    have here := alike (c :: past) rest (by rw [split, List.cons_append])
    rwa [List.reverse_cons, takeWhile_append_of_stops stop, List.append_assoc] at here
  · intro alike past rest split
    cases past with
    | nil => exact absurd (List.cons.inj split).1 other
    | cons d past =>
      obtain ⟨rfl, rfl⟩ := List.cons.inj split
      rw [List.reverse_cons, takeWhile_append_of_stops stop, List.append_assoc]
      exact alike past rest rfl

theorem takeWhile_past_sigma {past : List Char}
    (stop : Stops isAlphanumeric (past ++ 'Σ' :: rest)) :
    (w ++ past).reverse.takeWhile isAlphanumeric = past.reverse.takeWhile isAlphanumeric := by
  cases past with
  | nil => exact absurd (stops_cons.1 stop) (by decide +kernel)
  | cons c past =>
    have separator : isAlphanumeric c = false := stops_cons.1 stop
    rw [List.reverse_append, List.reverse_cons, List.append_assoc, List.singleton_append,
      takeWhile_append_of_stops (stops_cons.2 separator),
      takeWhile_append_of_stops (stops_cons.2 separator)]

theorem sigmasAlike_word (isWord : IsWord w) (stop : Stops isAlphanumeric rest) :
    SigmasAlike before (w ++ rest) ↔
      lowerBetween before w rest = lower w ∧ SigmasAlike (w.reverse ++ before) rest := by
  have inside : ∀ past later, w = past ++ 'Σ' :: later →
      past.reverse.takeWhile isAlphanumeric = past.reverse ∧
        (later ++ rest).takeWhile isAlphanumeric = later := by
    rintro past later rfl
    rw [takeWhile_append_of_stops stop, List.takeWhile_eq_self_iff, List.takeWhile_eq_self_iff]
    exact ⟨fun c member => isWord.2 c (by simp [List.mem_reverse.1 member]),
      fun c member => isWord.2 c (by simp [member])⟩
  rw [lower, ← lowerBetween_nil, lowerBetween_eq_iff]
  simp only [List.append_nil]
  constructor
  · intro alike
    refine ⟨fun past later split => ?_, fun past later split => ?_⟩
    · have here := alike past (later ++ rest) (by simp [split])
      rwa [(inside past later split).1, (inside past later split).2] at here
    · have here := alike (w ++ past) later (by simp [split])
      rwa [takeWhile_past_sigma (split ▸ stop), List.reverse_append, List.append_assoc] at here
  · intro ⟨inWord, inRest⟩ past tail split
    rcases List.append_eq_append_iff.1 split with ⟨past', rfl, split'⟩ | ⟨later, split', reached⟩
    · rw [takeWhile_past_sigma (split' ▸ stop), List.reverse_append, List.append_assoc]
      exact inRest past' tail split'
    · cases later with
      | nil =>
        obtain rfl : 'Σ' :: tail = rest := reached
        exact absurd (stops_cons.1 stop) (by decide +kernel)
      | cons c later =>
        rw [List.cons_append] at reached
        obtain ⟨rfl, rfl⟩ := List.cons.inj reached
        rw [(inside past later split').1, (inside past later split').2]
        exact inWord past later split'

theorem words_lowerFrom_eq_iff (undotted : 'İ' ∉ cs) :
    words (lowerFrom before cs) = (words cs).map lower ↔ SigmasAlike before cs := by
  induction cs using words_induction generalizing before with
  | nil => simp [lowerFrom, SigmasAlike]
  | separator c cs separator ih =>
    rw [lowerFrom_cons, lowerAt_of_not_alphanumeric separator, List.singleton_append,
      words_separator separator, words_separator separator, sigmasAlike_separator separator,
      ih fun member => undotted (.tail _ member)]
  | word w rest isWord stop ih =>
    have apart : 'İ' ∉ w ∧ 'İ' ∉ rest := by simpa using undotted
    rw [lowerFrom_append, words_word ((isWord_lowerBetween apart.1).2 isWord)
      ((stops_lowerFrom apart.2).2 stop), words_word isWord stop, List.map_cons, List.cons.injEq,
      ih apart.2, sigmasAlike_word isWord stop]

end sigmas

section forms

variable {ws : List (List Char)} {s : String} {d : Char}

theorem mem_joinWith_of_mem {w : List Char} (listed : w ∈ ws) (member : d ∈ w) :
    d ∈ joinWith [' '] ws := by
  cases ws with
  | nil => cases listed
  | cons v ws =>
    rw [joinWith_cons, List.mem_append]
    rcases List.mem_cons.1 listed with rfl | listed
    · exact .inl member
    · exact .inr (List.mem_flatMap.2 ⟨w, listed, by simp [member]⟩)

theorem isAlphanumeric_of_mem_joinWith (areWords : ∀ w ∈ ws, IsWord w)
    (member : d ∈ joinWith [' '] ws) : d = ' ' ∨ isAlphanumeric d := by
  cases ws with
  | nil => cases member
  | cons v ws =>
    simp only [joinWith_cons, List.mem_append, List.mem_flatMap, List.mem_singleton] at member
    rcases member with member | ⟨w, listed, blank | member⟩
    · exact .inr ((areWords v (.head _)).2 d member)
    · exact .inl blank
    · exact .inr ((areWords w (.tail _ listed)).2 d member)

theorem normalForm_lowered (s : String) :
    normalForm (lowered s) = joinWith [' '] (words (lower s.toList)) := by
  have kept : ∀ w ∈ words (lower s.toList), lower w = id w := by
    intro w listed
    apply lowerFrom_of_isLowered
    intro c member
    exact isLowered_of_mem_lowerFrom (exists_mem_words.1 ⟨w, listed, member⟩).1
  rw [normalForm, lowered, String.toList_ofList, List.map_congr_left kept, List.map_id]

-- The combining dot is no letter, so it stays in the normal form only where a word is lowered.
-- The combining dot of a lowered dotted capital I splits a word in two.
theorem normalForm_lowered_ne (dotted : 'İ' ∈ s.toList) :
    normalForm (lowered s) ≠ normalForm s := by
  intro same
  obtain ⟨w, listed, member⟩ := exists_mem_words.2 ⟨dotted, by decide +kernel⟩
  obtain ⟨past, rest, rfl⟩ := List.append_of_mem member
  have dot : Char.ofNat 0x307 ∈ lower (past ++ 'İ' :: rest) := by
    have here : Char.ofNat 0x307 ∈ lowerChar 'İ' := by decide +kernel
    rw [lower, lowerFrom_append, lowerFrom_cons, lowerAt, if_neg (by decide)]
    simp [here]
  have inForm : Char.ofNat 0x307 ∈ normalForm s :=
    mem_joinWith_of_mem (List.mem_map.2 ⟨_, listed, rfl⟩) dot
  rw [← same, normalForm_lowered] at inForm
  have letter := isAlphanumeric_of_mem_joinWith (fun w => isWord_of_mem_words) inForm
  exact absurd letter (by decide +kernel)

theorem normalForm_lowered_eq_iff :
    normalForm (lowered s) = normalForm s ↔ 'İ' ∉ s.toList ∧ SigmasAlike [] s.toList := by
  by_cases dotted : 'İ' ∈ s.toList
  · simp [dotted, normalForm_lowered_ne dotted]
  · have areWords : ∀ w ∈ (words s.toList).map lower, IsWord w := by
      intro w listed'
      obtain ⟨v, listed, rfl⟩ := List.mem_map.1 listed'
      have undotted : 'İ' ∉ v := fun member => dotted (exists_mem_words.1 ⟨v, listed, member⟩).1
      rw [lower, ← lowerBetween_nil, isWord_lowerBetween undotted]
      exact isWord_of_mem_words listed
    have apart : normalForm (lowered s) = normalForm s ↔
        words (lower s.toList) = (words s.toList).map lower := by
      have areWords' : ∀ w ∈ words (lower s.toList), IsWord w := fun w => isWord_of_mem_words
      rw [normalForm_lowered, normalForm]
      constructor
      · intro same
        rw [← words_joinWith areWords', same, words_joinWith areWords]
      · intro same
        rw [same]
    rw [apart, lower, words_lowerFrom_eq_iff dotted]
    simp [dotted]

end forms

section lookup

variable {c : Catalog} {texts : List String} {t raw : String}

theorem lookup_blank (holds : c.Holds texts) (blank : normalForm raw = []) :
    c.lookup raw = none := by
  have unkept : raw ∉ c.values := fun kept =>
    (normalForm_ne_nil_of_mem_firsts (holds.values ▸ kept)) blank
  have stands := standsFor_lookupIn holds (.refl _) raw
  exact stands.unique (fun v kept w kept' => holds.eq_of_form kept kept') (.blank unkept blank)

theorem lookup_of_form (holds : c.Holds texts) (member : t ∈ texts) (nonempty : normalForm t ≠ []) :
    ∃ s, normalForm s = normalForm t ∧
      ∀ raw, normalForm raw = normalForm t → c.lookup raw = some s := by
  obtain ⟨s, kept, form⟩ := (exists_mem_firsts nonempty).2 ⟨t, member, rfl⟩
  rw [← holds.values] at kept
  exact ⟨s, form, fun raw same =>
    lookupIn_of_form holds (.refl _) kept (same ▸ nonempty) (form.trans same.symm)⟩

theorem lookup_eq_of_form (holds : c.Holds texts) (member : t ∈ texts)
    (same : normalForm raw = normalForm t) : c.lookup raw = c.lookup t := by
  by_cases blank : normalForm t = []
  · rw [lookup_blank holds blank, lookup_blank holds (same.trans blank)]
  · obtain ⟨s, -, found⟩ := lookup_of_form holds member blank
    rw [found raw same, found t rfl]

theorem map_normalForm_lookup (holds : c.Holds texts) (member : t ∈ texts) :
    (c.lookup t).map normalForm = if normalForm t = [] then none else some (normalForm t) := by
  by_cases blank : normalForm t = []
  · rw [lookup_blank holds blank, if_pos blank, Option.map_none]
  · obtain ⟨s, form, found⟩ := lookup_of_form holds member blank
    rw [found t rfl, if_neg blank, Option.map_some, form]

theorem form_eq_of_lookup_eq {u : String} (holds : c.Holds texts) (member : t ∈ texts)
    (member' : u ∈ texts) (same : c.lookup t = c.lookup u) : normalForm t = normalForm u := by
  have forms := congrArg (Option.map normalForm) same
  rw [map_normalForm_lookup holds member, map_normalForm_lookup holds member'] at forms
  grind

end lookup

/-- The texts that every catalog of them finds by their lower case as by themselves are those
without a dotted capital I in which each capital sigma is final exactly if it is so in its word. -/
theorem lookup_lowered_iff (v : String) :
    (∀ texts, v ∈ texts → (ofList texts).lookup (lowered v) = (ofList texts).lookup v) ↔
      'İ' ∉ v.toList ∧ SigmasAlike [] v.toList := by
  rw [← normalForm_lowered_eq_iff]
  constructor
  · intro alike
    exact form_eq_of_lookup_eq (Holds.ofList [v, lowered v]) (by simp) (by simp)
      (alike [v, lowered v] (by simp))
  · intro same texts member
    exact lookup_eq_of_form (Holds.ofList texts) member same

theorem not_lookup_lowered_dotted :
    let c := ofList ["İstanbul"]
    c.lookup "İstanbul" = some "İstanbul" ∧ lowered "İstanbul" = "i̇stanbul" ∧
      c.lookup (lowered "İstanbul") = none := by decide +kernel

-- The apostrophe ends the word, but not for the case of the sigma before it.
example : (ofList ["ΑΣ'Α"]).lookup (lowered "ΑΣ'Α") = none := by decide +kernel

end ViewQuery.Catalog
