import ViewQuery.Draft
import ViewQuery.Proofs.Text.Trimming

set_option autoImplicit false

namespace ViewQuery.Draft

open Grammar (Stops)
open Text (isBlank trim)

variable {tag gap text : List Char}

theorem withoutSuffix_append (suffix cs : List Char) : withoutSuffix suffix (cs ++ suffix) = cs := by
  have isSuffix : suffix.isSuffixOf (cs ++ suffix) := by simp
  rw [withoutSuffix, if_pos isSuffix, List.length_append, Nat.add_sub_cancel, List.take_left]

theorem withoutSuffix_eq_self {suffix cs : List Char} (other : ¬suffix <:+ cs) :
    withoutSuffix suffix cs = cs := by
  rw [withoutSuffix, if_neg (by simpa using other)]

theorem afterFirstLine_line (line : ∀ c ∈ tag, c ≠ '\n') (rest : List Char) :
    afterFirstLine (tag ++ '\n' :: rest) = rest := by
  have cut : (tag ++ '\n' :: rest).dropWhile (· ≠ '\n') = '\n' :: rest :=
    Grammar.dropWhile_append (by simpa using line) (Grammar.stops_cons.2 (by decide))
  rw [afterFirstLine, cut]

theorem withoutFence_closed (line : ∀ c ∈ tag, c ≠ '\n') (rest : List Char) :
    withoutFence (fence ++ (tag ++ '\n' :: rest ++ fence)) = rest := by
  rw [withoutFence, if_pos (by simp), List.drop_left, withoutSuffix_append,
    afterFirstLine_line line]

theorem withoutFence_open (line : ∀ c ∈ tag, c ≠ '\n') {rest : List Char}
    (unclosed : ¬fence <:+ tag ++ '\n' :: rest) :
    withoutFence (fence ++ (tag ++ '\n' :: rest)) = rest := by
  rw [withoutFence, if_pos (by simp), List.drop_left, withoutSuffix_eq_self unclosed,
    afterFirstLine_line line]

theorem withoutFence_bare (bare : ¬fence <+: text) : withoutFence text = text := by
  rw [withoutFence, if_neg (by simpa using bare)]

-- A fence at the end lies within the text: it holds no blank, and one stands before the text.
theorem unclosed_of_text (blank : ∀ c ∈ gap, isBlank c)
    (unclosed : ¬fence <:+ text) : ¬fence <:+ tag ++ '\n' :: (gap ++ text) := by
  intro closed
  rw [← List.cons_append, ← List.append_assoc] at closed
  rcases List.suffix_or_suffix_of_suffix closed (List.suffix_append _ text) with
    inside | ⟨ticks, parts⟩
  · exact unclosed inside
  · obtain ⟨front, whole⟩ := closed
    rw [← parts, ← List.append_assoc, List.append_cancel_right_eq] at whole
    obtain ⟨blanks, b, isBlanks⟩ : ∃ blanks b, '\n' :: gap = blanks ++ [b] :=
      (List.eq_nil_or_concat' ('\n' :: gap)).resolve_left (List.cons_ne_nil _ _)
    have blankLast : isBlank b := by
      have all : ∀ c ∈ '\n' :: gap, isBlank c := List.forall_mem_cons.2 ⟨by decide, blank⟩
      exact all b (by simp [isBlanks])
    rcases List.eq_nil_or_concat' ticks with rfl | ⟨others, tick, rfl⟩
    · exact unclosed ⟨[], parts.symm⟩
    · rw [isBlanks, ← List.append_assoc, ← List.append_assoc] at whole
      obtain rfl : tick = b := by simpa using (List.append_inj' whole rfl).2
      have isTick : tick = '\x60' := List.eq_of_mem_replicate (parts ▸ by simp : tick ∈ fence)
      rw [isTick] at blankLast
      exact absurd blankLast (by decide)

theorem stops_fence (rest : List Char) : Stops isBlank (fence ++ rest) :=
  Grammar.stops_cons.2 (by decide)

theorem trim_eq {before core after : List Char} (front : ∀ c ∈ before, isBlank c)
    (back : ∀ c ∈ after, isBlank c) (starts : Stops isBlank core)
    (ends : Stops isBlank core.reverse) : trim (before ++ core ++ after) = core :=
  Text.trimBy_eq front back starts ends

/-- A text in a fence, with any tag behind the opening fence and any blanks around it, gives the
outcome of reading the text alone; so does one without the closing fence that is not blank and does
not end with a fence, and one without a fence that does not begin with one. -/
theorem ofReply_in_fence {before after tag : List Char} (front : ∀ c ∈ before, isBlank c)
    (back : ∀ c ∈ after, isBlank c) (line : ∀ c ∈ tag, c ≠ '\n') (text : List Char) :
    let alone := Json.Read.whole? (Json.Read.record shape) (trim text)
    (∀ feed, feed = [] ∨ feed = ['\n'] →
      ofReply (String.ofList
        (before ++ (fence ++ (tag ++ '\n' :: (text ++ feed) ++ fence)) ++ after)) = alone) ∧
    (trim text ≠ [] → ¬fence <:+ trim text →
      ofReply (String.ofList (before ++ (fence ++ (tag ++ '\n' :: text)) ++ after)) = alone) ∧
    (¬fence <+: trim text → ofReply (String.ofList (before ++ text ++ after)) = alone) := by
  intro alone
  obtain ⟨gap, gap', parts, inGap, inGap', starts, ends⟩ := Text.exists_trimBy isBlank text
  refine ⟨fun feed isFeed => ?_, fun filled unclosed => ?_, fun bare => ?_⟩
  · have endsFence :
        Stops isBlank (fence ++ (tag ++ '\n' :: (text ++ feed) ++ fence)).reverse := by
      simp only [List.reverse_append, List.append_assoc]
      exact Grammar.stops_cons.2 (by decide)
    have blankFeed : ∀ c ∈ feed, isBlank c := by
      rcases isFeed with rfl | rfl
      · exact fun _ member => nomatch member
      · exact List.forall_mem_singleton.2 (by decide)
    have inside : trim (text ++ feed) = trim text :=
      Text.trimBy_between (List.forall_mem_nil _) blankFeed text
    rw [ofReply, String.toList_ofList, trim_eq front back (stops_fence _) endsFence,
      withoutFence_closed line, inside]
  · -- The blanks behind the text belong to those behind the reply.
    have shape : before ++ (fence ++ (tag ++ '\n' :: text)) ++ after =
        before ++ (fence ++ (tag ++ '\n' :: (gap ++ trim text))) ++ (gap' ++ after) := by
      conv_lhs => rw [parts]
      simp [trim]
    have endsText : Stops isBlank (fence ++ (tag ++ '\n' :: (gap ++ trim text))).reverse := by
      obtain ⟨c, core, isLast⟩ := List.exists_cons_of_ne_nil (List.reverse_ne_nil_iff.2 filled)
      have nonblank : isBlank c = false := Grammar.stops_cons.1 (isLast ▸ ends)
      simp only [List.reverse_append, List.reverse_cons, List.append_assoc, isLast]
      exact Grammar.stops_cons.2 nonblank
    have inside : trim (gap ++ trim text) = trim text := by
      have trimmed : trim (gap ++ trim text ++ []) = trim text :=
        trim_eq inGap (fun _ member => nomatch member) starts ends
      rwa [List.append_nil] at trimmed
    rw [ofReply, String.toList_ofList, shape,
      trim_eq front (List.forall_mem_append.2 ⟨inGap', back⟩) (stops_fence _) endsText,
      withoutFence_open line (unclosed_of_text inGap unclosed), inside]
  · have outside : trim (before ++ text ++ after) = trim text := Text.trimBy_between front back text
    have again : trim (trim text) = trim text := Text.trimBy_trimBy isBlank text
    rw [ofReply, String.toList_ofList, outside, withoutFence_bare bare, again]

-- A tag with a backtick, a text that starts and ends with line breaks, and two kinds of blanks.
theorem ofReply_in_fence_tagged :
    let before := ['\u00a0', '\n']
    let after := [' ', '\r']
    let tag := "json\x60".toList
    let text := "\r\n \x7b\"filters\": \"near('\x60\x60\x60')\"\x7d\n".toList
    let draft : Draft := ⟨"near('\x60\x60\x60')", ""⟩
    (∀ c ∈ before, isBlank c) ∧ (∀ c ∈ after, isBlank c) ∧ (∀ c ∈ tag, c ≠ '\n') ∧
      trim text ≠ [] ∧ ¬fence <:+ trim text ∧ ¬fence <+: trim text ∧
      ofReply (String.ofList
        (before ++ (fence ++ (tag ++ '\n' :: (text ++ ['\n']) ++ fence)) ++ after)) = .ok draft ∧
      ofReply (String.ofList (before ++ (fence ++ (tag ++ '\n' :: text)) ++ after)) = .ok draft ∧
      ofReply (String.ofList (before ++ text ++ after)) = .ok draft := by
  intro before after tag text draft
  have front : ∀ c ∈ before, isBlank c := List.all_eq_true.1 (by decide)
  have back : ∀ c ∈ after, isBlank c := List.all_eq_true.1 (by decide)
  have line : ∀ c ∈ tag, c ≠ '\n' := by simp [tag]
  have filled : trim text ≠ [] := by decide +kernel
  have unclosed : ¬fence <:+ trim text := by decide +kernel
  have bare : ¬fence <+: trim text := by decide +kernel
  have alone : Json.Read.whole? (Json.Read.record shape) (trim text) = .ok draft := by decide +kernel
  obtain ⟨closed, opened, plain⟩ := ofReply_in_fence front back line text
  rw [alone] at closed opened plain
  exact ⟨front, back, line, filled, unclosed, bare, closed _ (.inr rfl), opened filled unclosed,
    plain bare⟩

end ViewQuery.Draft
