import Mathlib

set_option autoImplicit false

namespace ViewQuery.Sql

section sorting

variable {α : Type} {le : α → α → Bool} {a b : α} {l before after : List α}

def place (le : α → α → Bool) (a : α) (l : List α) : List α :=
  l.takeWhile (fun b => !le a b) ++ a :: l.dropWhile fun b => !le a b

theorem place_append (early : ∀ b ∈ before, le a b = false) (late : ∀ b ∈ after, le a b) :
    place le a (before ++ after) = before ++ a :: after := by
  have isBefore : ∀ b ∈ before, (!le a b) = true := fun b member => by simp [early b member]
  have take : after.takeWhile (fun b => !le a b) = [] := by
    cases after with
    | nil => rfl
    | cons b after => simp [late b (by simp)]
  have drop : after.dropWhile (fun b => !le a b) = after := by
    cases after with
    | nil => rfl
    | cons b after => simp [late b (by simp)]
  rw [place, List.takeWhile_append_of_pos isBefore, List.dropWhile_append_of_pos isBefore, take,
    drop, List.append_nil]

-- A sorted list falls into what comes strictly before an element and what does not.
theorem exists_split (trans : ∀ a b c, le a b → le b c → le a c) (a : α)
    (sorted : l.Pairwise fun a b => le a b) :
    ∃ before after, l = before ++ after ∧ (∀ b ∈ before, le a b = false) ∧ ∀ b ∈ after, le a b := by
  induction l with
  | nil => exact ⟨[], [], rfl, by simp, by simp⟩
  | cons c l ih =>
    obtain ⟨first, sorted⟩ := List.pairwise_cons.1 sorted
    by_cases late : le a c
    · refine ⟨[], c :: l, rfl, by simp, List.forall_mem_cons.2 ⟨late, fun b member => ?_⟩⟩
      exact trans a c b late (first b member)
    · obtain ⟨before, after, rfl, early, others⟩ := ih sorted
      exact ⟨c :: before, after, rfl, List.forall_mem_cons.2 ⟨by simpa using late, early⟩, others⟩

theorem filter_place (trans : ∀ a b c, le a b → le b c → le a c) (keep : α → Bool) (a : α)
    (sorted : l.Pairwise fun a b => le a b) :
    (place le a l).filter keep =
      if keep a then place le a (l.filter keep) else l.filter keep := by
  obtain ⟨before, after, rfl, early, late⟩ := exists_split trans a sorted
  have early' : ∀ b ∈ before.filter keep, le a b = false :=
    fun b member => early b (List.mem_of_mem_filter member)
  have late' : ∀ b ∈ after.filter keep, le a b :=
    fun b member => late b (List.mem_of_mem_filter member)
  rw [place_append early late, List.filter_append, List.filter_append, place_append early' late',
    List.filter_cons]
  split <;> rfl

variable (trans : ∀ a b c, le a b → le b c → le a c) (total : ∀ a b, le a b || le b a)

include trans total

theorem mergeSort_cons_eq_place (a : α) (l : List α) :
    (a :: l).mergeSort le = place le a (l.mergeSort le) := by
  obtain ⟨before, after, sorted, rest, early⟩ := List.mergeSort_cons trans total a l
  have ordered := List.pairwise_mergeSort trans total (a :: l)
  rw [sorted] at ordered
  have late := (List.pairwise_cons.1 (List.pairwise_append.1 ordered).2.1).1
  rw [sorted, rest, place_append (fun b member => by simpa using early b member) late]

theorem place_comm (before : le a b = false) (sorted : l.Pairwise fun a b => le a b) :
    place le b (place le a l) = place le a (place le b l) := by
  have later : le b a := by simpa [before] using total a b
  -- The list falls into what is before b, what is between b and a, and the rest.
  obtain ⟨first, rest, rfl, isFirst, notFirst⟩ := exists_split trans b sorted
  obtain ⟨second, third, rfl, isSecond, isThird⟩ :=
    exists_split trans a (List.pairwise_append.1 sorted).2.1
  have firstBefore : ∀ c ∈ first, le a c = false := by
    intro c member
    by_contra reaches
    have low : le c b := by simpa [isFirst c member] using total b c
    have := trans a c b (by simpa using reaches) low
    simp [before] at this
  have split : first ++ (second ++ third) = (first ++ second) ++ third := by simp
  have placeA : place le a (first ++ (second ++ third)) = first ++ (second ++ a :: third) := by
    rw [split, place_append (List.forall_mem_append.2 ⟨firstBefore, isSecond⟩) isThird]
    simp
  have placeB : place le b (first ++ (second ++ third)) = first ++ b :: (second ++ third) :=
    place_append isFirst notFirst
  have notFirst' : ∀ c ∈ second ++ a :: third, le b c := by
    intro c member
    rcases List.mem_append.1 member with inSecond | inRest
    · exact notFirst c (List.mem_append_left _ inSecond)
    · rcases List.mem_cons.1 inRest with rfl | inThird
      · exact later
      · exact notFirst c (List.mem_append_right _ inThird)
  have early : ∀ c ∈ first ++ b :: second, le a c = false :=
    List.forall_mem_append.2 ⟨firstBefore, List.forall_mem_cons.2 ⟨before, isSecond⟩⟩
  have split' : first ++ b :: (second ++ third) = (first ++ b :: second) ++ third := by simp
  rw [placeA, placeB, place_append isFirst notFirst', split', place_append early isThird]
  simp

theorem mergeSort_append_cons (early : ∀ b ∈ before, le a b = false) :
    (before ++ a :: after).mergeSort le = place le a ((before ++ after).mergeSort le) := by
  induction before with
  | nil => exact mergeSort_cons_eq_place trans total a after
  | cons b before ih =>
    obtain ⟨first, early⟩ := List.forall_mem_cons.1 early
    have sorted := List.pairwise_mergeSort trans total (before ++ after)
    rw [List.cons_append, List.cons_append, mergeSort_cons_eq_place trans total,
      mergeSort_cons_eq_place trans total, ih early, place_comm trans total first sorted]

theorem filter_mergeSort (keep : α → Bool) (l : List α) :
    (l.mergeSort le).filter keep = (l.filter keep).mergeSort le := by
  induction l with
  | nil => simp
  | cons a l ih =>
    have sorted := List.pairwise_mergeSort trans total l
    rw [mergeSort_cons_eq_place trans total, filter_place trans keep a sorted, ih,
      List.filter_cons]
    split
    · rw [mergeSort_cons_eq_place trans total]
    · rfl

theorem mergeSort_mergeSort {fine : α → α → Bool}
    (fineTrans : ∀ a b c, fine a b → fine b c → fine a c) (fineTotal : ∀ a b, fine a b || fine b a)
    (finer : ∀ a b, fine a b → le a b) (l : List α) :
    (l.mergeSort le).mergeSort fine = l.mergeSort fine := by
  induction l with
  | nil => simp
  | cons a l ih =>
    obtain ⟨before, after, sorted, rest, early⟩ := List.mergeSort_cons trans total a l
    have earlyFine : ∀ b ∈ before, fine a b = false := by
      intro b member
      by_contra reaches
      have coarse := finer a b (by simpa using reaches)
      have := early b member
      simp [coarse] at this
    rw [sorted, mergeSort_append_cons fineTrans fineTotal earlyFine, ← rest, ih,
      mergeSort_cons_eq_place fineTrans fineTotal]

end sorting

theorem filter_eraseDups {α : Type} [BEq α] [LawfulBEq α] (keep : α → Bool) (l : List α) :
    l.eraseDups.filter keep = (l.filter keep).eraseDups := by
  -- After its first value the list goes on filtered, which only its length bounds.
  induction size : l.length using Nat.strong_induction_on generalizing l with
  | _ n ih =>
    cases l with
    | nil => rfl
    | cons a l =>
      have smaller : (l.filter fun b => !b == a).length < n := by
        have := List.length_filter_le (fun b => !b == a) l
        simp only [List.length_cons] at size
        omega
      rw [List.eraseDups_cons, List.filter_cons, List.filter_cons, ih _ smaller _ rfl,
        List.filter_filter]
      split
      · rw [List.eraseDups_cons, List.filter_filter]
        simp only [Bool.and_comm]
      · next dropped =>
        congr 1
        apply List.filter_congr
        intro b _
        by_cases same : b = a
        · subst same
          simp [dropped]
        · simp [same]

section repeats

variable {α : Type} [BEq α] [LawfulBEq α] {le : α → α → Bool} {l : List α}

theorem filter_ne_of_notMem {a : α} (absent : a ∉ l) : l.filter (fun b => !b == a) = l := by
  rw [List.filter_eq_self]
  intro b member
  have apart : b ≠ a := fun same => absent (same ▸ member)
  simpa using apart

theorem nodup_eraseDups (l : List α) : l.eraseDups.Nodup := by
  induction size : l.length using Nat.strong_induction_on generalizing l with
  | _ n ih =>
    cases l with
    | nil => exact .nil
    | cons a l =>
      have smaller : (l.filter fun b => !b == a).length < n := by
        have := List.length_filter_le (fun b => !b == a) l
        simp only [List.length_cons] at size
        omega
      rw [List.eraseDups_cons, List.nodup_cons]
      exact ⟨by simp, ih _ smaller _ rfl⟩

theorem eraseDups_of_nodup (nodup : l.Nodup) : l.eraseDups = l := by
  induction l with
  | nil => rfl
  | cons a l ih =>
    obtain ⟨absent, nodup⟩ := List.nodup_cons.1 nodup
    rw [List.eraseDups_cons, filter_ne_of_notMem absent, ih nodup]

variable (trans : ∀ a b c, le a b → le b c → le a c) (total : ∀ a b, le a b || le b a)

include trans total

-- The first place of an element in a sorted list is before all that do not come strictly earlier.
theorem eraseDups_place (a : α) (sorted : l.Pairwise fun a b => le a b) :
    (place le a l).eraseDups = place le a (l.filter fun b => !b == a).eraseDups := by
  obtain ⟨before, after, rfl, early, late⟩ := exists_split trans a sorted
  have absent : a ∉ before := by
    intro member
    have strict := early a member
    have same := total a a
    simp [strict] at same
  have others := filter_ne_of_notMem absent
  have repeats : (a :: after).removeAll before = a :: after.removeAll before := by
    rw [List.cons_removeAll, if_pos (by simpa using absent)]
  have swapped : (after.removeAll before).filter (fun b => !b == a) =
      (after.filter fun b => !b == a).removeAll before := by
    simp only [List.removeAll, List.filter_filter, Bool.and_comm]
  have early' : ∀ b ∈ before.eraseDups, le a b = false :=
    fun b member => early b (List.mem_eraseDups.1 member)
  have late' : ∀ b ∈ ((after.filter fun b => !b == a).removeAll before).eraseDups, le a b := by
    intro b member
    have kept := (List.mem_filter.1 (List.mem_eraseDups.1 member)).1
    exact late b (List.mem_of_mem_filter kept)
  rw [place_append early late, List.eraseDups_append, repeats, List.eraseDups_cons, swapped,
    List.filter_append, others, List.eraseDups_append, place_append early' late']

theorem eraseDups_mergeSort (l : List α) :
    (l.mergeSort le).eraseDups = l.eraseDups.mergeSort le := by
  -- As above, the list goes on filtered after its first value.
  induction size : l.length using Nat.strong_induction_on generalizing l with
  | _ n ih =>
    cases l with
    | nil => simp
    | cons a l =>
      have smaller : (l.filter fun b => !b == a).length < n := by
        have := List.length_filter_le (fun b => !b == a) l
        simp only [List.length_cons] at size
        omega
      rw [mergeSort_cons_eq_place trans total,
        eraseDups_place trans total a (List.pairwise_mergeSort trans total l),
        filter_mergeSort trans total, ih _ smaller _ rfl, List.eraseDups_cons,
        mergeSort_cons_eq_place trans total]

end repeats

end ViewQuery.Sql
