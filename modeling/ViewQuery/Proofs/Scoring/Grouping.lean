import Mathlib.Data.List.Perm.Basic
import ViewQuery.Evaluation

set_option autoImplicit false

namespace ViewQuery

section addToGroup

variable {groups : List (String × List Example)} {g : String × List Example} {n name : String}
  {e : Example}

theorem names_addToGroup :
    n ∈ (addToGroup name e groups).map Prod.fst ↔ n = name ∨ n ∈ groups.map Prod.fst := by
  induction groups with
  | nil => simp [addToGroup]
  | cons h groups ih =>
    obtain ⟨m, es⟩ := h
    rw [addToGroup]
    split
    · next same => simp [same]
    · split
      · exact List.mem_cons
      · rw [List.map_cons, List.mem_cons, ih, List.map_cons, List.mem_cons]
        exact or_left_comm

theorem ordered_addToGroup (ordered : (groups.map Prod.fst).Pairwise (· < ·)) :
    ((addToGroup name e groups).map Prod.fst).Pairwise (· < ·) := by
  induction groups with
  | nil => simp [addToGroup]
  | cons h groups ih =>
    obtain ⟨m, es⟩ := h
    obtain ⟨first, others⟩ := List.pairwise_cons.1 ordered
    rw [addToGroup]
    split
    · exact ordered
    · next other =>
      split
      · next before =>
        refine .cons (fun n member => ?_) ordered
        rcases List.mem_cons.1 member with rfl | later
        · exact before
        · exact String.lt_trans before (first n later)
      · next after =>
        refine .cons (fun n member => ?_) (ih others)
        rcases names_addToGroup.1 member with rfl | later
        · exact Std.lt_of_le_of_ne (Std.not_lt.1 after) (Ne.symm other)
        · exact first n later

theorem lookup_eq_none (unlisted : name ∉ groups.map Prod.fst) : groups.lookup name = none := by
  refine List.lookup_eq_none_iff.2 fun h member => bne_iff_ne.2 fun same => unlisted ?_
  exact same ▸ List.mem_map_of_mem member

theorem cases_addToGroup (ordered : (groups.map Prod.fst).Pairwise (· < ·))
    (member : g ∈ addToGroup name e groups) :
    g ∈ groups ∧ g.1 ≠ name ∨ g = (name, (groups.lookup name).getD [] ++ [e]) := by
  induction groups with
  | nil => simpa [addToGroup] using member
  | cons h groups ih =>
    obtain ⟨m, es⟩ := h
    obtain ⟨first, others⟩ := List.pairwise_cons.1 ordered
    have apart (n : String) (h : n ∈ groups.map Prod.fst) : n ≠ m := fun same =>
      String.lt_irrefl m (first m (same ▸ h))
    rw [addToGroup] at member
    split at member
    · next same =>
      subst same
      rcases List.mem_cons.1 member with rfl | kept
      · simp
      · exact .inl ⟨List.mem_cons_of_mem _ kept, apart _ (List.mem_map_of_mem kept)⟩
    · next other =>
      split at member
      · next before =>
        have unlisted : name ∉ ((m, es) :: groups).map Prod.fst := by
          rw [List.map_cons, List.mem_cons, not_or]
          exact ⟨other, fun later => String.lt_asymm before (first name later)⟩
        rcases List.mem_cons.1 member with rfl | kept
        · simp [lookup_eq_none unlisted]
        · exact .inl ⟨kept, fun same => unlisted (same ▸ List.mem_map_of_mem kept)⟩
      · rw [List.lookup_cons, beq_false_of_ne other]
        rcases List.mem_cons.1 member with rfl | later
        · exact .inl ⟨List.mem_cons_self, Ne.symm other⟩
        · exact (ih others later).imp_left fun kept => ⟨List.mem_cons_of_mem _ kept.1, kept.2⟩

theorem flatMap_addToGroup (name : String) (e : Example) (groups : List (String × List Example)) :
    ((addToGroup name e groups).flatMap Prod.snd).Perm (e :: groups.flatMap Prod.snd) := by
  induction groups with
  | nil => simp [addToGroup]
  | cons h groups ih =>
    obtain ⟨m, es⟩ := h
    rw [addToGroup]
    split
    · simp
    · split
      · simp
      · exact (ih.append_left es).trans List.perm_middle

end addToGroup

def members (default : Option String) (es : List Example) (name : String) : List Example :=
  es.filter fun e => e.viewName? default = some name

-- No name has two groups, and together the groups have every example once.
structure Grouped (default : Option String) (es : List Example)
    (groups : List (String × List Example)) : Prop where
  ordered : (groups.map Prod.fst).Pairwise (· < ·)
  named : ∀ name, name ∈ groups.map Prod.fst ↔ ∃ e ∈ es, e.viewName? default = some name
  filled : ∀ g ∈ groups, g.2 = members default es g.1
  complete : (groups.flatMap Prod.snd).Perm es

section grouped

variable {default : Option String} {es fs : List Example} {groups : List (String × List Example)}
  {e : Example} {name : String}

theorem members_append_same (named : e.viewName? default = some name) :
    members default (es ++ [e]) name = members default es name ++ [e] := by
  simp [members, named]

theorem members_append_other {n : String} (named : e.viewName? default = some name)
    (other : n ≠ name) : members default (es ++ [e]) n = members default es n := by
  simp [members, named, Ne.symm other]

theorem Grouped.lookup (grouped : Grouped default es groups) (name : String) :
    (groups.lookup name).getD [] = members default es name := by
  cases found : groups.lookup name with
  | none =>
    have unlisted : name ∉ groups.map Prod.fst := fun listed => by
      obtain ⟨g, member, rfl⟩ := List.mem_map.1 listed
      simpa using List.lookup_eq_none_iff.1 found g member
    refine (List.filter_eq_nil_iff.2 fun e member named => unlisted ?_).symm
    exact (grouped.named name).2 ⟨e, member, of_decide_eq_true named⟩
  | some xs =>
    obtain ⟨before, after, split, -⟩ := List.lookup_eq_some_iff.1 found
    exact grouped.filled (name, xs) (by simp [split])

theorem Grouped.add (grouped : Grouped default es groups)
    (named : e.viewName? default = some name) :
    Grouped default (es ++ [e]) (addToGroup name e groups) where
  ordered := ordered_addToGroup grouped.ordered
  named n := by
    rw [names_addToGroup, grouped.named]
    simp [or_and_right, exists_or, named, or_comm, eq_comm]
  filled g member := by
    rcases cases_addToGroup grouped.ordered member with ⟨kept, other⟩ | rfl
    · rw [members_append_other named other, grouped.filled g kept]
    · rw [members_append_same named, grouped.lookup]
  complete := by
    have more := (flatMap_addToGroup name e groups).trans (grouped.complete.cons e)
    exact more.trans (List.perm_append_singleton e es).symm

theorem Grouped.foldlM (grouped : Grouped default es groups) (fs : List Example) :
    (∃ groups', fs.foldlM (group default) groups = .ok groups' ∧
      Grouped default (es ++ fs) groups' ∧ ∀ f ∈ fs, f.viewName? default ≠ none) ∨
    (fs.foldlM (group default) groups = .error .viewMissing ∧
      ∃ f ∈ fs, f.viewName? default = none) := by
  induction fs generalizing es groups with
  | nil => exact .inl ⟨groups, rfl, by simpa using grouped, by simp⟩
  | cons f fs ih =>
    rw [List.foldlM_cons, group]
    cases named : f.viewName? default with
    | none => exact .inr ⟨rfl, f, List.mem_cons_self, named⟩
    | some name =>
      rcases ih (grouped.add named) with ⟨groups', run, grouped', all⟩ | ⟨run, missing⟩
      · refine .inl ⟨groups', run, by simpa using grouped', ?_⟩
        exact List.forall_mem_cons.2 ⟨by simp [named], all⟩
      · obtain ⟨f', member, unnamed⟩ := missing
        exact .inr ⟨run, f', List.mem_cons_of_mem f member, unnamed⟩

theorem Grouped.own (grouped : Grouped default es groups) :
    ∀ g ∈ groups, ∀ e ∈ g.2, e.viewName? default = some g.1 := fun g member e inside => by
  rw [grouped.filled g member] at inside
  simpa [members] using (List.mem_filter.1 inside).2

end grouped

end ViewQuery
