import Mathlib.Data.List.Induction
import Mathlib.Data.List.Nodup
import ViewQuery.Catalog

set_option autoImplicit false

namespace ViewQuery.Catalog

-- The normal form of the text is not empty and is that of no text before its place.
def IsFirst (texts : List String) (place : Nat) (t : String) : Prop :=
  normalForm t ≠ [] ∧ ∀ s ∈ texts.take place, normalForm s ≠ normalForm t

instance (texts : List String) (place : Nat) (t : String) : Decidable (IsFirst texts place t) :=
  inferInstanceAs (Decidable (_ ∧ _))

-- The first text of each normal form that is not empty, in the order of the texts.
def firsts (texts : List String) : List String :=
  (texts.zipIdx.filter fun p => IsFirst texts p.2 p.1).map Prod.fst

/-- What a text stands for among values. -/
inductive StandsFor (values : List String) (raw : String) : Option String → Prop
  | itself : raw ∈ values → StandsFor values raw (some raw)
  | blank : raw ∉ values → normalForm raw = [] → StandsFor values raw none
  | sameForm {v : String} : raw ∉ values → normalForm raw ≠ [] → v ∈ values →
      normalForm v = normalForm raw → StandsFor values raw (some v)
  | onlyPrefixed {v : String} : raw ∉ values → normalForm raw ≠ [] →
      (∀ w ∈ values, normalForm w ≠ normalForm raw) → v ∈ values →
      normalForm raw <+: normalForm v →
      (∀ w ∈ values, normalForm raw <+: normalForm w → w = v) → StandsFor values raw (some v)
  | undecided : raw ∉ values → normalForm raw ≠ [] →
      (∀ w ∈ values, normalForm w ≠ normalForm raw) →
      (¬ ∃ v ∈ values, normalForm raw <+: normalForm v ∧
        ∀ w ∈ values, normalForm raw <+: normalForm w → w = v) → StandsFor values raw none

section firsts

variable {texts : List String} {t v : String}

theorem firsts_append_singleton :
    firsts (texts ++ [t]) =
      firsts texts ++ if IsFirst texts texts.length t then [t] else [] := by
  have earlier : ∀ p ∈ texts.zipIdx,
      decide (IsFirst (texts ++ [t]) p.2 p.1) = decide (IsFirst texts p.2 p.1) := by
    intro p member
    have place := List.snd_lt_of_mem_zipIdx member
    have same : (texts ++ [t]).take p.2 = texts.take p.2 :=
      List.take_append_of_le_length (by omega)
    rw [decide_eq_decide, IsFirst, IsFirst, same]
  have last : IsFirst (texts ++ [t]) texts.length t ↔ IsFirst texts texts.length t := by
    simp [IsFirst]
  rw [firsts, List.zipIdx_append, List.filter_append, List.filter_congr earlier, List.map_append,
    ← firsts]
  by_cases isFirst : IsFirst texts texts.length t <;> simp [last, isFirst]

theorem exists_mem_firsts {key : List Char} (nonempty : key ≠ []) :
    (∃ v ∈ firsts texts, normalForm v = key) ↔ ∃ s ∈ texts, normalForm s = key := by
  induction texts using List.reverseRecOn with
  | nil => simp [firsts]
  | append_singleton texts t ih =>
    rw [firsts_append_singleton]
    by_cases isFirst : IsFirst texts texts.length t
    · simp [isFirst, or_and_right, exists_or, ih]
    · have known : normalForm t = key → ∃ s ∈ texts, normalForm s = key := by
        intro same
        simp [IsFirst, same, nonempty] at isFirst
        exact isFirst
      simp [isFirst, or_and_right, exists_or, ih]
      exact known

theorem firsts_sublist (texts : List String) : (firsts texts).Sublist texts := by
  have places : texts.zipIdx.map Prod.fst = texts := by simp
  have kept : ((texts.zipIdx.filter fun p => IsFirst texts p.2 p.1).map Prod.fst).Sublist
      (texts.zipIdx.map Prod.fst) := List.filter_sublist.map _
  rwa [places] at kept

theorem normalForm_ne_nil_of_mem_firsts (first : v ∈ firsts texts) : normalForm v ≠ [] := by
  obtain ⟨p, kept, rfl⟩ := List.mem_map.1 first
  have isFirst : IsFirst texts p.2 p.1 := by simpa using (List.mem_filter.1 kept).2
  exact isFirst.1

theorem mem_firsts_of_find? {key : List Char} (nonempty : key ≠ [])
    (found : texts.find? (fun s => normalForm s = key) = some v) : v ∈ firsts texts := by
  obtain ⟨form, before, after, rfl, others⟩ := List.find?_eq_some_iff_append.1 found
  have form : normalForm v = key := by simpa using form
  refine List.mem_map.2 ⟨(v, before.length), List.mem_filter.2 ⟨?_, ?_⟩, rfl⟩
  · simp [List.mk_mem_zipIdx_iff_getElem?]
  · simpa [IsFirst, form, nonempty] using others

end firsts

section entries

variable {key : List Char} {i : Nat}

theorem lookup_eq_some_iff_mem {entries : List (List Char × Nat)}
    (keys : (entries.map Prod.fst).Nodup) : entries.lookup key = some i ↔ (key, i) ∈ entries := by
  induction entries with
  | nil => simp
  | cons e entries ih =>
    obtain ⟨fresh, keys⟩ := List.nodup_cons.1 keys
    rw [List.lookup_cons]
    by_cases same : key = e.1
    · have unlisted : (e.1, i) ∉ entries := fun member => fresh (List.mem_map.2 ⟨_, member, rfl⟩)
      simp [same, unlisted, Prod.ext_iff, eq_comm]
    · simp [beq_false_of_ne same, ih keys, Prod.ext_iff, same]

end entries

structure Holds (c : Catalog) (texts : List String) : Prop where
  values : c.values = firsts texts
  keys : (c.index.map Prod.fst).Nodup
  entries : ∀ key i, (key, i) ∈ c.index ↔ ∃ v, c.values[i]? = some v ∧ normalForm v = key

namespace Holds

variable {c : Catalog} {texts : List String} {t : String} {key : List Char}

theorem lookup_index (holds : c.Holds texts) (key : List Char) (i : Nat) :
    c.index.lookup key = some i ↔ ∃ v, c.values[i]? = some v ∧ normalForm v = key := by
  rw [lookup_eq_some_iff_mem holds.keys, holds.entries]

theorem isSome_lookup (holds : c.Holds texts) (key : List Char) :
    (c.index.lookup key).isSome ↔ ∃ v ∈ c.values, normalForm v = key := by
  simp only [Option.isSome_iff_exists, holds.lookup_index, List.mem_iff_getElem?]
  grind

theorem nil : empty.Holds [] := by
  constructor <;> simp [empty, firsts]

theorem insert (holds : c.Holds texts) (t : String) : (c.insert t).Holds (texts ++ [t]) := by
  by_cases isFirst : IsFirst texts texts.length t
  · have nonempty : (normalForm t).isEmpty = false := by simpa using isFirst.1
    have fresh : ¬ ∃ v ∈ c.values, normalForm v = normalForm t := by
      rw [holds.values, exists_mem_firsts isFirst.1]
      simpa [IsFirst] using isFirst.2
    have absent : (c.index.lookup (normalForm t)).isSome = false :=
      eq_false_of_ne_true fun found => fresh ((holds.isSome_lookup _).1 found)
    have entered : c.insert t = ⟨c.values ++ [t], (normalForm t, c.values.length) :: c.index⟩ := by
      simp only [Catalog.insert, nonempty, absent, Bool.or_self, Bool.false_eq_true, if_false]
    rw [entered]
    constructor
    · simp only [firsts_append_singleton, isFirst, holds.values, if_true]
    · rw [List.map_cons, List.nodup_cons]
      refine ⟨fun member => ?_, holds.keys⟩
      obtain ⟨e, listed, same⟩ := List.mem_map.1 member
      obtain ⟨v, found, form⟩ := (holds.entries e.1 e.2).1 listed
      exact fresh ⟨v, List.mem_of_getElem? found, form.trans same⟩
    · intro key i
      have entry := holds.entries key i
      simp only [List.mem_cons, Prod.mk.injEq]
      grind
  · have passed : c.insert t = c := by
      by_cases empty : normalForm t = []
      · simp [Catalog.insert, empty]
      · have known : ∃ v ∈ c.values, normalForm v = normalForm t := by
          rw [holds.values, exists_mem_firsts empty]
          simpa [IsFirst, empty] using isFirst
        simp [Catalog.insert, (holds.isSome_lookup _).2 known]
    rw [passed]
    exact ⟨by simp [firsts_append_singleton, isFirst, holds.values], holds.keys, holds.entries⟩

theorem ofList (texts : List String) : (ofList texts).Holds texts := by
  induction texts using List.reverseRecOn with
  | nil => exact nil
  | append_singleton texts t ih =>
    have last : Catalog.ofList (texts ++ [t]) = (Catalog.ofList texts).insert t := by
      simp [Catalog.ofList]
    rw [last]
    exact ih.insert t

theorem eq_of_form (holds : c.Holds texts) {v w : String} (kept : v ∈ c.values)
    (kept' : w ∈ c.values) (same : normalForm v = normalForm w) : v = w := by
  obtain ⟨i, found⟩ := List.mem_iff_getElem?.1 kept
  obtain ⟨j, found'⟩ := List.mem_iff_getElem?.1 kept'
  have place := (holds.lookup_index (normalForm w) i).2 ⟨v, found, same⟩
  have place' := (holds.lookup_index (normalForm w) j).2 ⟨w, found', rfl⟩
  grind

section prefixes

variable {order : List (List Char × Nat)}

theorem mem_prefixed (holds : c.Holds texts) (entries : order.Perm c.index) (start key : List Char)
    (i : Nat) :
    (key, i) ∈ order.filter (fun e => start.isPrefixOf e.1) ↔
      (∃ v, c.values[i]? = some v ∧ normalForm v = key) ∧ start <+: key := by
  rw [List.mem_filter, entries.mem_iff, holds.entries]
  simp

theorem nodup_prefixed (holds : c.Holds texts) (entries : order.Perm c.index) (start : List Char) :
    (order.filter fun e => start.isPrefixOf e.1).Nodup :=
  (entries.nodup_iff.2 holds.keys.of_map).filter _

end prefixes

end Holds

section lookup

variable {c : Catalog} {texts : List String} {order : List (List Char × Nat)} {raw value : String}

theorem lookupIn_mem (found : c.lookupIn order raw = some value) : value ∈ c.values := by
  simp only [lookupIn] at found
  split at found
  · next first =>
    obtain rfl := Option.some.inj found
    exact List.mem_of_find?_eq_some first
  · split at found
    · cases found
    · split at found
      · exact List.mem_of_getElem? found
      · split at found
        · exact List.mem_of_getElem? found
        · cases found

theorem lookupIn_of_mem (kept : raw ∈ c.values) : c.lookupIn order raw = some raw := by
  unfold lookupIn
  split
  · next v first =>
    have same : v = raw := by simpa using List.find?_some first
    rw [same]
  · next nothing => simpa using List.find?_eq_none.1 nothing raw kept

theorem lookup_lookup (found : c.lookup raw = some value) : c.lookup value = some value :=
  lookupIn_of_mem (lookupIn_mem found)

theorem standsFor_lookupIn (holds : c.Holds texts) (entries : order.Perm c.index) (raw : String) :
    StandsFor c.values raw (c.lookupIn order raw) := by
  by_cases kept : raw ∈ c.values
  · rw [lookupIn_of_mem kept]
    exact .itself kept
  have unkept : c.values.find? (fun v => v = raw) = none := by
    rw [List.find?_eq_none]
    grind
  simp only [lookupIn, unkept]
  by_cases empty : normalForm raw = []
  · simpa [empty] using StandsFor.blank kept empty
  rw [if_neg (by simpa using empty)]
  cases place : c.index.lookup (normalForm raw) with
  | some i =>
    obtain ⟨v, found, form⟩ := (holds.lookup_index _ i).1 place
    simpa [found] using StandsFor.sameForm kept empty (List.mem_of_getElem? found) form
  | none =>
    have apart : ∀ w ∈ c.values, normalForm w ≠ normalForm raw := fun w member form => by
      have known := (holds.isSome_lookup _).2 ⟨w, member, form⟩
      rw [place] at known
      cases known
    have listed := holds.mem_prefixed entries (normalForm raw)
    dsimp only
    split
    · next e only =>
      obtain ⟨⟨v, found, form⟩, begins⟩ := (listed e.1 e.2).1 (by simp [only])
      have member := List.mem_of_getElem? found
      rw [found]
      refine .onlyPrefixed kept empty apart member (form ▸ begins) fun w member' begins' => ?_
      obtain ⟨j, found'⟩ := List.mem_iff_getElem?.1 member'
      have entry := (listed _ j).2 ⟨⟨w, found', rfl⟩, begins'⟩
      rw [only, List.mem_singleton] at entry
      exact holds.eq_of_form member' member ((congrArg Prod.fst entry).trans form.symm)
    · next several =>
      refine .undecided kept empty apart ?_
      intro ⟨v, member, begins, only⟩
      obtain ⟨i, found⟩ := List.mem_iff_getElem?.1 member
      -- the entry of the only value would be the only entry
      have entry := (listed _ i).2 ⟨⟨v, found, rfl⟩, begins⟩
      apply several (normalForm v, i)
      rw [← List.perm_singleton,
        List.perm_ext_iff_of_nodup (holds.nodup_prefixed entries _) (by simp)]
      intro e
      rw [List.mem_singleton]
      constructor
      · intro member
        obtain ⟨⟨w, found', form⟩, begins'⟩ := (listed e.1 e.2).1 member
        obtain rfl := only w (List.mem_of_getElem? found') (form ▸ begins')
        have place := (holds.lookup_index _ e.2).2 ⟨w, found', form⟩
        have place' := (holds.lookup_index _ i).2 ⟨w, found, form⟩
        grind
      · rintro rfl
        exact entry

theorem StandsFor.unique {values : List String} {a b : Option String}
    (distinct : ∀ v ∈ values, ∀ w ∈ values, normalForm v = normalForm w → v = w)
    (first : StandsFor values raw a) (second : StandsFor values raw b) : a = b := by
  cases first <;> cases second <;> grind

theorem lookupIn_of_form (holds : c.Holds texts) (entries : order.Perm c.index)
    (kept : value ∈ c.values) (nonempty : normalForm raw ≠ [])
    (form : normalForm value = normalForm raw) : c.lookupIn order raw = some value := by
  by_cases itself : raw ∈ c.values
  · rw [lookupIn_of_mem itself, holds.eq_of_form kept itself form]
  · exact (standsFor_lookupIn holds entries raw).unique
      (fun v kept w kept' => holds.eq_of_form kept kept') (.sameForm itself nonempty kept form)

end lookup

/-- A catalog keeps the first text of each normal form, and its index leads to their places. In
whatever order its entries are gone through, a text stands for what the values determine, which is
one of the texts and stands for itself; each of the texts stands for the first of its form. -/
theorem lookup_in_any_order (texts : List String) {order : List (List Char × Nat)}
    (entries : order.Perm (ofList texts).index) :
    (ofList texts).values = firsts texts ∧
    ((ofList texts).index.map Prod.fst).Nodup ∧
    (∀ key i, (ofList texts).index.lookup key = some i ↔
      ∃ v, (ofList texts).values[i]? = some v ∧ normalForm v = key) ∧
    (∀ raw answer, (ofList texts).lookupIn order raw = answer ↔
      StandsFor (ofList texts).values raw answer) ∧
    (∀ raw, (ofList texts).lookupIn order raw = (ofList texts).lookup raw) ∧
    (∀ raw v, (ofList texts).lookupIn order raw = some v →
      v ∈ texts ∧ (ofList texts).lookupIn order v = some v) ∧
    ∀ t ∈ texts, normalForm t ≠ [] →
      (ofList texts).lookupIn order t = texts.find? fun s => normalForm s = normalForm t := by
  have holds := Holds.ofList texts
  have stands := standsFor_lookupIn holds entries
  have distinct : ∀ v ∈ (ofList texts).values, ∀ w ∈ (ofList texts).values,
      normalForm v = normalForm w → v = w := fun v kept w kept' => holds.eq_of_form kept kept'
  have only (raw : String) {answer : Option String}
      (stands' : StandsFor (ofList texts).values raw answer) :
      (ofList texts).lookupIn order raw = answer := (stands raw).unique distinct stands'
  refine ⟨holds.values, holds.keys, holds.lookup_index, fun raw answer => ?_,
    fun raw => only raw (standsFor_lookupIn holds (.refl _) raw), fun raw v found => ?_,
    fun t member nonempty => ?_⟩
  · constructor
    · rintro rfl
      exact stands raw
    · exact only raw
  · have kept := lookupIn_mem found
    exact ⟨(firsts_sublist texts).subset (holds.values ▸ kept), lookupIn_of_mem kept⟩
  · cases found : texts.find? fun s => normalForm s = normalForm t with
    | none => simpa using List.find?_eq_none.1 found t member
    | some s =>
      have kept : s ∈ (ofList texts).values := holds.values ▸ mem_firsts_of_find? nonempty found
      exact lookupIn_of_form holds entries kept nonempty (by simpa using List.find?_some found)

theorem lookup_in_any_order_countries :
    let texts := ["United States", "United Kingdom", "--", "Poland", "poland"]
    let c := ofList texts
    let order := c.index.reverse
    order.Perm c.index ∧ c.values = firsts texts ∧
      c.lookupIn order "united k" = some "United Kingdom" ∧
      StandsFor c.values "united k" (some "United Kingdom") ∧
      c.lookupIn order "united" = none ∧ StandsFor c.values "united" none ∧
      c.lookupIn order "poland" = texts.find? fun s => normalForm s = normalForm "poland" := by
  intro texts c order
  have entries : order.Perm c.index := List.reverse_perm _
  obtain ⟨values, -, -, stands, -, -, given⟩ := lookup_in_any_order texts entries
  have begun : c.lookupIn order "united k" = some "United Kingdom" := by decide +kernel
  have shared : c.lookupIn order "united" = none := by decide +kernel
  have poland := given "poland" (by decide) (by decide +kernel)
  exact ⟨entries, values, begun, (stands _ _).1 begun, shared, (stands _ _).1 shared, poland⟩

end ViewQuery.Catalog
