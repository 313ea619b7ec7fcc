import Mathlib.Data.List.Nodup
import ViewQuery.Registry

set_option autoImplicit false

namespace ViewQuery

namespace View

def firsts : List View → List View
  | [] => []
  | v :: vs => v :: (firsts vs).filter fun w => w.name ≠ v.name

def named? (vs : List View) (name : String) : Option View := vs.find? fun v => v.name = name

section firsts

variable {vs : List View} {v w : View} {name : String}

theorem named?_cons : named? (v :: vs) name = if v.name = name then some v else named? vs name := by
  simp only [named?, List.find?_cons]
  split <;> simp_all

theorem named?_eq_none_iff : named? vs name = none ↔ name ∉ vs.map View.name := by
  simp [named?]

theorem named?_append_singleton :
    named? (vs ++ [v]) name = (named? vs name).or (if v.name = name then some v else none) := by
  rw [named?, List.find?_append, ← named?, ← named?, named?_cons]
  rfl

theorem mem_firsts : v ∈ firsts vs ↔ named? vs v.name = some v := by
  induction vs with
  | nil => simp [firsts, named?]
  | cons w vs ih =>
    rw [firsts, List.mem_cons, List.mem_filter, ih, named?_cons]
    by_cases same : w.name = v.name
    · simp [same, eq_comm]
    · have other : v ≠ w := fun equal => same (equal ▸ rfl)
      simp [same, other, Ne.symm same]

theorem firsts_sublist (vs : List View) : (firsts vs).Sublist vs := by
  induction vs with
  | nil => exact .slnil
  | cons v vs ih => exact (List.filter_sublist.trans ih).cons_cons v

theorem nodup_firsts (vs : List View) : ((firsts vs).map View.name).Nodup := by
  induction vs with
  | nil => exact List.nodup_nil
  | cons v vs ih =>
    rw [firsts, List.map_cons, List.nodup_cons]
    exact ⟨by simp, ih.sublist (List.filter_sublist.map _)⟩

theorem firsts_append_singleton :
    firsts (vs ++ [v]) = firsts vs ++ [v].filter fun w => w.name ∉ vs.map View.name := by
  induction vs with
  | nil => rfl
  | cons w vs ih =>
    rw [List.cons_append, firsts, firsts, ih, List.filter_append, List.filter_filter,
      List.cons_append]
    congr 3
    simp

end firsts

end View

namespace Registry

open View

inductive Request where
  | register (d : Declaration)
  | get (name : String)
  | list
  | size
  deriving DecidableEq

inductive Reply where
  | registered
  | refused (e : ViewError)
  | found (v : View)
  | listed (views : List (String × String))
  | counted (n : Nat)

def serve (r : Registry) : Request → Reply × Registry
  | .register d =>
    match r.addDeclaration d with
    | .ok r' => (.registered, r')
    | .error e => (.refused e, r)
  | .get name =>
    match r.get name with
    | .ok v => (.found v, r)
    | .error e => (.refused e, r)
  | .list => (.listed r.toList, r)
  | .size => (.counted r.size, r)

def serveAll (r : Registry) : List Request → List Reply × Registry
  | [] => ([], r)
  | q :: qs =>
    let (reply, r) := r.serve q
    let (replies, r) := serveAll r qs
    (reply :: replies, r)

def Request.view? : Request → Option View
  | .register d => (View.ofDeclaration d).toOption
  | _ => none

-- The reply to a request after these views were built.
def Request.replyAfter (vs : List View) : Request → Reply
  | .register d =>
    match View.ofDeclaration d with
    | .ok v => if v.name ∈ vs.map View.name then .refused (.viewRepeated v.name) else .registered
    | .error e => .refused e
  | .get name =>
    match named? vs name with
    | some v => .found v
    | none => .refused (.viewNotFound name)
  | .list => .listed ((firsts vs).map fun v => (v.name, v.description))
  | .size => .counted (firsts vs).length

-- What the views that were built so far say of a registry; every request keeps it.
structure Holds (r : Registry) (vs : List View) : Prop where
  lookup : ∀ name, r.byName.lookup name = named? vs name
  order : r.order = (firsts vs).map View.name

section holds

variable {r r' : Registry} {vs : List View} {v : View} {d : Declaration} {q : Request}

theorem holds_empty : empty.Holds [] := ⟨fun _ => rfl, rfl⟩

theorem Holds.views (holds : r.Holds vs) : r.views = firsts vs := by
  rw [Registry.views, holds.order, List.filterMap_map]
  have same : ∀ v ∈ firsts vs, r.byName.lookup v.name = some v := fun v member =>
    (holds.lookup v.name).trans (mem_firsts.1 member)
  exact (List.filterMap_congr same).trans List.filterMap_some

theorem Holds.toList (holds : r.Holds vs) :
    r.toList = (firsts vs).map fun v => (v.name, v.description) := by
  rw [Registry.toList, holds.views]

theorem Holds.size (holds : r.Holds vs) : r.size = (firsts vs).length := by
  rw [Registry.size, holds.order, List.length_map]

theorem Holds.get (holds : r.Holds vs) (name : String) :
    r.get name = match named? vs name with
      | some v => .ok v
      | none => .error (.viewNotFound name) := by
  cases found : named? vs name <;> simp only [Registry.get, holds.lookup, found]

theorem Holds.contains (holds : r.Holds vs) (name : String) :
    r.contains name = true ↔ name ∈ vs.map View.name := by
  rw [Registry.contains, holds.lookup, Option.isSome_iff_ne_none, ne_eq, named?_eq_none_iff,
    not_not]

theorem Holds.register_known (holds : r.Holds vs) (known : v.name ∈ vs.map View.name) :
    r.register v = .error (.viewRepeated v.name) ∧ r.Holds (vs ++ [v]) := by
  refine ⟨register_of_contains ((holds.contains _).2 known), fun name => ?_, ?_⟩
  · rw [holds.lookup, named?_append_singleton]
    cases found : named? vs name with
    | some w => rfl
    | none =>
      have other : v.name ≠ name := fun same => named?_eq_none_iff.1 found (same ▸ known)
      simp [other]
  · rw [holds.order, firsts_append_singleton, List.filter_singleton]
    simp [known]

theorem Holds.register_fresh (holds : r.Holds vs) (fresh : v.name ∉ vs.map View.name) :
    ∃ r', r.register v = .ok r' ∧ r'.Holds (vs ++ [v]) := by
  obtain ⟨r', registered, byName, order⟩ := register_of_fresh (mt (holds.contains _).1 fresh)
  refine ⟨r', registered, fun name => ?_, ?_⟩
  · rw [byName, List.lookup_cons, holds.lookup, named?_append_singleton]
    by_cases same : name = v.name
    · simp [same, named?_eq_none_iff.2 fresh]
    · simp [beq_false_of_ne same, Ne.symm same]
  · rw [order, holds.order, firsts_append_singleton, List.filter_singleton]
    simp [fresh]

theorem Holds.serve (holds : r.Holds vs) (q : Request) :
    (r.serve q).1 = q.replyAfter vs ∧ (r.serve q).2.Holds (vs ++ q.view?.toList) := by
  have kept : r.Holds (vs ++ []) := (List.append_nil vs).symm ▸ holds
  cases q with
  | register d =>
    simp only [Registry.serve, Request.replyAfter, Request.view?, addDeclaration]
    cases View.ofDeclaration d with
    | error e => exact ⟨rfl, kept⟩
    | ok v =>
      by_cases known : v.name ∈ vs.map View.name
      · obtain ⟨refused, holds⟩ := holds.register_known known
        simp only [refused, if_pos known]
        exact ⟨trivial, holds⟩
      · obtain ⟨r', registered, holds⟩ := holds.register_fresh known
        simp only [registered, if_neg known]
        exact ⟨trivial, holds⟩
  | get name =>
    simp only [Registry.serve, Request.replyAfter, holds.get]
    cases named? vs name with
    | none => exact ⟨rfl, kept⟩
    | some v => exact ⟨rfl, kept⟩
  | list => exact ⟨congrArg Reply.listed holds.toList, kept⟩
  | size => exact ⟨congrArg Reply.counted holds.size, kept⟩

theorem Holds.serveAll (holds : r.Holds vs) (qs : List Request) :
    (r.serveAll qs).2.Holds (vs ++ qs.filterMap Request.view?) := by
  induction qs generalizing r vs with
  | nil => simpa [Registry.serveAll] using holds
  | cons q qs ih =>
    have later := ih (holds.serve q).2
    rw [List.append_assoc] at later
    cases built : q.view? with
    | none => simpa [Registry.serveAll, built] using later
    | some v => simpa [Registry.serveAll, built] using later

theorem serveAll_append (r : Registry) (qs qs' : List Request) :
    r.serveAll (qs ++ qs') =
      ((r.serveAll qs).1 ++ ((r.serveAll qs).2.serveAll qs').1,
        ((r.serveAll qs).2.serveAll qs').2) := by
  induction qs generalizing r with
  | nil => rfl
  | cons q qs ih => simp [Registry.serveAll, ih]

theorem length_serveAll (r : Registry) (qs : List Request) :
    (r.serveAll qs).1.length = qs.length := by
  induction qs generalizing r with
  | nil => rfl
  | cons q qs ih => simp [Registry.serveAll, ih]

theorem serve_refused {e : ViewError} (refused : (r.serve (.register d)).1 = .refused e) :
    r.serve (.register d) = (.refused e, r) := by
  simp only [Registry.serve] at refused ⊢
  cases added : r.addDeclaration d with
  | ok r' => simp [added] at refused
  | error e' => simpa [added] using refused

end holds

section declarations

theorem name_of_ofDeclaration {d : Declaration} {v : View} (built : View.ofDeclaration d = .ok v) :
    v.name = d.name := by
  unfold View.ofDeclaration at built
  split at built
  · cases built
  · split at built
    · cases built
    · obtain rfl := Except.ok.inj built
      rfl

structure Registrable (vs : List View) (ds : List Declaration) : Prop where
  built : ∀ d ∈ ds, ∃ v, View.ofDeclaration d = .ok v
  fresh : ∀ d ∈ ds, d.name ∉ vs.map View.name
  nodup : (ds.map Declaration.name).Nodup

theorem registrable_cons {vs : List View} {v : View} {d : Declaration} {ds : List Declaration}
    (built : View.ofDeclaration d = .ok v) :
    Registrable vs (d :: ds) ↔ v.name ∉ vs.map View.name ∧ Registrable (vs ++ [v]) ds := by
  rw [name_of_ofDeclaration built]
  constructor
  · intro all
    obtain ⟨unshared, nodup⟩ := List.nodup_cons.1 all.nodup
    obtain ⟨first, others⟩ := List.forall_mem_cons.1 all.fresh
    refine ⟨first, (List.forall_mem_cons.1 all.built).2, fun e member => ?_, nodup⟩
    have apart : e.name ≠ d.name := fun same => unshared (same ▸ List.mem_map_of_mem member)
    simpa [name_of_ofDeclaration built, apart] using others e member
  · rintro ⟨first, others⟩
    have apart : ∀ e ∈ ds, e.name ∉ vs.map View.name ∧ e.name ≠ d.name := fun e member => by
      have free := others.fresh e member
      rw [List.map_append, List.mem_append, not_or] at free
      exact ⟨free.1, by simpa [name_of_ofDeclaration built] using free.2⟩
    refine ⟨List.forall_mem_cons.2 ⟨⟨v, built⟩, others.built⟩,
      List.forall_mem_cons.2 ⟨first, fun e member => (apart e member).1⟩,
      List.nodup_cons.2 ⟨fun shared => ?_, others.nodup⟩⟩
    obtain ⟨e, member, same⟩ := List.mem_map.1 shared
    exact (apart e member).2 same

theorem Holds.addDeclarations {r r' : Registry} {vs : List View} (holds : r.Holds vs)
    (ds : List Declaration) :
    ds.foldlM addDeclaration r = .ok r' ↔
      Registrable vs ds ∧ (r.serveAll (ds.map .register)).2 = r' := by
  induction ds generalizing r vs with
  | nil =>
    have none : Registrable vs [] := ⟨by simp, by simp, List.nodup_nil⟩
    simp [Registry.serveAll, pure, Except.pure, none]
  | cons d ds ih =>
    rw [List.foldlM_cons, List.map_cons, Registry.serveAll, Registry.serve, addDeclaration]
    cases built : View.ofDeclaration d with
    | error e =>
      have refused : ¬ Registrable vs (d :: ds) := fun all => by
        simpa [built] using all.built d List.mem_cons_self
      simp [bind, Except.bind, refused]
    | ok v =>
      rw [registrable_cons built]
      by_cases known : v.name ∈ vs.map View.name
      · simp [bind, Except.bind, (holds.register_known known).1, known]
      · obtain ⟨next, registered, holds⟩ := holds.register_fresh known
        simp only [registered, known, not_false_eq_true, true_and]
        exact ih holds

end declarations

/-- Each request of a run is answered by the first views of each name that were built before it, and
these are what the registry holds at the end. A refused registration is as if it had not been made.
Declarations are registered together exactly if all of them can be built and no two share a name,
and then as one after the other. -/
theorem serves_first_views :
    (∀ before q after,
      (empty.serveAll (before ++ q :: after)).1[before.length]? =
        some (q.replyAfter (before.filterMap Request.view?))) ∧
    (∀ qs, (empty.serveAll qs).2.views = firsts (qs.filterMap Request.view?)) ∧
    (∀ vs, (firsts vs).Sublist vs ∧ ((firsts vs).map View.name).Nodup ∧
      ∀ v, v ∈ firsts vs ↔ named? vs v.name = some v) ∧
    (∀ before d after e,
      Request.replyAfter (before.filterMap Request.view?) (.register d) = .refused e →
      ∃ replies replies' r, replies.length = before.length ∧
        empty.serveAll (before ++ .register d :: after) = (replies ++ .refused e :: replies', r) ∧
        empty.serveAll (before ++ after) = (replies ++ replies', r)) ∧
    ∀ ds r, ofDeclarations ds = .ok r ↔
      ((∀ d ∈ ds, ∃ v, View.ofDeclaration d = .ok v) ∧ (ds.map Declaration.name).Nodup) ∧
      (empty.serveAll (ds.map .register)).2 = r := by
  refine ⟨fun before q after => ?_, fun qs => (holds_empty.serveAll qs).views,
    fun vs => ⟨firsts_sublist vs, nodup_firsts vs, fun _ => mem_firsts⟩,
    fun before d after e refused => ?_, fun ds r => ?_⟩
  · have state := holds_empty.serveAll before
    have length := length_serveAll empty before
    rw [serveAll_append, List.getElem?_append_right (Nat.le_of_eq length), length, Nat.sub_self]
    exact congrArg some (state.serve q).1
  · have state := holds_empty.serveAll before
    have reply := serve_refused ((state.serve (.register d)).1.trans refused)
    refine ⟨_, _, _, length_serveAll empty before, ?_, serveAll_append empty before after⟩
    rw [serveAll_append, serveAll, reply]
  · rw [ofDeclarations, holds_empty.addDeclarations]
    refine and_congr_left fun _ => ⟨fun all => ⟨all.built, all.nodup⟩, fun all => ?_⟩
    exact ⟨all.1, by simp, all.2⟩

example :
    let cities : Declaration := ⟨"Cities", "Towns", [], []⟩
    let again : Declaration := ⟨"Cities", "Villages", [], []⟩
    (empty.serveAll [.register cities, .register again, .list, .size]).1 =
      [.registered, .refused (.viewRepeated "Cities"), .listed [("Cities", "Towns")],
        .counted 1] := rfl

end Registry

end ViewQuery
