import ViewQuery.Program
import ViewQuery.Proofs.Scoring.Grouping
import ViewQuery.Proofs.Scoring.Scheduling

set_option autoImplicit false

namespace ViewQuery

namespace Counts

instance : AddCommMonoid Counts where
  zero_add c := by simp [Counts.add, show (0 : Counts) = Counts.zero from rfl, Counts.zero]
  add_zero c := by simp [Counts.add, show (0 : Counts) = Counts.zero from rfl, Counts.zero]
  add_assoc := Counts.add_assoc
  add_comm := Counts.add_comm
  nsmul := nsmulRec

end Counts

namespace Validator

variable (v : Validator) (view : View)

end Validator

namespace Registry

variable {r : Registry} {v : Validator} {limit : Nat} {default : Option String}

section groups

variable {scored ev : Evaluation} {g : String × List Example} {groups : List (String × List Example)}

end groups

section evaluate

variable {es fs : List Example} {ev : Evaluation}

example :
    let foo : Operation := ⟨"foo", [⟨"n", .int, none⟩], ""⟩
    let es : List Example :=
      [{ Example.blank with view := some "Towns", filters := "foo(1)" },
        { Example.blank with filters := "foo(2)" }, { Example.blank with view := some "Towns" }]
    ((ofDeclarations [⟨"Towns", "", [], []⟩, ⟨"Cities", "", [foo], []⟩]).toOption.bind fun r =>
        (r.evaluate .default 4 (some "Cities") es).toOption) =
      some ⟨[("Cities", ⟨1, 1, 0, 0, 1, 0, 0⟩), ("Towns", ⟨2, 1, 0, 1, 1, 0, 0⟩)],
        ⟨3, 2, 0, 1, 2, 0, 0⟩⟩ := by
  decide +kernel

end evaluate

end Registry

namespace Program

section evaluate

variable {s : Setup} {d : Directory} {path path' : String} {default output : Option String}
  {contents contents' : Octets} {es fs : List Example}

end evaluate

end Program

end ViewQuery
