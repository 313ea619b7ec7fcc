import ViewQuery.Proofs.Json.Calls
import ViewQuery.Proofs.Text.Utf8
import ViewQuery.Validation

set_option autoImplicit false

namespace ViewQuery

open Decimal

def SameCalls (cs ds : List CheckedCall) : Prop :=
  List.Forall₂ (fun c d => c.name = d.name ∧ c.args = d.args) cs ds

theorem sameCalls_iff {cs ds : List CheckedCall} :
    SameCalls cs ds ↔ cs.map CheckedCall.call = ds.map CheckedCall.call := by
  have call (c d : CheckedCall) : (c.name = d.name ∧ c.args = d.args) ↔ c.call = d.call :=
    Call.mk.injEq .. ▸ Iff.rfl
  simp only [SameCalls, call]
  rw [← List.forall₂_eq_eq_eq, List.forall₂_map_left_iff, List.forall₂_map_right_iff]

namespace CheckedQuery

variable {q q' : CheckedQuery}

def IsFinite (q : CheckedQuery) : Prop := ∀ c ∈ q.filters ++ q.actions, c.call.IsFinite

def octets (q : CheckedQuery) : List UInt8 := q.toJson.compact.toUTF8.toList

theorem finite_toJson (finite : q.IsFinite) : q.toJson.Finite := by
  obtain ⟨filters, actions⟩ := List.forall_mem_append.1 finite
  have finiteCalls {cs : List CheckedCall} (finite : ∀ c ∈ cs, c.call.IsFinite) :
      (Json.arr (cs.map fun c => c.call.toJson)).Finite :=
    .arr (List.forall_mem_map.2 fun c member => Call.finite_toJson (finite c member))
  refine .obj (List.forall_mem_cons.2 ⟨finiteCalls filters, ?_⟩)
  exact List.forall_mem_singleton.2 (finiteCalls actions)

theorem toJson_inj : q.toJson = q'.toJson ↔
    SameCalls q.filters q'.filters ∧ SameCalls q.actions q'.actions := by
  have injective : Function.Injective Call.toJson := fun _ _ => Call.toJson_inj.1
  have calls (cs ds : List CheckedCall) :
      (cs.map fun c => c.call.toJson) = (ds.map fun c => c.call.toJson) ↔ SameCalls cs ds := by
    rw [sameCalls_iff, ← (List.map_injective_iff.2 injective).eq_iff, List.map_map, List.map_map]
    rfl
  simp only [toJson, Json.obj.injEq, List.cons.injEq, Prod.mk.injEq, true_and, and_true,
    Json.arr.injEq, calls]

/-- Canonical texts are the same only for the same calls, and so are fingerprints unless two
different texts have one digest. -/
theorem fingerprint_separates (finite : q.IsFinite) (finite' : q'.IsFinite) :
    let same := SameCalls q.filters q'.filters ∧ SameCalls q.actions q'.actions
    let collide := q.octets ≠ q'.octets ∧ Text.Digest.sha256 q.octets = Text.Digest.sha256 q'.octets
    (q.toJson.compact = q'.toJson.compact ↔ same) ∧
      (q.fingerprint = q'.fingerprint ↔ same ∨ collide) := by
  intro same collide
  have texts : q.toJson.compact = q'.toJson.compact ↔ same := by
    rw [Json.compact_inj (finite_toJson finite) (finite_toJson finite'), toJson_inj]
  have octets : q.octets = q'.octets ↔ same := Text.toUTF8_toList_inj.trans texts
  refine ⟨texts, fun digest => ?_, ?_⟩
  · by_cases holds : same
    · exact .inl holds
    · exact .inr ⟨fun equal => holds (octets.1 equal), digest⟩
  · rintro (holds | ⟨-, digest⟩)
    · exact congrArg Text.Digest.sha256 (octets.2 holds)
    · exact digest

-- The integer 1 and the float 1.0, and a truth value and its name.
theorem fingerprint_separates_kinds :
    let call (name : String) (l : Literal) : CheckedCall := ⟨⟨name, [⟨"x", l.type, none⟩], ""⟩, [l]⟩
    let q : CheckedQuery := ⟨[call "near" (.int 1)], [call "show" (.bool true)]⟩
    let q' : CheckedQuery := ⟨[call "near" (.float 1.0)], [call "show" (.str "true")]⟩
    q.IsFinite ∧ q'.IsFinite ∧ q.toJson.compact ≠ q'.toJson.compact ∧
      (q.fingerprint = q'.fingerprint →
        q.octets ≠ q'.octets ∧ Text.Digest.sha256 q.octets = Text.Digest.sha256 q'.octets) := by
  intro call q q'
  have one : (ofFloat 1.0).isFinite := by decide +kernel
  have finite : q.IsFinite := by simp [q, call, IsFinite, Call.IsFinite, CheckedCall.call]
  have finite' : q'.IsFinite := by simp [q', call, IsFinite, Call.IsFinite, CheckedCall.call, one]
  have apart : ¬ (SameCalls q.filters q'.filters ∧ SameCalls q.actions q'.actions) := by
    rintro ⟨filters, -⟩
    cases (List.forall₂_cons.1 filters).1.2
  obtain ⟨texts, digests⟩ := fingerprint_separates finite finite'
  exact ⟨finite, finite', fun same => apart (texts.1 same), fun same =>
    (digests.1 same).resolve_left apart⟩

end CheckedQuery

end ViewQuery
