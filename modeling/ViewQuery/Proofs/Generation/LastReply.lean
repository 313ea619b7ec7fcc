import ViewQuery.Program
import ViewQuery.Proofs.Validation.Dispatch

set_option autoImplicit false

namespace ViewQuery

-- A reply that cannot be read leaves a blank draft, and that passes.
inductive Verdict.Ends : Verdict → Generation → Prop
  | accepted (d : Draft) (n : Nat) : Ends (.accepted d) ⟨d, n, none⟩
  | faulty (d : Draft) (fault : ReplyFault) (n : Nat) : Ends (.faulty d fault) ⟨d, n, some fault⟩

def Generation.rejection? (g : Generation) : Option QueryError :=
  match g.fault with
  | some (.rejected e) => some e
  | _ => none

namespace Validator

variable {v : Validator} {view : View} {g : Generation} {left sofar : Nat}
  {messages : List Message} {chat : Chat}

theorem attempt_step (ended : (v.attempt view left sofar messages chat).1 = .ok g) :
    (∃ reply, (v.verdict view reply).Ends g) ∨
      ∃ left' messages' chat', left = left' + 1 ∧
        (v.attempt view left' (sofar + 1) messages' chat').1 = .ok g := by
  unfold attempt at ended
  split at ended
  · cases ended
  next reply chat' _ =>
    split at ended
    · cases ended
    next d accepted =>
      obtain rfl := Except.ok.inj ended
      exact .inl ⟨reply, accepted ▸ .accepted d (sofar + 1)⟩
    next d fault faulty =>
      cases left with
      | zero =>
        obtain rfl := Except.ok.inj ended
        exact .inl ⟨reply, faulty ▸ .faulty d fault (sofar + 1)⟩
      | succ left => exact .inr ⟨left, _, chat', rfl, ended⟩

theorem attempt_ends (ended : (v.attempt view left sofar messages chat).1 = .ok g) :
    ∃ reply, (v.verdict view reply).Ends g := by
  induction left generalizing sofar messages chat with
  | zero =>
    rcases attempt_step ended with last | ⟨left, _, _, more, -⟩
    · exact last
    · cases more
  | succ left ih =>
    rcases attempt_step ended with last | ⟨left', _, _, more, ended⟩
    · exact last
    · obtain rfl : left = left' := Nat.succ.inj more
      exact ih ended

theorem checkQuery_blank (v : Validator) (view : View) : v.checkQuery "" "" view = .ok .empty := rfl

theorem checkQuery_of_ends {reply : String} (ends : (v.verdict view reply).Ends g) :
    (∃ checked, v.checkQuery g.draft.filters g.draft.actions view = .ok checked ∧
      g.rejection? = none) ∨
    ∃ e, v.checkQuery g.draft.filters g.draft.actions view = .error (.error e) ∧
      g.rejection? = some e := by
  unfold verdict at ends
  split at ends
  · cases ends
    exact .inl ⟨.empty, v.checkQuery_blank view, rfl⟩
  next d _ =>
    split at ends
    next checked passes =>
      cases ends
      exact .inl ⟨checked, passes, rfl⟩
    next e fails =>
      cases ends
      exact .inr ⟨e, fails, rfl⟩
    · cases ends

theorem score_of_ends {reply : String} (ends : (v.verdict view reply).Ends g) (e : Example) :
    ∃ counts, v.score? view (Program.generated view e g) = some counts ∧
      counts.valid = (if g.rejection?.isSome then 0 else 1) ∧
      counts.syntaxErrors = g.rejection?.elim 0 fun error => error.kind.isSyntax.toNat := by
  rcases checkQuery_of_ends ends with ⟨checked, passes, accepted⟩ | ⟨error, fails, rejected⟩
  · refine ⟨_, by rw [score?, Program.generated, passes], ?_, ?_⟩
    · simp [accepted]
    · simp [accepted]
  · refine ⟨_, by rw [score?, Program.generated, fails], ?_, ?_⟩
    · simp [rejected]
    · simp [rejected]

/-- The example made from a generation counts as valid unless its last draft was rejected. -/
theorem score_of_generate {attempts : Nat} {question : String}
    (ended : (v.generate view attempts question chat).1 = .ok g) (e : Example) :
    ∃ counts, v.score? view (Program.generated view e g) = some counts ∧
      counts.valid = (if g.rejection?.isSome then 0 else 1) ∧
      counts.syntaxErrors = g.rejection?.elim 0 fun error => error.kind.isSyntax.toNat := by
  obtain ⟨reply, ends⟩ := attempt_ends ended
  exact score_of_ends ends e

theorem score_of_generate_unreadable :
    let cities : View := ⟨"Cities", "", ⟨[], by decide, by decide⟩, ⟨[], by decide, by decide⟩⟩
    ∃ error, (Validator.default.generate cities 1 "Rows from Paris" (.ofReplies ["not json"])).1 =
        .ok ⟨.blank, 1, some (.unreadable error)⟩ ∧
      ∃ counts, Validator.default.score? cities
          (Program.generated cities .blank ⟨.blank, 1, some (.unreadable error)⟩) = some counts ∧
        counts.valid = 1 := by
  intro cities
  have ended : (Validator.default.generate cities 1 "Rows from Paris" (.ofReplies ["not json"])).1 =
      .ok ⟨.blank, 1, some (.unreadable _)⟩ := rfl
  obtain ⟨counts, score, valid, -⟩ := score_of_generate ended .blank
  exact ⟨_, ended, counts, score, valid⟩

end Validator

namespace Program

theorem score_of_generateAll {s : Setup} {fixed : Option View} {chat : Chat}
    {es generations : List Example} (ended : generateAll s fixed chat es = .ok generations) :
    ∀ e' ∈ generations, ∃ e ∈ es, ∃ view question asked g, e.question = some question ∧
      (s.validator.generate view s.settings.model.attempts question asked).1 = .ok g ∧
      e' = generated view e g ∧ ∃ counts, s.validator.score? view e' = some counts ∧
        counts.valid = (if g.rejection?.isSome then 0 else 1) := by
  induction es generalizing chat generations with
  | nil =>
    obtain rfl := Except.ok.inj ended
    intro e' member
    cases member
  | cons e es ih =>
    rw [generateAll] at ended
    split at ended
    · intro e' member
      obtain ⟨e₁, isExample, found⟩ := ih ended e' member
      exact ⟨e₁, List.mem_cons_of_mem e isExample, found⟩
    next question asks =>
      split at ended
      · cases ended
      next view asked _ =>
        split at ended
        · cases ended
        next g chat' generates =>
          obtain ⟨rest, others, rfl⟩ := map_eq_ok_iff.1 ended
          refine List.forall_mem_cons.2 ⟨?_, fun e' member => ?_⟩
          · have ok : (s.validator.generate view s.settings.model.attempts question asked).1 =
                .ok g := by rw [generates]
            obtain ⟨reply, ends⟩ := Validator.attempt_ends ok
            obtain ⟨counts, score, valid, -⟩ := Validator.score_of_ends ends e
            exact ⟨e, by simp, view, question, asked, g, asks, ok, rfl, counts, score, valid⟩
          · obtain ⟨e₁, isExample, found⟩ := ih others e' member
            exact ⟨e₁, List.mem_cons_of_mem e isExample, found⟩

end Program

end ViewQuery
