import ViewQuery.Generation
import ViewQuery.Proofs.Validation.FirstFault

set_option autoImplicit false

namespace ViewQuery

namespace Chat

-- Requests are counted from 0.
def answer (c : Chat) (i : Nat) : Except ChatError String :=
  c.answers.getD i (.error .emptyResponse)

theorem ask_fst (c : Chat) (messages : List Message) : (c.ask messages).1 = c.answer 0 := by
  rcases c with ⟨_ | ⟨_, _⟩, asked⟩ <;> rfl

theorem ask_answers (c : Chat) (messages : List Message) :
    (c.ask messages).2.answers = c.answers.tail := by
  rcases c with ⟨_ | ⟨_, _⟩, asked⟩ <;> rfl

theorem ask_requests (c : Chat) (messages : List Message) :
    (c.ask messages).2.requests = c.requests ++ [messages] := by
  rcases c with ⟨_ | ⟨_, _⟩, asked⟩ <;> simp [ask, requests]

theorem ask_answer (c : Chat) (messages : List Message) (i : Nat) :
    (c.ask messages).2.answer i = c.answer (i + 1) := by
  rw [answer, ask_answers, answer]
  cases c.answers <;> rfl

end Chat

namespace Validator

variable {v : Validator} {view : View} {reply : String} {d : Draft} {fault : ReplyFault}

inductive Refuses (v : Validator) (view : View) (reply : String) : Draft → ReplyFault → Prop
  | unreadable {e : Json.Error} (unread : Draft.ofReply reply = .error e) :
      Refuses v view reply .blank (.unreadable e)
  | rejected {d : Draft} {e : QueryError} (read : Draft.ofReply reply = .ok d)
      (fails : v.checkQuery d.filters d.actions view = .error (.error e)) :
      Refuses v view reply d (.rejected e)

-- The `n`-th answer, of at most `limit`, ends a generation with the result.
inductive Ends (v : Validator) (view : View) (limit n : Nat) :
    Except ChatError String → Except (Stop ChatError) Generation → Prop
  | failed (e : ChatError) : Ends v view limit n (.error e) (.error (.error e))
  | accepted {reply : String} {d : Draft} {q : CheckedQuery} (read : Draft.ofReply reply = .ok d)
      (passes : v.checkQuery d.filters d.actions view = .ok q) :
      Ends v view limit n (.ok reply) (.ok ⟨d, n, none⟩)
  | exhausted {reply : String} {d : Draft} {fault : ReplyFault} (last : n = limit)
      (refused : v.Refuses view reply d fault) :
      Ends v view limit n (.ok reply) (.ok ⟨d, n, some fault⟩)

theorem refuses_of_verdict (faulty : v.verdict view reply = .faulty d fault) :
    v.Refuses view reply d fault := by
  unfold verdict at faulty
  split at faulty
  next e unread =>
    cases faulty
    exact .unreadable unread
  next draft read =>
    split at faulty
    · cases faulty
    next e fails =>
      cases faulty
      exact .rejected read fails
    · cases faulty

theorem passes_of_verdict (accepted : v.verdict view reply = .accepted d) :
    Draft.ofReply reply = .ok d ∧ ∃ q, v.checkQuery d.filters d.actions view = .ok q := by
  unfold verdict at accepted
  split at accepted
  · cases accepted
  next draft read =>
    split at accepted
    next q passes =>
      cases accepted
      exact ⟨read, q, passes⟩
    · cases accepted
    · cases accepted

theorem NeverCrashes.verdict_ne (never : v.NeverCrashes) (view : View) (reply : String) :
    v.verdict view reply ≠ .crash := by
  intro crashed
  unfold verdict at crashed
  split at crashed
  · cases crashed
  · split at crashed
    · cases crashed
    · cases crashed
    next crashes => exact never.checkQuery_ne _ _ view crashes

theorem attempt_outcomes (view : View) (left sofar : Nat) (messages : List Message) (chat : Chat) :
    (∃ result, v.attempt view left sofar messages chat = (result, (chat.ask messages).2) ∧
      ((∃ reply, v.verdict view reply = .crash) ∨
        v.Ends view (sofar + left + 1) (sofar + 1) (chat.answer 0) result)) ∨
    ∃ left' reply d fault, left = left' + 1 ∧ chat.answer 0 = .ok reply ∧
      v.Refuses view reply d fault ∧
      v.attempt view left sofar messages chat =
        v.attempt view left' (sofar + 1)
          (messages ++ [⟨.assistant, reply⟩, ⟨.user, fault.feedback⟩]) (chat.ask messages).2 := by
  rw [← chat.ask_fst messages]
  rcases asked : chat.ask messages with ⟨e | reply, chat'⟩
  · exact .inl ⟨_, by rw [attempt, asked], .inr (.failed e)⟩
  · cases verdict : v.verdict view reply with
    | crash =>
      exact .inl
        ⟨.error .crash, by rw [attempt, asked]; simp only [verdict], .inl ⟨reply, verdict⟩⟩
    | accepted d =>
      obtain ⟨read, q, passes⟩ := passes_of_verdict verdict
      exact .inl ⟨_, by rw [attempt, asked]; simp only [verdict], .inr (.accepted read passes)⟩
    | faulty d fault =>
      have refused := refuses_of_verdict verdict
      cases left with
      | zero =>
        exact .inl
          ⟨_, by rw [attempt, asked]; simp only [verdict], .inr (.exhausted rfl refused)⟩
      | succ left =>
        refine .inr ⟨left, reply, d, fault, rfl, rfl, refused, ?_⟩
        rw [attempt, asked]
        simp only [verdict]

theorem attempt_cases (never : v.NeverCrashes) (view : View) (left sofar : Nat)
    (messages : List Message) (chat : Chat) :
    (∃ result, v.attempt view left sofar messages chat = (result, (chat.ask messages).2) ∧
      v.Ends view (sofar + left + 1) (sofar + 1) (chat.answer 0) result) ∨
    ∃ left' reply d fault, left = left' + 1 ∧ chat.answer 0 = .ok reply ∧
      v.Refuses view reply d fault ∧
      v.attempt view left sofar messages chat =
        v.attempt view left' (sofar + 1)
          (messages ++ [⟨.assistant, reply⟩, ⟨.user, fault.feedback⟩]) (chat.ask messages).2 := by
  rcases attempt_outcomes view left sofar messages chat with
    ⟨result, same, ⟨reply, crash⟩ | ends⟩ | another
  · exact absurd crash (never.verdict_ne view reply)
  · exact .inl ⟨result, same, ends⟩
  · exact .inr another

theorem attempt_ends_at (never : v.NeverCrashes) (view : View) (left sofar : Nat)
    (messages : List Message) (chat : Chat) :
    ∃ n ≤ left,
      (∀ i < n, ∃ reply d fault, chat.answer i = .ok reply ∧ v.Refuses view reply d fault) ∧
      v.Ends view (sofar + left + 1) (sofar + n + 1) (chat.answer n)
        (v.attempt view left sofar messages chat).1 ∧
      (v.attempt view left sofar messages chat).2.answers = chat.answers.drop (n + 1) ∧
      ∃ conversations, conversations.length = n + 1 ∧
        (v.attempt view left sofar messages chat).2.requests = chat.requests ++ conversations := by
  induction left using Nat.strongRecOn generalizing sofar messages chat with
  | ind left ih =>
    rcases attempt_cases never view left sofar messages chat with
      ⟨result, same, ends⟩ | ⟨left, reply, d, fault, rfl, first, refused, same⟩
    · refine ⟨0, Nat.zero_le left, by simp, by rwa [same], ?_, [messages], rfl, ?_⟩
      · rw [same, chat.ask_answers, List.drop_one]
      · rw [same, chat.ask_requests]
    · -- What is left of the run is a run of its own, on the answers after the first.
      obtain ⟨n, bound, before, ends, rest, conversations, calls, requests⟩ :=
        ih left (Nat.lt_succ_self left) (sofar + 1)
          (messages ++ [⟨.assistant, reply⟩, ⟨.user, fault.feedback⟩]) (chat.ask messages).2
      refine ⟨n + 1, by omega, ?_, ?_, ?_, messages :: conversations, by simp [calls], ?_⟩
      · rintro (_ | i) earlier
        · exact ⟨reply, d, fault, first, refused⟩
        · rw [← chat.ask_answer messages]
          exact before i (by omega)
      · rw [same, ← chat.ask_answer messages]
        convert ends using 1 <;> omega
      · rw [same, rest, chat.ask_answers, List.drop_tail]
      · rw [same, requests, chat.ask_requests, List.append_assoc, List.singleton_append]

theorem Ends.accepted_passes {limit n : Nat} {answer : Except ChatError String} {g : Generation}
    (ends : v.Ends view limit n answer (.ok g)) (accepted : g.fault = none) :
    ∃ q, v.checkQuery g.draft.filters g.draft.actions view = .ok q := by
  cases ends with
  | accepted read passes => exact ⟨_, passes⟩
  | exhausted last refused => cases accepted

theorem Ends.attempts_eq {limit n : Nat} {answer : Except ChatError String} {g : Generation}
    (ends : v.Ends view limit n answer (.ok g)) : g.attempts = n := by
  cases ends <;> rfl

/-- The model is asked until it fails, or a reply passes, or the attempts are spent, of which there
is at least one; all replies before were refused, and the answers behind are left. -/
theorem generate_ends_at (never : v.NeverCrashes) (view : View) (attempts : Nat) (question : String)
    (chat : Chat) :
    let limit := max 1 attempts
    let result := (v.generate view attempts question chat).1
    let after := (v.generate view attempts question chat).2
    ∃ n < limit,
      (∀ i < n, ∃ reply d fault, chat.answer i = .ok reply ∧ v.Refuses view reply d fault) ∧
      v.Ends view limit (n + 1) (chat.answer n) result ∧
      after.answers = chat.answers.drop (n + 1) ∧
      (∃ conversations, conversations.length = n + 1 ∧
        after.requests = chat.requests ++ conversations) ∧
      ∀ g, result = .ok g → g.attempts = n + 1 ∧
        (g.fault = none → ∃ q, v.checkQuery g.draft.filters g.draft.actions view = .ok q) := by
  intro limit result after
  obtain ⟨n, bound, before, ends, rest, calls⟩ :=
    attempt_ends_at never view (attempts - 1) 0
      [⟨.system, view.instructions⟩, ⟨.user, question⟩] chat
  have most : 0 + (attempts - 1) + 1 = limit := by omega
  rw [most, Nat.zero_add] at ends
  refine ⟨n, by omega, before, ends, rest, calls, fun g ended => ?_⟩
  have ends : v.Ends view limit (n + 1) (chat.answer n) (.ok g) := ended ▸ ends
  exact ⟨ends.attempts_eq, ends.accepted_passes⟩

theorem generate_ends_at_third :
    let trip : Operation := ⟨"trip", [⟨"start", .str, some "city"⟩], ""⟩
    let view : View := ⟨"Trips", "", ⟨[trip], by decide, by decide⟩, ⟨[], by decide, by decide⟩⟩
    let v := Validator.default.withResolver "city" fun raw => .answers 0 (.found raw)
    let chat : Chat :=
      .ofReplies
        ["not json", "\x7b\"filters\": \"ghost()\"\x7d",
          "\x7b\"filters\": \"trip('Oslo')\"\x7d", "not json"]
    v.NeverCrashes ∧
      (v.generate view 5 "Trips from Oslo" chat).1 = .ok ⟨⟨"trip('Oslo')", ""⟩, 3, none⟩ ∧
      (v.generate view 5 "Trips from Oslo" chat).2.answers = chat.answers.drop 3 ∧
      ∃ q, v.checkQuery "trip('Oslo')" "" view = .ok q := by
  intro trip view v chat
  have never : v.NeverCrashes := by
    intro r member raw
    obtain rfl := List.mem_singleton.1 member
    simp
  have ended : (v.generate view 5 "Trips from Oslo" chat).1 =
      .ok ⟨⟨"trip('Oslo')", ""⟩, 3, none⟩ := by
    decide +kernel
  obtain ⟨n, -, -, -, rest, -, ok⟩ := generate_ends_at never view 5 "Trips from Oslo" chat
  obtain ⟨third, passes⟩ := ok _ ended
  obtain rfl : n = 2 := by simpa using third.symm
  exact ⟨never, ended, rest, passes rfl⟩

end Validator

end ViewQuery
