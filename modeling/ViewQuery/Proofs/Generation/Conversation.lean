import ViewQuery.Proofs.Generation.Attempts

set_option autoImplicit false

namespace ViewQuery

def ReplyFault.errorText : ReplyFault → String
  | .unreadable e => e.message
  | .rejected e => e.message ++ " (" ++ e.kind.name ++ ")"

theorem ReplyFault.errorText_infix_feedback (fault : ReplyFault) :
    fault.errorText.toList <:+: fault.feedback.toList := by
  have inside (front text back : String) : text.toList <:+: (front ++ text ++ back).toList := by
    rw [String.toList_append, String.toList_append]
    exact List.infix_append _ _ _
  cases fault with
  | unreadable e => exact inside _ _ _
  | rejected e =>
    have regroup (a m b k c d : String) :
        a ++ m ++ b ++ k ++ (c ++ d) = a ++ (m ++ b ++ k ++ c) ++ d := by
      simp only [String.append_assoc]
    have closing : "). Please fix the IQL and reply again." =
        ")" ++ ". Please fix the IQL and reply again." := by decide +kernel
    have parts : (rejected e).feedback =
        "Error: " ++ (rejected e).errorText ++ ". Please fix the IQL and reply again." :=
      (congrArg (fun rest => "Error: " ++ e.message ++ " (" ++ e.kind.name ++ rest) closing).trans
        (regroup _ _ _ _ _ _)
    exact parts ▸ inside _ _ _

structure Exchange where
  reply : String
  draft : Draft
  fault : ReplyFault

namespace Exchange

def messages (t : Exchange) : List Message := [⟨.assistant, t.reply⟩, ⟨.user, t.fault.feedback⟩]

theorem length_flatMap_messages (exchanges : List Exchange) :
    (exchanges.flatMap messages).length = 2 * exchanges.length := by
  simp [List.length_flatMap, messages, Nat.mul_comm]

theorem flatMap_messages_getElem? {exchanges : List Exchange} {j : Nat} {t : Exchange}
    (isExchange : exchanges[j]? = some t) :
    (exchanges.flatMap messages)[2 * j]? = some ⟨.assistant, t.reply⟩ ∧
      (exchanges.flatMap messages)[2 * j + 1]? = some ⟨.user, t.fault.feedback⟩ := by
  induction exchanges generalizing j with
  | nil => simp at isExchange
  | cons u exchanges ih =>
    cases j with
    | zero =>
      obtain rfl : u = t := by simpa using isExchange
      exact ⟨rfl, rfl⟩
    | succ j =>
      have earlier := ih (by simpa using isExchange)
      simpa [messages, Nat.mul_succ] using earlier

-- The opening, and each conversation that grows out of it by one exchange after the other.
def conversations (opening : List Message) (exchanges : List Exchange) : List (List Message) :=
  exchanges.inits.map fun before => opening ++ before.flatMap messages

theorem conversations_nil (opening : List Message) : conversations opening [] = [opening] := by
  simp [conversations]

theorem conversations_cons (opening : List Message) (t : Exchange) (exchanges : List Exchange) :
    conversations opening (t :: exchanges) =
      opening :: conversations (opening ++ t.messages) exchanges := by
  simp [conversations]

theorem length_conversations (opening : List Message) (exchanges : List Exchange) :
    (conversations opening exchanges).length = exchanges.length + 1 := by
  simp [conversations]

theorem eq_of_getElem?_conversations {opening : List Message} {exchanges : List Exchange} {k : Nat}
    {request : List Message} (isRequest : (conversations opening exchanges)[k]? = some request) :
    k ≤ exchanges.length ∧ request = opening ++ (exchanges.take k).flatMap messages := by
  obtain ⟨within, eq⟩ := List.getElem?_eq_some_iff.1 isRequest
  rw [length_conversations] at within
  simp only [conversations, List.getElem_map, List.getElem_inits] at eq
  exact ⟨Nat.le_of_lt_succ within, eq.symm⟩

end Exchange

namespace Validator

variable {v : Validator} {view : View}

def Answers (v : Validator) (view : View) (chat : Chat) (j : Nat) (t : Exchange) : Prop :=
  chat.answer j = .ok t.reply ∧ v.Refuses view t.reply t.draft t.fault

theorem attempt_exchange (view : View) (left sofar : Nat) (messages : List Message) (chat : Chat) :
    (v.attempt view left sofar messages chat).2 = (chat.ask messages).2 ∨
    ∃ left' t, left = left' + 1 ∧ v.Answers view chat 0 t ∧
      v.attempt view left sofar messages chat =
        v.attempt view left' (sofar + 1) (messages ++ t.messages) (chat.ask messages).2 := by
  rcases attempt_outcomes view left sofar messages chat with
    ⟨result, same, -⟩ | ⟨left', reply, d, fault, more, first, refused, same⟩
  · exact .inl (by rw [same])
  · exact .inr ⟨left', ⟨reply, d, fault⟩, more, ⟨first, refused⟩, same⟩

theorem attempt_conversations (view : View) (left sofar : Nat) (messages : List Message)
    (chat : Chat) :
    ∃ exchanges : List Exchange, exchanges.length ≤ left ∧
      (∀ j t, exchanges[j]? = some t → v.Answers view chat j t) ∧
      (v.attempt view left sofar messages chat).2.requests =
        chat.requests ++ Exchange.conversations messages exchanges := by
  induction left using Nat.strongRecOn generalizing sofar messages chat with
  | ind left ih =>
    rcases attempt_exchange view left sofar messages chat with same | ⟨left, t, rfl, first, same⟩
    · refine ⟨[], Nat.zero_le left, by simp, ?_⟩
      rw [same, chat.ask_requests, Exchange.conversations_nil]
    · -- The run that is left starts from a conversation that holds the first exchange.
      obtain ⟨exchanges, bound, answers, requests⟩ :=
        ih left (Nat.lt_succ_self left) (sofar + 1) (messages ++ t.messages) (chat.ask messages).2
      refine ⟨t :: exchanges, Nat.succ_le_succ bound, ?_, ?_⟩
      · rintro (_ | j) u isExchange
        · obtain rfl : t = u := by simpa using isExchange
          exact first
        · obtain ⟨reply, refused⟩ := answers j u (by simpa using isExchange)
          exact ⟨by rw [← reply, chat.ask_answer], refused⟩
      · rw [same, requests, chat.ask_requests, Exchange.conversations_cons, List.append_assoc,
          List.singleton_append]

/-- The requests of a generation grow by one exchange each: the `k`-th, from 0, holds the
instructions, the question and `k` exchanges. Each is the reply to an earlier request as it came and
then what was wrong with it, in the order of the requests. -/
theorem generate_conversations (v : Validator) (view : View) (attempts : Nat) (question : String)
    (chat : Chat) :
    let opening : List Message := [⟨.system, view.instructions⟩, ⟨.user, question⟩]
    ∃ requests : List (List Message),
      (v.generate view attempts question chat).2.requests = chat.requests ++ requests ∧
      1 ≤ requests.length ∧ requests.length ≤ max 1 attempts ∧
      ∀ k request, requests[k]? = some request →
        request.length = 2 * (k + 1) ∧ opening <+: request ∧
        (∀ j < k, ∃ reply draft fault content,
          chat.answer j = .ok reply ∧ v.Refuses view reply draft fault ∧
          request[2 * j + 2]? = some ⟨.assistant, reply⟩ ∧
          request[2 * j + 3]? = some ⟨.user, content⟩ ∧
          fault.errorText.toList <:+: content.toList) ∧
        ∀ j before, j ≤ k → requests[j]? = some before → before <+: request := by
  intro opening
  obtain ⟨exchanges, bound, answers, requests⟩ :=
    attempt_conversations (v := v) view (attempts - 1) 0 opening chat
  have count := Exchange.length_conversations opening exchanges
  refine ⟨_, requests, by omega, by omega, fun k request isRequest => ?_⟩
  obtain ⟨within, rfl⟩ := Exchange.eq_of_getElem?_conversations isRequest
  refine ⟨?_, List.prefix_append _ _, fun j earlier => ?_, fun j before notLater isBefore => ?_⟩
  · rw [List.length_append, Exchange.length_flatMap_messages, List.length_take_of_le within]
    simp [opening]
    omega
  · have isExchange : (exchanges.take k)[j]? = some exchanges[j] := by simp [earlier]
    obtain ⟨reply, refused⟩ := answers j exchanges[j] (by simp)
    obtain ⟨replied, fed⟩ := Exchange.flatMap_messages_getElem? isExchange
    exact ⟨_, _, _, _, reply, refused, by simpa [opening] using replied,
      by simpa [opening] using fed, exchanges[j].fault.errorText_infix_feedback⟩
  · obtain ⟨-, rfl⟩ := Exchange.eq_of_getElem?_conversations isBefore
    obtain ⟨rest, parts⟩ := List.take_prefix_take_left (l := exchanges) notLater
    exact ⟨rest.flatMap Exchange.messages, by rw [← parts]; simp⟩

end Validator

end ViewQuery
