import ViewQuery.Chat
import ViewQuery.Draft
import ViewQuery.Scoring

set_option autoImplicit false

namespace ViewQuery

namespace View

def replyForm : String :=
  "\x7b\"filters\": \"<filters>\", \"actions\": \"<actions>\"\x7d"

def instructions (v : View) : String :=
  joined "\n"
    [ "You translate questions about the \"" ++ v.name
        ++ "\" data view into IQL, a restricted call language.",
      "",
      "Filters select rows. Write them as calls joined by `and`, for example: "
        ++ "filter_a('Paris') and filter_b(30)",
      "Actions shape the result. Write one call per line.",
      "Arguments must be literals: quoted strings, integers, floats, True or False.",
      "Use only the operations listed below. Leave a part empty when the question needs none.",
      "",
      "Filters:",
      v.filters.prompt,
      "",
      "Actions:",
      v.actions.prompt,
      "",
      "Reply with JSON only, no markdown: " ++ replyForm ]

end View

inductive ReplyFault where
  | unreadable (e : Json.Error)
  | rejected (e : QueryError)
  deriving DecidableEq

namespace ReplyFault

def message : ReplyFault → String
  | .unreadable e => "Unreadable reply: " ++ e.message
  | .rejected e => e.message

def feedback : ReplyFault → String
  | .unreadable e =>
    "Error: your reply is not the requested JSON object (" ++ e.message
      ++ "). Reply with JSON only."
  | .rejected e =>
    "Error: " ++ e.message ++ " (" ++ e.kind.name ++ "). Please fix the IQL and reply again."

end ReplyFault

structure Generation where
  draft : Draft
  attempts : Nat
  fault : Option ReplyFault
  deriving DecidableEq

inductive Verdict where
  | accepted (draft : Draft)
  | faulty (draft : Draft) (fault : ReplyFault)
  | crash
  deriving DecidableEq

namespace Validator

variable (v : Validator) (view : View)

def verdict (reply : String) : Verdict :=
  match Draft.ofReply reply with
  | .error e => .faulty .blank (.unreadable e)
  | .ok d =>
    match v.checkQuery d.filters d.actions view with
    | .ok _ => .accepted d
    | .error (.error e) => .faulty d (.rejected e)
    | .error .crash => .crash

-- Asks for a draft; `left` counts the attempts after this one, `sofar` those before it.
def attempt (left sofar : Nat) (messages : List Message) (chat : Chat) :
    Except (Stop ChatError) Generation × Chat :=
  match chat.ask messages with
  | (.error e, chat) => (.error (.error e), chat)
  | (.ok reply, chat) =>
    match v.verdict view reply with
    | .crash => (.error .crash, chat)
    | .accepted d => (.ok ⟨d, sofar + 1, none⟩, chat)
    | .faulty d fault =>
      match left with
      | 0 => (.ok ⟨d, sofar + 1, some fault⟩, chat)
      | left + 1 =>
        attempt left (sofar + 1)
          (messages ++ [⟨.assistant, reply⟩, ⟨.user, fault.feedback⟩]) chat

def generate (attempts : Nat) (question : String) (chat : Chat) :
    Except (Stop ChatError) Generation × Chat :=
  v.attempt view (attempts - 1) 0 [⟨.system, view.instructions⟩, ⟨.user, question⟩] chat

end Validator

end ViewQuery
