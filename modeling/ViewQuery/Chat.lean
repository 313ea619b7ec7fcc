import ViewQuery.Operation

set_option autoImplicit false

namespace ViewQuery

inductive Speaker where
  | system
  | user
  | assistant
  deriving DecidableEq

def Speaker.name : Speaker → String
  | .system => "system"
  | .user => "user"
  | .assistant => "assistant"

structure Message where
  speaker : Speaker
  content : String
  deriving DecidableEq

inductive ChatError where
  | service (message : String)
  | emptyResponse
  | noViews
  | view (e : ViewError)
  deriving DecidableEq

def ChatError.message : ChatError → String
  | .service message => "OpenAI error: " ++ message
  | .emptyResponse => "Empty response from model"
  | .noViews => "No views registered"
  | .view e => e.message

-- Answers are given one after the other; every request is kept.
structure Chat where
  -- the next answer first
  answers : List (Except ChatError String)
  -- latest first
  asked : List (List Message)

namespace Chat

def ofReplies (replies : List String) : Chat := ⟨replies.map .ok, []⟩

def requests (c : Chat) : List (List Message) := c.asked.reverse

def ask (c : Chat) (messages : List Message) : Except ChatError String × Chat :=
  match c.answers with
  | [] => (.error .emptyResponse, { c with asked := messages :: c.asked })
  | answer :: rest => (answer, ⟨rest, messages :: c.asked⟩)

end Chat

end ViewQuery
