import ViewQuery.Chat
import ViewQuery.Registry

set_option autoImplicit false

namespace ViewQuery

namespace Registry

def listing (r : Registry) : String :=
  joined "\n" (r.toList.map fun v => v.1 ++ ": " ++ v.2)

def selectionRequest (r : Registry) (question : String) : List Message :=
  [ ⟨.system, "Pick the data view that can answer the user's question.\n\nViews:\n" ++ r.listing
      ++ "\n\nReply with the view name only."⟩,
    ⟨.user, question⟩ ]

def isQuoteOrPoint (c : Char) : Bool := c = '\x60' || c = '"' || c = '\'' || c = '.'

def answeredName (answer : String) : String :=
  String.ofList (Text.trimBy isQuoteOrPoint (Text.trim answer.toList))

def select (r : Registry) (question : String) (chat : Chat) : Except ChatError View × Chat :=
  match r.toList with
  | [] => (.error .noViews, chat)
  | [(name, _)] => ((r.get name).mapError .view, chat)
  | _ =>
    match chat.ask (r.selectionRequest question) with
    | (.error e, chat) => (.error e, chat)
    | (.ok answer, chat) => ((r.get (answeredName answer)).mapError .view, chat)

end Registry

end ViewQuery
