set_option autoImplicit false

namespace ViewQuery

inductive Role where
  | filter
  | action
  deriving DecidableEq

namespace Role

def text : Role → String
  | .filter => "filter"
  | .action => "action"

def ofText? (s : String) : Option Role :=
  if s = "filter" then some .filter else if s = "action" then some .action else none

@[simp] theorem ofText?_text (r : Role) : ofText? r.text = some r := by
  cases r <;> rfl

end Role

end ViewQuery
