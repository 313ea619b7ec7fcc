import ViewQuery.Json.Failure

set_option autoImplicit false

namespace ViewQuery.Json.Read

abbrev Reading (α : Type) := Except Failure (α × List Char)

def isBlank (c : Char) : Bool := c = ' ' || c = '\n' || c = '\t' || c = '\r'

def skipBlank (cs : List Char) : List Char := cs.dropWhile isBlank

def word : List Char → List Char → Reading Unit
  | [], cs => .ok ((), cs)
  | _ :: _, [] => .error (.after .valueMissing [])
  | w :: ws, c :: cs => if c = w then word ws cs else .error (.upon .wordExpected (c :: cs))

end ViewQuery.Json.Read
