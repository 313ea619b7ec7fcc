import ViewQuery.Validation

set_option autoImplicit false

namespace ViewQuery

structure Failure where
  message : String
  causes : List String
  deriving DecidableEq

namespace Failure

def of (message : String) : Failure := ⟨message, []⟩

def caused (what cause : String) : Failure := ⟨what ++ cause, [cause]⟩

def during (context : String) (f : Failure) : Failure := ⟨context, f.message :: f.causes⟩

def indented (first later cause : String) : String :=
  first ++ joined ("\n" ++ later) (cause.splitOn "\n")

def numbered (cause : String × Nat) : String :=
  indented ("    " ++ toString cause.2 ++ ": ") "       " cause.1

def causesText : List String → String
  | [] => ""
  | [cause] => "\n\nCaused by:\n" ++ indented "    " "    " cause
  | many => "\n\nCaused by:\n" ++ joined "\n" (many.zipIdx.map numbered)

def text (f : Failure) : String := "Error: " ++ f.message ++ causesText f.causes ++ "\n"

end Failure

inductive Ending where
  | success
  | failure (f : Failure)
  | misuse
  | crash
  deriving DecidableEq

def Ending.code : Ending → Nat
  | .success => 0
  | .failure _ => 1
  | .misuse => 2
  | .crash => 101

structure Outcome where
  printed : String
  ending : Ending
  deriving DecidableEq

namespace Outcome

def success (printed : String) : Outcome := ⟨printed, .success⟩

def failure (f : Failure) : Outcome := ⟨"", .failure f⟩

def stopped {ε : Type} (message : ε → String) : Stop ε → Outcome
  | .error e => .failure (.of (message e))
  | .crash => ⟨"", .crash⟩

end Outcome

end ViewQuery
