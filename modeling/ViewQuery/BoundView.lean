import ViewQuery.View
import ViewQuery.Sql.Select

set_option autoImplicit false

namespace ViewQuery

inductive InvocationFault where
  | missing (index : Nat)
  | wrongType (index : Nat) (expected : ParamType)
  | invalid (message : String)
  deriving DecidableEq

def InvocationFault.message : InvocationFault → String
  | .missing index => "Missing argument " ++ toString index
  | .wrongType index expected => "Argument " ++ toString index ++ " is not " ++ expected.name
  | .invalid message => message

abbrev Arguments := List Literal

namespace Arguments

variable (args : Arguments)

def value (i : Nat) : Except InvocationFault Literal :=
  match args[i]? with
  | some l => .ok l
  | none => .error (.missing i)

def typed {α : Type} (as? : Literal → Option α) (t : ParamType) (i : Nat) :
    Except InvocationFault α :=
  match value args i with
  | .error e => .error e
  | .ok l =>
    match as? l with
    | some a => .ok a
    | none => .error (.wrongType i t)

def int (i : Nat) : Except InvocationFault Int64 := typed args Literal.asInt? .int i

def float (i : Nat) : Except InvocationFault Float := typed args Literal.asFloat? .float i

def str (i : Nat) : Except InvocationFault String := typed args Literal.asStr? .str i

def bool (i : Nat) : Except InvocationFault Bool := typed args Literal.asBool? .bool i

def count (i : Nat) : Except InvocationFault Nat :=
  match int args i with
  | .error e => .error e
  | .ok n =>
    match n.toInt with
    | .ofNat k => .ok k
    | k => .error (.invalid ("expected a non-negative count, got " ++ toString k))

end Arguments

abbrev FilterBody := Arguments → Except InvocationFault Sql.Expr

abbrev ActionBody := Sql.Select → Arguments → Except InvocationFault Sql.Select

structure Registrations where
  declaration : Declaration
  base : Sql.Select
  -- latest first
  filters : List (String × FilterBody)
  actions : List (String × ActionBody)

structure BoundView where
  view : View
  base : Sql.Select
  filters : List (String × FilterBody)
  actions : List (String × ActionBody)

namespace Registrations

def start (name description : String) (base : Sql.Select) : Registrations :=
  ⟨⟨name, description, [], []⟩, base, [], []⟩

def filter (r : Registrations) (o : Operation) (body : FilterBody) : Registrations :=
  { r with
    declaration := { r.declaration with filters := r.declaration.filters ++ [o] }
    filters := (o.name, body) :: r.filters }

def action (r : Registrations) (o : Operation) (body : ActionBody) : Registrations :=
  { r with
    declaration := { r.declaration with actions := r.declaration.actions ++ [o] }
    actions := (o.name, body) :: r.actions }

def build (r : Registrations) : Except ViewError BoundView :=
  match View.ofDeclaration r.declaration with
  | .error e => .error e
  | .ok view => .ok ⟨view, r.base, r.filters, r.actions⟩

end Registrations

namespace BoundView

def filter? (b : BoundView) (name : String) : Option FilterBody :=
  (b.filters.find? fun f => f.1 = name).map Prod.snd

def action? (b : BoundView) (name : String) : Option ActionBody :=
  (b.actions.find? fun f => f.1 = name).map Prod.snd

end BoundView

end ViewQuery
