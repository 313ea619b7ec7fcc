import ViewQuery.Grammar.ReadError
import ViewQuery.Resolver
import ViewQuery.Json.Reader

set_option autoImplicit false

namespace ViewQuery

open Json.Read

inductive ErrorKind where
  | syntaxError
  | unsupportedOperation
  | arityMismatch
  | typeMismatch
  | unresolvedSimilarityValue
  | runtimeInvocationFault
  deriving DecidableEq

namespace ErrorKind

def all : List ErrorKind :=
  [.syntaxError, .unsupportedOperation, .arityMismatch, .typeMismatch, .unresolvedSimilarityValue,
    .runtimeInvocationFault]

def name : ErrorKind → String
  | .syntaxError => "SyntaxError"
  | .unsupportedOperation => "UnsupportedOperation"
  | .arityMismatch => "ArityMismatch"
  | .typeMismatch => "TypeMismatch"
  | .unresolvedSimilarityValue => "UnresolvedSimilarityValue"
  | .runtimeInvocationFault => "RuntimeInvocationFault"

def isSyntax (k : ErrorKind) : Bool := k = .syntaxError

def isSemantic : ErrorKind → Bool
  | .syntaxError => false
  | .runtimeInvocationFault => false
  | _ => true

def reader : Reader ErrorKind := fun depth cs =>
  (variant (all.map name) depth cs).map fun r =>
    ((all.find? fun k => k.name = r.1).getD .syntaxError, r.2)

end ErrorKind

def Role.kindName : Role → String
  | .filter => "Filter"
  | .action => "Action"

def Role.reader : Reader Role := fun depth cs =>
  (variant ["Filter", "Action"] depth cs).map fun r =>
    (if r.1 = "Action" then .action else .filter, r.2)

inductive QueryError where
  | read (e : ReadError)
  | unsupported (role : Role) (name : String)
  | arity (name : String) (expected found : Nat)
  | type (name param : String) (expected : ParamType) (found : Literal)
  | unresolved (name param value : String) (reason : Unresolved)
  deriving DecidableEq

namespace QueryError

def kind : QueryError → ErrorKind
  | .read _ => .syntaxError
  | .unsupported _ _ => .unsupportedOperation
  | .arity _ _ _ => .arityMismatch
  | .type _ _ _ _ => .typeMismatch
  | .unresolved _ _ _ _ => .unresolvedSimilarityValue

def message : QueryError → String
  | .read e => e.message
  | .unsupported role name => "Unsupported " ++ role.text ++ ": " ++ name
  | .arity name expected found =>
    name ++ " takes " ++ toString expected ++ " argument(s), got " ++ toString found
  | .type name param expected found =>
    "Argument " ++ param ++ " of " ++ name ++ " expects " ++ expected.name ++ ", got "
      ++ found.type.name ++ " literal " ++ found.text
  | .unresolved name param value reason =>
    "Cannot resolve " ++ Text.quoted value ++ " for argument " ++ param ++ " of " ++ name ++ ": "
      ++ reason.message

end QueryError

end ViewQuery
