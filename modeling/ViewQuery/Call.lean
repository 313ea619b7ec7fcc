import ViewQuery.Literal
import ViewQuery.Role

set_option autoImplicit false

namespace ViewQuery

def joinWith (separator : List Char) : List (List Char) → List Char
  | [] => []
  | [part] => part
  | part :: rest => part ++ separator ++ joinWith separator rest

theorem joinWith_cons (s part : List Char) (rest : List (List Char)) :
    joinWith s (part :: rest) = part ++ rest.flatMap (s ++ ·) := by
  induction rest generalizing part with
  | nil => simp [joinWith]
  | cons next rest ih => simp only [joinWith, ih, List.flatMap_cons, List.append_assoc]

def joined (separator : String) (parts : List String) : String :=
  String.ofList (joinWith separator.toList (parts.map String.toList))

structure Call where
  name : String
  args : List Literal
  deriving DecidableEq

namespace Call

def chars (c : Call) : List Char :=
  c.name.toList ++ '(' :: joinWith [',', ' '] (c.args.map Literal.chars) ++ [')']

def text (c : Call) : String := String.ofList c.chars

def toJson (c : Call) : Json :=
  .obj [("name", .str c.name), ("args", .arr (c.args.map Literal.toJson))]

def sameValue (a b : Call) : Bool :=
  a.name = b.name && a.args.length = b.args.length
    && (a.args.zip b.args).all fun p => p.1.sameValue p.2

end Call

structure Expression where
  role : Role
  calls : List Call
  deriving DecidableEq

namespace Expression

def separator : Role → List Char
  | .filter => " and ".toList
  | .action => ['\n']

def chars (e : Expression) : List Char :=
  joinWith (separator e.role) (e.calls.map Call.chars)

def text (e : Expression) : String := String.ofList e.chars

def typeName : Role → String
  | .filter => "Conjunction"
  | .action => "Sequence"

def ofTypeName? (s : String) : Option Role :=
  if s = "Conjunction" then some .filter else if s = "Sequence" then some .action else none

def toJson (e : Expression) : Json :=
  .obj [("type", .str (typeName e.role)), ("calls", .arr (e.calls.map Call.toJson))]

def sameValue (a b : Expression) : Bool :=
  a.role = b.role && a.calls.length = b.calls.length
    && (a.calls.zip b.calls).all fun p => p.1.sameValue p.2

end Expression

end ViewQuery
