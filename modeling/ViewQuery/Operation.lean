import ViewQuery.Literal
import ViewQuery.Call
import ViewQuery.Text.Blank
import ViewQuery.Shape

set_option autoImplicit false

namespace ViewQuery

structure Parameter where
  name : String
  type : ParamType
  similarity : Option String
  deriving DecidableEq

namespace Parameter

def misplacesHint (p : Parameter) : Bool := p.similarity.isSome && p.type ≠ .str

def text (p : Parameter) : String := p.name ++ ": " ++ p.type.name

def toJson (p : Parameter) : Json :=
  .obj ([("name", .str p.name), ("type", .str p.type.name)]
    ++ Json.optionalField "similarity" .str p.similarity)

def typeReader (R : Type → Type) [Decoder R] : R ParamType :=
  (fun name => (ParamType.ofName? name).getD .str) <$>
    Decoder.variant ["int", "float", "str", "bool"]

def shape (R : Type → Type) [Decoder R] : Shape R Parameter where
  name := "ParamSpec"
  fields :=
    [ .of "name" Decoder.string fun p x => { p with name := x },
      .of "type" (typeReader R) fun p x => { p with type := x },
      (Field.of "similarity" (Decoder.optional Decoder.string) fun p x =>
        { p with similarity := x }).orDefault ]
  default := ⟨"", .str, none⟩

end Parameter

structure Operation where
  name : String
  params : List Parameter
  description : String
  deriving DecidableEq

namespace Operation

def arity (o : Operation) : Nat := o.params.length

def text (o : Operation) : String :=
  let description := Text.trimmed o.description
  o.name ++ "(" ++ joined ", " (o.params.map Parameter.text) ++ ")"
    ++ (if description.isEmpty then "" else " - " ++ description)

def misplacedHint? (o : Operation) : Option Parameter := o.params.find? Parameter.misplacesHint

def toJson (o : Operation) : Json :=
  .obj [("name", .str o.name), ("params", .arr (o.params.map Parameter.toJson)),
    ("description", .str o.description)]

def shape (R : Type → Type) [Decoder R] : Shape R Operation where
  name := "ExposedOperation"
  fields :=
    [ .of "name" Decoder.string fun o x => { o with name := x },
      (Field.of "params" (Decoder.list (Decoder.record (Parameter.shape R))) fun o x =>
        { o with params := x }).orDefault,
      (Field.of "description" Decoder.string fun o x => { o with description := x }).orDefault ]
  default := ⟨"", [], ""⟩

end Operation

inductive ViewError where
  | viewNotFound (name : String)
  | viewRepeated (name : String)
  | operationRepeated (view name : String)
  | hintMisplaced (operation param : String)
  deriving DecidableEq

def ViewError.message : ViewError → String
  | .viewNotFound name => "View not found: " ++ name
  | .viewRepeated name => "View already registered: " ++ name
  | .operationRepeated view name =>
    "Operation " ++ name ++ " registered twice on view " ++ view
  | .hintMisplaced operation param =>
    "Parameter " ++ param ++ " of " ++ operation
      ++ " has a similarity hint but is not a str parameter"

end ViewQuery
