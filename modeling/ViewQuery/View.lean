import ViewQuery.OperationSet

set_option autoImplicit false

namespace ViewQuery

structure Declaration where
  name : String
  description : String
  filters : List Operation
  actions : List Operation
  deriving DecidableEq

namespace Declaration

def toJson (d : Declaration) : Json :=
  .obj [("name", .str d.name), ("description", .str d.description),
    ("filters", .arr (d.filters.map Operation.toJson)),
    ("actions", .arr (d.actions.map Operation.toJson))]

def shape (R : Type → Type) [Decoder R] : Shape R Declaration where
  name := "ViewSpec"
  fields :=
    [ .of "name" Decoder.string fun d x => { d with name := x },
      (Field.of "description" Decoder.string fun d x => { d with description := x }).orDefault,
      (Field.of "filters" (Decoder.list (Decoder.record (Operation.shape R))) fun d x =>
        { d with filters := x }).orDefault,
      (Field.of "actions" (Decoder.list (Decoder.record (Operation.shape R))) fun d x =>
        { d with actions := x }).orDefault ]
  default := ⟨"", "", [], []⟩

end Declaration

structure View where
  name : String
  description : String
  filters : OperationSet
  actions : OperationSet

namespace View

def ofDeclaration (d : Declaration) : Except ViewError View :=
  match OperationSet.ofList d.name d.filters with
  | .error e => .error e
  | .ok filters =>
    match OperationSet.ofList d.name d.actions with
    | .error e => .error e
    | .ok actions => .ok ⟨d.name, d.description, filters, actions⟩

def declaration (v : View) : Declaration :=
  ⟨v.name, v.description, v.filters.toList, v.actions.toList⟩

def operations (v : View) : Role → OperationSet
  | .filter => v.filters
  | .action => v.actions

end View

end ViewQuery
