import ViewQuery.Json.Record
import ViewQuery.Text.Blank

set_option autoImplicit false

namespace ViewQuery

open Json.Read

structure Draft where
  filters : String
  actions : String
  deriving DecidableEq

namespace Draft

def blank : Draft := ⟨"", ""⟩

def toJson (d : Draft) : Json := .obj [("filters", .str d.filters), ("actions", .str d.actions)]

def shape : Shape Reader Draft where
  name := "GeneratedIql"
  fields :=
    [ (Field.of "filters" string fun d x => { d with filters := x }).orDefault,
      (Field.of "actions" string fun d x => { d with actions := x }).orDefault ]
  default := blank

def fence : List Char := List.replicate 3 '\x60'

def withoutSuffix (suffix cs : List Char) : List Char :=
  if suffix.isSuffixOf cs then cs.take (cs.length - suffix.length) else cs

def afterFirstLine (cs : List Char) : List Char :=
  match cs.dropWhile (· ≠ '\n') with
  | [] => cs
  | _ :: rest => rest

def withoutFence (cs : List Char) : List Char :=
  if fence.isPrefixOf cs then afterFirstLine (withoutSuffix fence (cs.drop fence.length)) else cs

def ofReply (reply : String) : Except Json.Error Draft :=
  whole? (record shape) (Text.trim (withoutFence (Text.trim reply.toList)))

end Draft

end ViewQuery
