import ViewQuery.Json.Basic

set_option autoImplicit false

namespace ViewQuery.Json

def insertField (name : String) (j : Json) : List (String × Json) → List (String × Json)
  | [] => [(name, j)]
  | f :: fs => if f.1 < name then f :: insertField name j fs else (name, j) :: f :: fs

mutual

def sorted : Json → Json
  | .arr items => .arr (sortedItems items)
  | .obj fields => .obj (sortedFields fields)
  | .null => .null
  | .bool b => .bool b
  | .int n => .int n
  | .float x => .float x
  | .str s => .str s

def sortedItems : List Json → List Json
  | [] => []
  | j :: rest => j.sorted :: sortedItems rest

def sortedFields : List (String × Json) → List (String × Json)
  | [] => []
  | (name, j) :: rest => insertField name j.sorted (sortedFields rest)

end

end ViewQuery.Json
