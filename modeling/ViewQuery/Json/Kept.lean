import ViewQuery.Json.Failure

set_option autoImplicit false

namespace ViewQuery.Json

-- What is wrong with a kept value has no place in the text.
def Kept (α : Type) : Type := Json → Except Mismatch α

namespace Kept

instance : Functor Kept where
  map f r := fun j => (r j).map f

def mismatch (expected : String) (j : Json) : Mismatch := .wrongType j.described expected

def string : Kept String := fun j =>
  match j with
  | .str s => .ok s
  | other => .error (mismatch "a string" other)

def list {α : Type} (item : Kept α) : Kept (List α) := fun j =>
  match j with
  | .arr items => items.mapM item
  | other => .error (mismatch "a sequence" other)

section

variable {σ : Type} (s : Shape Kept σ)

def namedFields : List String → σ → List (String × Json) → Except Mismatch σ
  | seen, x, [] =>
    match s.missing? seen with
    | some f => .error (.fieldMissing f.name)
    | none => .ok x
  | seen, x, (name, j) :: rest =>
    match s.field? name with
    | none => namedFields seen x rest
    | some f =>
      if name ∈ seen then .error (.fieldRepeated name)
      else
        match f.read x j with
        | .error m => .error m
        | .ok x => namedFields (name :: seen) x rest

def elementsInSequence (n : Nat) : String :=
  toString n ++ (if n = 1 then " element" else " elements") ++ " in sequence"

def orderedFields : List (Field Kept σ) → Nat → σ → List Json → Except Mismatch σ
  | [], _, x, [] => .ok x
  | [], index, _, j :: rest =>
    .error (.wrongLength (index + (j :: rest).length) (elementsInSequence index))
  | f :: fs, index, x, [] =>
    if f.required then .error (.wrongLength index s.expectedInOrder)
    else orderedFields fs (index + 1) x []
  | f :: fs, index, x, j :: rest =>
    match f.read x j with
    | .error m => .error m
    | .ok x => orderedFields fs (index + 1) x rest

end

def record {σ : Type} (s : Shape Kept σ) : Kept σ := fun j =>
  match j with
  | .obj fields => namedFields s [] s.default fields
  | .arr items => orderedFields s s.fields 0 s.default items
  | other => .error (mismatch s.expected other)

end Kept

end ViewQuery.Json
