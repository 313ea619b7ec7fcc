import ViewQuery.Json.Ignored
import ViewQuery.Json.Reader

set_option autoImplicit false

namespace ViewQuery.Json.Read

section

variable {σ : Type} (s : Shape Reader σ) (depth : Nat)

-- Each field takes at least one character.
def namedFields : Nat → Bool → List String → σ → List Char → Reading σ
  | 0, _, _, _, cs => .error (.after .objectUnclosed cs)
  | n + 1, first, seen, x, cs =>
    match nextKey first cs with
    | .error e => .error e
    | .ok none =>
      match s.missing? seen with
      | some f => .error (.mismatch (.fieldMissing f.name) (afterClose cs))
      | none => .ok (x, afterClose cs)
    | .ok (some (key, rest)) =>
      let name := String.ofList key
      match s.field? name with
      | some f =>
        -- a repeated key is noticed before its value
        if name ∈ seen then .error (.mismatch (.fieldRepeated name) (leaveObject rest))
        else
          match colon rest with
          | .error e => .error e
          | .ok (_, rest) =>
            match f.read x depth rest with
            | .error e => .error (e.within leaveObject)
            | .ok (x, rest) => namedFields n false (name :: seen) x rest
      | none =>
        match colon rest with
        | .error e => .error e
        | .ok (_, rest) =>
          match skipValue rest with
          | .error e => .error e
          | .ok (_, rest) => namedFields n false seen x rest

def orderedFields : List (Field Reader σ) → Nat → σ → List Char → Reading σ
  | [], _, x, cs => (closeList cs).map fun r => (x, r.2)
  | f :: fs, index, x, cs =>
    match nextElement (index = 0) cs with
    | .error e => .error e
    | .ok none =>
      if f.required then
        .error (.mismatch (.wrongLength index s.expectedInOrder) (afterClose cs))
      else orderedFields fs (index + 1) x cs
    | .ok (some start) =>
      match f.read x depth start with
      | .error e => .error (e.within leaveList)
      | .ok (x, rest) => orderedFields fs (index + 1) x rest

end

def record {σ : Type} (s : Shape Reader σ) : Reader σ := fun depth cs =>
  match skipBlank cs with
  | [] => .error (.after .valueMissing [])
  | c :: rest =>
    if c = '[' then
      match enter depth (c :: rest) with
      | .error e => .error e
      | .ok depth => orderedFields s depth s.fields 0 s.default rest
    else if c = openBrace then
      match enter depth (c :: rest) with
      | .error e => .error e
      | .ok depth => namedFields s depth (rest.length + 1) true [] s.default rest
    else .error (mismatch s.expected (c :: rest))

instance : Decoder Reader where
  map := Reader.map
  string := string
  variant := variant
  optional := optional
  list := list
  record := record

end ViewQuery.Json.Read
