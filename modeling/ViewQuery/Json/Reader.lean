import ViewQuery.Json.Bracket

set_option autoImplicit false

namespace ViewQuery.Json.Read

def Reader (α : Type) : Type := Nat → List Char → Reading α

def Reader.map {α β : Type} (f : α → β) (r : Reader α) : Reader β := fun depth cs =>
  (r depth cs).map fun x => (f x.1, x.2)

def greatestDepth : Nat := 128

def whole? {α : Type} (reader : Reader α) (source : List Char) : Except Error α :=
  match reader greatestDepth source with
  | .error e => .error (e.locate source)
  | .ok (x, rest) =>
    match skipBlank rest with
    | [] => .ok x
    | start => .error ((Failure.upon .charactersTrailing start).locate source)

def text {α : Type} (reader : Reader α) (source : String) : Except Error α :=
  whole? reader source.toList

def mismatch (expected : String) (cs : List Char) : Failure :=
  let wrong (found : Json) (rest : List Char) : Failure :=
    .mismatch (.wrongType found.described expected) rest
  match cs with
  | [] => .after .valueMissing []
  | c :: rest =>
    match simpleWord c rest with
    | some (.error e) => e
    | some (.ok (_, after)) =>
      wrong (if c = 'n' then .null else .bool (c = 't')) after
    | none =>
      if startsNumber c then
        match number (c :: rest) with
        | .error e => e
        | .ok (n, after) => wrong n.toJson after
      else if c = '"' then
        match stringBody rest with
        | .error e => e
        | .ok (s, after) => wrong (.str (String.ofList s)) after
      else if c = '[' then wrong (.arr []) (c :: rest)
      else if c = openBrace then wrong (.obj []) (c :: rest)
      else .upon .valueExpected (c :: rest)

def string : Reader String := fun _ cs =>
  match skipBlank cs with
  | '"' :: rest => (stringBody rest).map fun r => (String.ofList r.1, r.2)
  | start => .error (mismatch "a string" start)

def optional {α : Type} (reader : Reader α) : Reader (Option α) := fun depth cs =>
  match skipBlank cs with
  | 'n' :: rest => (word "ull".toList rest).map fun r => (none, r.2)
  | start => (reader depth start).map fun r => (some r.1, r.2)

def count : Reader Nat := fun _ cs =>
  match skipBlank cs with
  | [] => .error (.after .valueMissing [])
  | c :: rest =>
    if startsNumber c then
      match number (c :: rest) with
      | .error e => .error e
      | .ok (.int (.ofNat n), after) => .ok (n, after)
      | .ok (.int n, after) => .error (.mismatch (.wrongValue (Json.int n).described "usize") after)
      | .ok (x, after) => .error (.mismatch (.wrongType x.toJson.described "usize") after)
    else .error (mismatch "usize" (c :: rest))

-- One of the names, as a string or as the only key of an object that holds `null`.
def variant (names : List String) : Reader String := fun depth cs =>
  let named (s : List Char) (rest : List Char) : Reading String :=
    let name := String.ofList s
    if name ∈ names then .ok (name, rest) else .error (.mismatch (.variantUnknown name names) rest)
  match skipBlank cs with
  | [] => .error (.after .valueMissing [])
  | c :: rest =>
    if c = '"' then
      match stringBody rest with
      | .error e => .error e
      | .ok (s, rest) => named s rest
    else if c = openBrace then
      match enter depth (c :: rest) with
      | .error e => .error e
      | .ok _ =>
        match skipBlank rest with
        | '"' :: rest =>
          match stringBody rest with
          | .error e => .error e
          | .ok (s, rest) =>
            match named s rest with
            | .error e => .error e
            | .ok (name, rest) =>
              match colon rest with
              | .error e => .error e
              | .ok (_, rest) =>
                match skipBlank rest with
                | 'n' :: rest =>
                  match word "ull".toList rest with
                  | .error e => .error e
                  | .ok (_, rest) =>
                    match skipBlank rest with
                    | [] => .error (.after .objectUnclosed [])
                    | d :: end_ =>
                      if d = closeBrace then .ok (name, end_)
                      else .error (.after .valueExpected (d :: end_))
                | start => .error (mismatch "unit" start)
        | start => .error (mismatch "variant identifier" start)
    else .error (.upon .valueExpected (c :: rest))

-- Each element takes at least one character.
def elements {α : Type} (item : List Char → Reading α) :
    Nat → Bool → List Char → Reading (List α)
  | 0, _, cs => .error (.after .listUnclosed cs)
  | n + 1, first, cs =>
    match nextElement first cs with
    | .error e => .error e
    | .ok none => .ok ([], afterClose cs)
    | .ok (some start) =>
      match item start with
      | .error e => .error (e.within leaveList)
      | .ok (x, rest) => (elements item n false rest).map fun r => (x :: r.1, r.2)

def list {α : Type} (item : Reader α) : Reader (List α) := fun depth cs =>
  match skipBlank cs with
  | '[' :: rest =>
    match enter depth ('[' :: rest) with
    | .error e => .error e
    | .ok depth => elements (item depth) (rest.length + 1) true rest
  | start => .error (mismatch "a sequence" start)

end ViewQuery.Json.Read
