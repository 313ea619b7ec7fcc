import ViewQuery.Json.Reader

set_option autoImplicit false

namespace ViewQuery.Json.Read

mutual

-- Every value takes at least one character.
def valueUpTo : Nat → Reader Json
  | 0, _, cs => .error (.after .valueMissing cs)
  | n + 1, depth, cs =>
    match skipBlank cs with
    | [] => .error (.after .valueMissing [])
    | c :: rest =>
      match simpleWord c rest with
      | some r =>
        r.map fun r => (if c = 'n' then .null else .bool (c = 't'), r.2)
      | none =>
        if startsNumber c then (number (c :: rest)).map fun r => (r.1.toJson, r.2)
        else if c = '"' then (stringBody rest).map fun r => (.str (String.ofList r.1), r.2)
        else if c = '[' then
          match enter depth (c :: rest) with
          | .error e => .error e
          | .ok depth => (itemsUpTo n true depth rest).map fun r => (.arr r.1, r.2)
        else if c = openBrace then
          match enter depth (c :: rest) with
          | .error e => .error e
          | .ok depth => (fieldsUpTo n true depth rest).map fun r => (.obj r.1, r.2)
        else .error (.upon .valueExpected (c :: rest))

def itemsUpTo : Nat → Bool → Reader (List Json)
  | 0, _, _, cs => .error (.after .listUnclosed cs)
  | n + 1, first, depth, cs =>
    match nextElement first cs with
    | .error e => .error e
    | .ok none => .ok ([], afterClose cs)
    | .ok (some start) =>
      match valueUpTo n depth start with
      | .error e => .error e
      | .ok (x, rest) => (itemsUpTo n false depth rest).map fun r => (x :: r.1, r.2)

def fieldsUpTo : Nat → Bool → Reader (List (String × Json))
  | 0, _, _, cs => .error (.after .objectUnclosed cs)
  | n + 1, first, depth, cs =>
    match nextKey first cs with
    | .error e => .error e
    | .ok none => .ok ([], afterClose cs)
    | .ok (some (key, rest)) =>
      match colon rest with
      | .error e => .error e
      | .ok (_, rest) =>
        match valueUpTo n depth rest with
        | .error e => .error e
        | .ok (x, rest) =>
          (fieldsUpTo n false depth rest).map fun r => ((String.ofList key, x) :: r.1, r.2)

end

def value : Reader Json := fun depth cs => valueUpTo (2 * cs.length + 2) depth cs

end ViewQuery.Json.Read
