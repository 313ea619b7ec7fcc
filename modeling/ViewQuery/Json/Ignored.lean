import ViewQuery.Json.Bracket

set_option autoImplicit false

namespace ViewQuery.Json.Read

inductive Skip where
  | value
  -- inside an object or a list; `comma` when an element was passed
  | inside (object : Bool) (comma : Bool)

-- Every round passes at least one character.
def skipUpTo : Nat → Skip → List Bool → List Char → Reading Unit
  | 0, _, _, cs => .error (.after .valueMissing cs)
  | n + 1, .value, open_, cs =>
    let passed (r : Reading Unit) : Reading Unit :=
      match r with
      | .error e => .error e
      | .ok (_, rest) =>
        match open_ with
        | [] => .ok ((), rest)
        | o :: outer => skipUpTo n (.inside o true) outer rest
    match skipBlank cs with
    | [] => .error (.after .valueMissing [])
    | c :: rest =>
      match simpleWord c rest with
      | some r => passed r
      | none =>
        if startsNumber c then passed (skipNumber (c :: rest))
        else if c = '"' then passed (skipString rest)
        else if c = '[' then skipUpTo n (.inside false false) open_ rest
        else if c = openBrace then skipUpTo n (.inside true false) open_ rest
        else .error (.upon .valueExpected (c :: rest))
  | n + 1, .inside object comma, open_, cs =>
    let next (cs : List Char) : Reading Unit :=
      if object then
        match skipBlank cs with
        | [] => .error (.after .objectUnclosed [])
        | '"' :: rest =>
          match skipString rest with
          | .error e => .error e
          | .ok (_, rest) =>
            match colon rest with
            | .error e => .error e
            | .ok (_, rest) => skipUpTo n .value (object :: open_) rest
        | start => .error (.upon .keyExpected start)
      else skipUpTo n .value (object :: open_) cs
    match skipBlank cs with
    | [] => .error (.after (if object then .objectUnclosed else .listUnclosed) [])
    | c :: rest =>
      if c = ',' && comma then next rest
      else if c = (if object then closeBrace else ']') then
        match open_ with
        | [] => .ok ((), rest)
        | o :: outer => skipUpTo n (.inside o true) outer rest
      else if comma then
        .error (.upon (if object then .objectCommaExpected else .listCommaExpected) (c :: rest))
      else next (c :: rest)

def skipValue (cs : List Char) : Reading Unit := skipUpTo (2 * cs.length + 2) .value [] cs

end ViewQuery.Json.Read
