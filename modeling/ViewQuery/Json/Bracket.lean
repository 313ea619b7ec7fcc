import ViewQuery.Json.Number
import ViewQuery.Json.Quoted

set_option autoImplicit false

namespace ViewQuery.Json.Read

def enter (depth : Nat) (cs : List Char) : Except Failure Nat :=
  if depth ≤ 1 then .error (.upon .nestingTooDeep cs) else .ok (depth - 1)

def colon (cs : List Char) : Reading Unit :=
  match skipBlank cs with
  | ':' :: rest => .ok ((), rest)
  | [] => .error (.after .objectUnclosed [])
  | start => .error (.upon .colonExpected start)

def nextElement (first : Bool) (cs : List Char) : Except Failure (Option (List Char)) :=
  match skipBlank cs with
  | [] => .error (.after .listUnclosed [])
  | ']' :: _ => .ok none
  | ',' :: rest =>
    if first then .ok (some (',' :: rest))
    else
      match skipBlank rest with
      | [] => .error (.after .valueMissing [])
      | ']' :: end_ => .error (.upon .commaTrailing (']' :: end_))
      | start => .ok (some start)
  | start => if first then .ok (some start) else .error (.upon .listCommaExpected start)

def closeList (cs : List Char) : Reading Unit :=
  match skipBlank cs with
  | ']' :: rest => .ok ((), rest)
  | [] => .error (.after .listUnclosed [])
  | ',' :: rest =>
    match skipBlank rest with
    | ']' :: end_ => .error (.upon .commaTrailing (']' :: end_))
    | start => .error (.upon .charactersTrailing start)
  | start => .error (.upon .charactersTrailing start)

-- The text after a list that is given up, as far as that can be told.
def leaveList (cs : List Char) : List Char :=
  match skipBlank cs with
  | ']' :: rest => rest
  | ',' :: rest => skipBlank rest
  | start => start

def keyAt (cs : List Char) : Except Failure (List Char × List Char) :=
  match cs with
  | '"' :: rest => stringBody rest
  | [] => .error (.after .valueMissing [])
  | start => .error (.upon .keyExpected start)

def startsClose (cs : List Char) : Bool := cs.head? = some closeBrace

def leaveObject (cs : List Char) : List Char :=
  let start := skipBlank cs
  if startsClose start then start.drop 1 else start

def nextKey (first : Bool) (cs : List Char) :
    Except Failure (Option (List Char × List Char)) :=
  match skipBlank cs with
  | [] => .error (.after .objectUnclosed [])
  | c :: rest =>
    if c = closeBrace then .ok none
    else if first then (keyAt (c :: rest)).map some
    else if c = ',' then
      let start := skipBlank rest
      if startsClose start then .error (.upon .commaTrailing start)
      else (keyAt start).map some
    else .error (.upon .objectCommaExpected (c :: rest))

def afterClose (cs : List Char) : List Char := (skipBlank cs).drop 1

def simpleWord (c : Char) (rest : List Char) : Option (Reading Unit) :=
  if c = 'n' then some (word "ull".toList rest)
  else if c = 't' then some (word "rue".toList rest)
  else if c = 'f' then some (word "alse".toList rest)
  else none

def startsNumber (c : Char) : Bool := c = '-' || Decimal.isDigit c

end ViewQuery.Json.Read
