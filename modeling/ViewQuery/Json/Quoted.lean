import ViewQuery.Json.Reading

set_option autoImplicit false

namespace ViewQuery.Json.Read

def hexValue? (c : Char) : Option Nat :=
  if '0' ≤ c ∧ c ≤ '9' then some (c.toNat - '0'.toNat)
  else if 'a' ≤ c ∧ c ≤ 'f' then some (c.toNat - 'a'.toNat + 10)
  else if 'A' ≤ c ∧ c ≤ 'F' then some (c.toNat - 'A'.toNat + 10)
  else none

def hexValue4? (a b c d : Char) : Option Nat := do
  let a ← hexValue? a
  let b ← hexValue? b
  let c ← hexValue? c
  let d ← hexValue? d
  return ((a * 16 + b) * 16 + c) * 16 + d

def dropOctets : Nat → List Char → List Char × Nat
  | n, [] => ([], n)
  | n, c :: cs => if c.utf8Size ≤ n then dropOctets (n - c.utf8Size) cs else (c :: cs, n)

def hexFailure (cs : List Char) : Failure :=
  if octetCount cs < 4 then .after .stringUnclosed []
  else
    let (rest, octets) := dropOctets 4 cs
    ⟨.escapeInvalid, rest, octets, true⟩

def simpleEscape? (c : Char) : Option Char :=
  if c = '"' ∨ c = '\\' ∨ c = '/' then some c
  else if c = 'b' then some '\x08'
  else if c = 'f' then some '\x0c'
  else if c = 'n' then some '\n'
  else if c = 'r' then some '\r'
  else if c = 't' then some '\t'
  else none

def isHighSurrogate (n : Nat) : Bool := 0xd800 ≤ n && n < 0xdc00
def isLowSurrogate (n : Nat) : Bool := 0xdc00 ≤ n && n < 0xe000

def fromSurrogates (high low : Nat) : Char :=
  Char.ofNat ((high - 0xd800) * 0x400 + (low - 0xdc00) + 0x10000)

def prepend (c : Char) : Reading (List Char) → Reading (List Char)
  | .ok (cs, rest) => .ok (c :: cs, rest)
  | .error e => .error e

def stringBody : List Char → Reading (List Char)
  | [] => .error (.after .stringUnclosed [])
  | '"' :: rest => .ok ([], rest)
  | '\\' :: rest =>
    match rest with
    | [] => .error (.after .stringUnclosed [])
    | 'u' :: a :: b :: c :: d :: tail =>
      match hexValue4? a b c d with
      | none => .error (hexFailure (a :: b :: c :: d :: tail))
      | some n =>
        if isLowSurrogate n then .error (.after .surrogateLone tail)
        else if isHighSurrogate n then
          match tail with
          | '\\' :: 'u' :: e :: f :: g :: h :: tail₂ =>
            match hexValue4? e f g h with
            | none => .error (hexFailure (e :: f :: g :: h :: tail₂))
            | some low =>
              if isLowSurrogate low then prepend (fromSurrogates n low) (stringBody tail₂)
              else .error (.after .surrogateLone tail₂)
          | '\\' :: 'u' :: short => .error (hexFailure short)
          | ['\\'] => .error (.after .stringUnclosed [])
          | '\\' :: other => .error (.upon .escapeUnfinished other)
          | [] => .error (.after .stringUnclosed [])
          | other => .error (.upon .escapeUnfinished other)
        else prepend (Char.ofNat n) (stringBody tail)
    | 'u' :: short => .error (hexFailure short)
    | c :: tail =>
      match simpleEscape? c with
      | some d => prepend d (stringBody tail)
      | none => .error (.upon .escapeInvalid (c :: tail))
  | c :: rest =>
    if c.toNat < 32 then .error (.upon .controlInString (c :: rest))
    else prepend c (stringBody rest)

def skipString : List Char → Reading Unit
  | [] => .error (.after .stringUnclosed [])
  | '"' :: rest => .ok ((), rest)
  | '\\' :: rest =>
    match rest with
    | [] => .error (.after .stringUnclosed [])
    | 'u' :: a :: b :: c :: d :: tail =>
      match hexValue4? a b c d with
      | none => .error (hexFailure (a :: b :: c :: d :: tail))
      | some _ => skipString tail
    | 'u' :: short => .error (hexFailure short)
    | c :: tail =>
      match simpleEscape? c with
      | some _ => skipString tail
      | none => .error (.upon .escapeInvalid (c :: tail))
  | c :: rest =>
    if c.toNat < 32 then .error (.after .controlInString (c :: rest)) else skipString rest

end ViewQuery.Json.Read
