import ViewQuery.Json.Basic
import ViewQuery.Shape

set_option autoImplicit false

namespace ViewQuery.Json

inductive Category where
  | malformed
  | atEnd
  | data
  deriving DecidableEq

inductive Cause where
  | valueMissing
  | objectUnclosed
  | listUnclosed
  | stringUnclosed
  | valueExpected
  | wordExpected
  | colonExpected
  | objectCommaExpected
  | listCommaExpected
  | keyExpected
  | commaTrailing
  | charactersTrailing
  | numberInvalid
  | numberOutOfRange
  | escapeInvalid
  | surrogateLone
  | escapeUnfinished
  | controlInString
  | nestingTooDeep
  | shape (m : Mismatch)
  deriving DecidableEq

open Text (ticked)

def described : Json → String
  | .null => "null"
  | .bool b => "boolean " ++ ticked (toString b)
  | .int n => "integer " ++ ticked (toString n)
  | .float x => "floating point " ++ ticked (String.ofList (floatText x))
  | .str s => "string " ++ Text.quoted s
  | .arr _ => "sequence"
  | .obj _ => "map"

namespace Cause

def category : Cause → Category
  | .valueMissing | .objectUnclosed | .listUnclosed | .stringUnclosed => .atEnd
  | .shape _ => .data
  | _ => .malformed

def brace (c : Char) : String := ticked (String.singleton c)

def message : Cause → String
  | .valueMissing => "EOF while parsing a value"
  | .objectUnclosed => "EOF while parsing an object"
  | .listUnclosed => "EOF while parsing a list"
  | .stringUnclosed => "EOF while parsing a string"
  | .valueExpected => "expected value"
  | .wordExpected => "expected ident"
  | .colonExpected => "expected " ++ ticked ":"
  | .objectCommaExpected => "expected " ++ ticked "," ++ " or " ++ brace closeBrace
  | .listCommaExpected => "expected " ++ ticked "," ++ " or " ++ ticked "]"
  | .keyExpected => "key must be a string"
  | .commaTrailing => "trailing comma"
  | .charactersTrailing => "trailing characters"
  | .numberInvalid => "invalid number"
  | .numberOutOfRange => "number out of range"
  | .escapeInvalid => "invalid escape"
  | .surrogateLone => "lone leading surrogate in hex escape"
  | .escapeUnfinished => "unexpected end of hex escape"
  | .controlInString => "control character (\\u0000-\\u001F) found while parsing a string"
  | .nestingTooDeep => "recursion limit exceeded"
  | .shape m => m.message

end Cause

/-- `rest` is what had not been looked at; `octets` counts the octets looked at of its first
character. -/
structure Failure where
  cause : Cause
  rest : List Char
  octets : Nat
  -- a value of no variant has no place but the end of the list or object that it is in
  placed : Bool := true
  deriving DecidableEq

def Failure.after (cause : Cause) (cs : List Char) : Failure := ⟨cause, cs, 0, true⟩

def Failure.mismatch (m : Mismatch) (cs : List Char) : Failure := .after (.shape m) cs

def Failure.unplaced (m : Mismatch) (cs : List Char) : Failure := ⟨.shape m, cs, 0, false⟩

def Failure.within (leave : List Char → List Char) (f : Failure) : Failure :=
  if f.placed then f else .after f.cause (leave f.rest)

-- A failure at the next octet, which was looked at.
def Failure.upon (cause : Cause) (cs : List Char) : Failure :=
  match cs with
  | [] => .after cause []
  | c :: rest => if c.utf8Size = 1 then .after cause rest else ⟨cause, c :: rest, 1, true⟩

structure Error where
  cause : Cause
  line : Nat
  column : Nat
  deriving DecidableEq

def octetCount (cs : List Char) : Nat := cs.foldl (fun n c => n + c.utf8Size) 0

def Failure.locate (source : List Char) (f : Failure) : Error :=
  let read := source.take (source.length - f.rest.length)
  if f.placed then
    ⟨f.cause, read.count '\n' + 1, octetCount (read.reverse.takeWhile (· ≠ '\n')) + f.octets⟩
  else ⟨f.cause, 0, 0⟩

def Error.message (e : Error) : String :=
  if e.line = 0 then e.cause.message
  else e.cause.message ++ " at line " ++ toString e.line ++ " column " ++ toString e.column

def Error.category (e : Error) : Category := e.cause.category

end ViewQuery.Json
