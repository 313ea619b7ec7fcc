import ViewQuery.Grammar.Calls

set_option autoImplicit false

namespace ViewQuery

open Grammar

structure Place where
  line : Nat
  column : Nat
  deriving DecidableEq

namespace Grammar

def lineStart (before : List Char) : List Char :=
  (before.reverse.takeWhile (· ≠ '\n')).reverse

def placeAfter (before : List Char) : Place :=
  ⟨before.count '\n' + 1, (lineStart before).length + 1⟩

def lineEnd : List Char → List Char
  | [] => []
  | c :: cs => if c = '\n' then [c] else c :: lineEnd cs

-- Line breaks are drawn only when one of them is the place of the refusal.
def visible (at? : Option Char) (line : List Char) : List Char :=
  if at? = some '\n' ∨ at? = some '\r' then
    line.map fun c => if c = '\r' then '␍' else if c = '\n' then '␊' else c
  else line.filter fun c => c ≠ '\r' ∧ c ≠ '\n'

def padding (shown : List Char) (width : Nat) : List Char :=
  (shown.take width).map fun c => if c = '\t' then '\t' else ' '

def oneOf : List String → String
  | [] => "unknown parsing error"
  | [a] => a
  | [a, b] => a ++ " or " ++ b
  | a :: rest => joined ", " (a :: rest.dropLast) ++ ", or " ++ rest.getLastD ""

namespace Refusal

variable (source : List Char) (e : Refusal)

def before : List Char := source.take (source.length - e.rest.length)

def place : Place := placeAfter (e.before source)

def shownLine : List Char :=
  visible e.rest.head? (lineStart (e.before source) ++ lineEnd e.rest)

def report : String :=
  let p := e.place source
  let line := toString p.line
  let margin := String.ofList (List.replicate line.length ' ')
  let shown := e.shownLine source
  let pad := String.ofList (padding shown (p.column - 1))
  margin ++ "--> " ++ line ++ ":" ++ toString p.column ++ "\n"
    ++ margin ++ " |\n"
    ++ line ++ " | " ++ String.ofList shown ++ "\n"
    ++ margin ++ " | " ++ pad ++ "^---\n"
    ++ margin ++ " |\n"
    ++ margin ++ " = expected " ++ oneOf (e.expected.map Expected.text)

end Refusal

end Grammar

inductive ReadError where
  | refused (source : List Char) (refusal : Refusal)
  | literal (invalid : InvalidLiteral)
  deriving DecidableEq

namespace ReadError

def message : ReadError → String
  | .refused source refusal => "Pest error: " ++ refusal.report source
  | .literal invalid => invalid.message

def place? : ReadError → Option Place
  | .refused source refusal => some (refusal.place source)
  | .literal _ => none

end ReadError

-- Literals get their values once the whole text has been read, the first call first.
def Expression.read (role : Role) (source : String) : Except ReadError Expression :=
  let cs := source.toList
  match Grammar.calls role cs with
  | .error e => .error (.refused cs (asWhole role cs e))
  | .ok raw =>
    match raw.mapM RawCall.value with
    | .error e => .error (.literal e)
    | .ok found => .ok ⟨role, found⟩

end ViewQuery
