import ViewQuery.Grammar.Lexeme

set_option autoImplicit false

namespace ViewQuery.Grammar

open Decimal (digits)

inductive Bracket where
  | round
  | square
  deriving DecidableEq

inductive Token where
  -- keywords are words too
  | word (w : List Char)
  | number
  | str
  -- `+` and `-` stand before an operand or between two
  | sign
  | tilde
  | operator
  | point
  | comma
  | equals
  | semicolon
  | newline
  | opening (b : Bracket)
  | closing (b : Bracket)
  deriving DecidableEq

def pointNumber? (cs : List Char) : Option (List Char) :=
  let tail? : Option (List Char) :=
    match digits cs with
    | ([], '.' :: rest) =>
      match digits rest with
      | ([], _) => none
      | (_, rest) => some rest
    | (_ :: _, '.' :: rest) => some (digits rest).2
    | _ => none
  match tail? with
  | none => none
  | some rest =>
    let rest := match exponent? rest with
      | some (_, r) => r
      | none => rest
    if startsWord rest then none else some rest

def number? (cs : List Char) : Option (List Char) :=
  pointNumber? cs <|> (float? cs).map Prod.snd <|> (int? cs).map Prod.snd

def pairOperators : List (Char × Char) :=
  [('=', '='), ('!', '='), ('<', '<'), ('>', '>'), ('<', '='), ('>', '='), ('*', '*'), ('/', '/')]

def singleOperators : List Char := ['<', '>', '*', '/', '%', '@', '&', '|', '^']

def mark? (c : Char) : Option Token :=
  match c with
  | '\n' => some .newline
  | '+' => some .sign
  | '-' => some .sign
  | '~' => some .tilde
  | '.' => some .point
  | ',' => some .comma
  | '=' => some .equals
  | ';' => some .semicolon
  | '(' => some (.opening .round)
  | ')' => some (.closing .round)
  | '[' => some (.opening .square)
  | ']' => some (.closing .square)
  | c => if c ∈ singleOperators then some .operator else none

def startsNumber : List Char → Bool
  | '.' :: c :: _ => c.isDigit
  | c :: _ => c.isDigit
  | [] => false

def startsPair : List Char → Bool
  | a :: b :: _ => (a, b) ∈ pairOperators
  | _ => false

def token? (cs : List Char) : Option (Token × List Char) :=
  match word? cs with
  | some (w, rest) => some (.word w, rest)
  | none =>
    if startsNumber cs then (number? cs).map fun rest => (.number, rest)
    else if startsPair cs then some (.operator, cs.drop 2)
    else
      match str? cs with
      | some (_, rest) => some (.str, rest)
      | none =>
        match cs with
        | c :: rest => (mark? c).map fun t => (t, rest)
        | [] => none

-- Each token takes a character, so the length of the text bounds their number.
def tokensUpTo : Nat → List Char → Option (List Token)
  | 0, _ => none
  | n + 1, cs =>
    match skipSpace cs with
    | [] => some []
    | start =>
      match token? start with
      | some (t, rest) => (tokensUpTo n rest).map (t :: ·)
      | none => none

def tokens? (cs : List Char) : Option (List Token) := tokensUpTo (cs.length + 1) cs

end ViewQuery.Grammar
