import ViewQuery.Grammar.Lexeme

/-!
The strict grammar: a filter text is calls joined by `and`, an action text is calls on lines of
their own, and every argument is a literal.

A reader that cannot go on gives a `Refusal`: how much was left where it could not go on and what
could have stood there. Readers choose by what comes next and never turn back, so the first refusal
is the furthest one.
-/

set_option autoImplicit false

namespace ViewQuery.Grammar

inductive Expected where
  | endOfText
  | name
  | conjunction
  | literal
  | float
  | int
  | boolean
  | call
  | whole (role : Role)
  deriving DecidableEq

def Expected.text : Expected → String
  | .endOfText => "EOI"
  | .name => "ident"
  | .conjunction => "kw_and"
  | .literal => "literal"
  | .float => "float"
  | .int => "int"
  | .boolean => "boolean"
  | .call => "call"
  | .whole .filter => "filters"
  | .whole .action => "actions"

structure Refusal where
  rest : List Char
  expected : List Expected
  deriving DecidableEq

-- A call before its literals are given their values.
structure RawCall where
  name : List Char
  args : List Lexeme
  deriving DecidableEq

def Lexeme.triedBefore : Lexeme → List Expected
  | .float _ => []
  | .int _ => [.float]
  | .bool _ => [.float, .int]
  | .str _ => [.float, .int, .boolean]

-- The refusal that stands after a literal was read, unless what follows goes further.
def afterLiteral (standing : Refusal) (start : List Char) (l : Lexeme) : Refusal :=
  match l.triedBefore with
  | [] => standing
  | tried => ⟨start, tried⟩

-- Each round reads at least a comma, so the length of the text bounds the rounds.
def moreArgs : Nat → Refusal → List Char → Except Refusal (List Lexeme × List Char)
  | 0, standing, _ => .error standing
  | n + 1, standing, cs =>
    match skipSpace cs with
    | ')' :: rest => .ok ([], rest)
    | ',' :: rest =>
      let start := skipSpace rest
      match literal? start with
      | none => .error ⟨start, [.literal]⟩
      | some (l, rest) =>
        match moreArgs n (afterLiteral standing start l) rest with
        | .error e => .error e
        | .ok (ls, rest) => .ok (l :: ls, rest)
    | _ => .error standing

def args (standing : Refusal) (cs : List Char) : Except Refusal (List Lexeme × List Char) :=
  let start := skipSpace cs
  match literal? start with
  | none =>
    match start with
    | ')' :: rest => .ok ([], rest)
    | _ => .error ⟨start, [.literal]⟩
  | some (l, rest) =>
    match moreArgs (rest.length + 1) (afterLiteral standing start l) rest with
    | .error e => .error e
    | .ok (ls, rest) => .ok (l :: ls, rest)

def call (cs : List Char) : Except Refusal (RawCall × List Char) :=
  match name? cs with
  | none => .error ⟨cs, [.name]⟩
  | some (name, rest) =>
    match skipSpace rest with
    | '(' :: rest =>
      match args ⟨cs, [.call]⟩ rest with
      | .error e => .error e
      | .ok (ls, rest) => .ok (⟨name, ls⟩, rest)
    | _ => .error ⟨cs, [.call]⟩

-- The end of the text could have stood here too, if the call was refused at its start.
def orEnd (cs : List Char) (e : Refusal) : Refusal :=
  if e.rest.length = cs.length then ⟨e.rest, .endOfText :: e.expected⟩ else e

def moreFilters : Nat → List Char → Except Refusal (List RawCall)
  | 0, cs => .error ⟨cs, [.endOfText]⟩
  | n + 1, cs =>
    let start := skipLayout cs
    match keyword? "and".toList start with
    | some rest =>
      match call (skipLayout rest) with
      | .error e => .error e
      | .ok (c, rest) => (moreFilters n rest).map (c :: ·)
    | none => if start.isEmpty then .ok [] else .error ⟨start, [.endOfText, .conjunction]⟩

def moreActions : Nat → List Char → Except Refusal (List RawCall)
  | 0, cs => .error ⟨cs, [.endOfText]⟩
  | n + 1, cs =>
    match skipSpace cs with
    | [] => .ok []
    | '\n' :: rest =>
      let start := skipLayout rest
      if start.isEmpty then .ok []
      else
        match call start with
        | .error e => .error (orEnd start e)
        | .ok (c, rest) => (moreActions n rest).map (c :: ·)
    | start => .error ⟨start, [.endOfText]⟩

def more (role : Role) (cs : List Char) : Except Refusal (List RawCall) :=
  match role with
  | .filter => moreFilters (cs.length + 1) cs
  | .action => moreActions (cs.length + 1) cs

def calls (role : Role) (cs : List Char) : Except Refusal (List RawCall) :=
  let start := skipLayout cs
  if start.isEmpty then .ok []
  else
    match call start with
    | .error e => .error (orEnd start e)
    | .ok (c, rest) => (more role rest).map (c :: ·)

-- A text refused at its very beginning is refused as a whole.
def asWhole (role : Role) (cs : List Char) (e : Refusal) : Refusal :=
  if e.rest.length = cs.length then ⟨cs, [.whole role]⟩ else e

def RawCall.value (c : RawCall) : Except InvalidLiteral Call :=
  (c.args.mapM Lexeme.value).map fun args => ⟨String.ofList c.name, args⟩

end ViewQuery.Grammar
