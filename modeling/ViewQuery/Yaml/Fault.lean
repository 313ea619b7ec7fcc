set_option autoImplicit false

namespace ViewQuery.Yaml

def isBlank (c : Char) : Bool := c = ' ' || c = '\t'

def isBreak (c : Char) : Bool :=
  c = '\n' || c = '\r' || c = '\x85' || c = '\u2028' || c = '\u2029'

def startsSpace : List Char → Bool
  | [] => true
  | c :: _ => isBlank c || isBreak c

structure Mark where
  index : Nat
  line : Nat
  column : Nat
  deriving DecidableEq

namespace Mark

def start : Mark := ⟨0, 0, 0⟩

def after (m : Mark) (c : Char) (rest : List Char) : Mark :=
  if isBreak c && !(c = '\r' && rest.head? = some '\n') then ⟨m.index + 1, m.line + 1, 0⟩
  else ⟨m.index + 1, m.line, m.column + 1⟩

def atStart (m : Mark) : Bool := m.line = 0 && m.column = 0

def samePlace (m n : Mark) : Bool := m.line = n.line && m.column = n.column

def text (m : Mark) : String :=
  "line " ++ toString (m.line + 1) ++ " column " ++ toString (m.column + 1)

end Mark

inductive Context where
  | simpleKey
  | token
  | quotedScalar
  | escape
  | plainScalar
  | blockNode
  | flowNode
  | blockList
  | blockMap
  | flowList
  | flowMap
  deriving DecidableEq

def Context.message : Context → String
  | .simpleKey => "while scanning a simple key"
  | .token => "while scanning for the next token"
  | .quotedScalar => "while scanning a quoted scalar"
  | .escape => "while parsing a quoted scalar"
  | .plainScalar => "while scanning a plain scalar"
  | .blockNode => "while parsing a block node"
  | .flowNode => "while parsing a flow node"
  | .blockList => "while parsing a block collection"
  | .blockMap => "while parsing a block mapping"
  | .flowList => "while parsing a flow sequence"
  | .flowMap => "while parsing a flow mapping"

inductive Problem where
  | colonMissing
  | entryMisplaced
  | keyMisplaced
  | valueMisplaced
  | tokenUnknown
  | documentMark
  | textEnded
  | escapeUnknown
  | hexExpected
  | escapeInvalid
  | colonUnexpected
  | tabInIndentation
  | documentExpected
  | nodeExpected
  | itemExpected
  | keyExpected
  | listSeparatorExpected
  | mapSeparatorExpected
  deriving DecidableEq

def Problem.message : Problem → String
  | .colonMissing => "could not find expected ':'"
  | .entryMisplaced => "block sequence entries are not allowed in this context"
  | .keyMisplaced => "mapping keys are not allowed in this context"
  | .valueMisplaced => "mapping values are not allowed in this context"
  | .tokenUnknown => "found character that cannot start any token"
  | .documentMark => "found unexpected document indicator"
  | .textEnded => "found unexpected end of stream"
  | .escapeUnknown => "found unknown escape character"
  | .hexExpected => "did not find expected hexdecimal number"
  | .escapeInvalid => "found invalid Unicode character escape code"
  | .colonUnexpected => "found unexpected ':'"
  | .tabInIndentation => "found a tab character that violates indentation"
  | .documentExpected => "did not find expected <document start>"
  | .nodeExpected => "did not find expected node content"
  | .itemExpected => "did not find expected '-' indicator"
  | .keyExpected => "did not find expected key"
  | .listSeparatorExpected => "did not find expected ',' or ']'"
  | .mapSeparatorExpected => "did not find expected ',' or '\x7d'"

structure Fault where
  problem : Problem
  mark : Mark
  -- with the place where it began
  context : Option (Context × Mark)
  deriving DecidableEq

-- A place at the very start goes without saying, and so does one that was just named.
def Fault.message (f : Fault) : String :=
  f.problem.message ++ (if f.mark.atStart then "" else " at " ++ f.mark.text)
    ++ match f.context with
      | none => ""
      | some (c, m) =>
        ", " ++ c.message ++ (if m.atStart || m.samePlace f.mark then "" else " at " ++ m.text)

end ViewQuery.Yaml
