import ViewQuery.Grammar.Token

/-!
The names of the calls that a text mentions, outermost first and in the order of the text.

This grammar takes far more than the strict one: operators, keyword arguments, dotted names, nested
calls, groups and lists. A text is scanned token by token; what is open is a stack of frames and
what may come next is a `Turn`.
-/

set_option autoImplicit false

namespace ViewQuery.Grammar

inductive Frame where
  | call
  | group
  | list
  deriving DecidableEq

def Frame.bracket : Frame → Bracket
  | .call => .round
  | .group => .round
  | .list => .square

inductive Turn where
  -- an operand, or nothing
  | start
  -- an operand; on a later line only inside brackets
  | operand
  -- an operand on the same line
  | sameLine
  -- what may follow a name; `first` when the name starts an argument or a line
  | afterName (name : List Char) (first : Bool)
  | afterPoint
  -- `not` was read between two operands
  | afterNot
  | afterIs
  | afterOperand
  deriving DecidableEq

structure Scan where
  frames : List Frame
  turn : Turn
  -- latest first
  names : List (List Char)
  deriving DecidableEq

def Scan.empty : Scan := ⟨[], .start, []⟩

namespace Scan

def go (s : Scan) (t : Turn) : Option Scan := some { s with turn := t }

def enter (s : Scan) (f : Frame) : Option Scan :=
  some { s with frames := f :: s.frames, turn := .start }

def leave (s : Scan) (b : Bracket) : Option Scan :=
  match s.frames with
  | f :: rest =>
    if f.bracket = b then some { s with frames := rest, turn := .afterOperand } else none
  | [] => none

def stepOperand (s : Scan) : Token → Option Scan
  | .word w =>
    if w = "not".toList then s.go .sameLine
    else if w = "True".toList ∨ w = "False".toList then s.go .afterOperand
    else if isKeyword w then none
    else s.go (.afterName w (s.turn = .start))
  | .number => s.go .afterOperand
  | .str => s.go .afterOperand
  | .sign => s.go .sameLine
  | .tilde => s.go .sameLine
  | .opening .round => s.enter .group
  | .opening .square => s.enter .list
  | _ => none

def stepAfter (s : Scan) : Token → Option Scan
  | .word w =>
    if w = "and".toList ∨ w = "or".toList ∨ w = "in".toList then s.go .operand
    else if w = "not".toList then s.go .afterNot
    else if w = "is".toList then s.go .afterIs
    else none
  | .sign => s.go .operand
  | .operator => s.go .operand
  | .comma => if s.frames.isEmpty then none else s.go .start
  | .semicolon => if s.frames.isEmpty then s.go .start else none
  | .newline => if s.frames.isEmpty then s.go .start else s.go .afterOperand
  | .closing b => s.leave b
  | _ => none

def step (s : Scan) (t : Token) : Option Scan :=
  match s.turn with
  | .start =>
    match t with
    | .newline => some s
    | .semicolon => if s.frames.isEmpty then some s else none
    | .closing b => s.leave b
    | t => s.stepOperand t
  | .operand =>
    match t with
    | .newline => if s.frames.isEmpty then none else some s
    | t => s.stepOperand t
  | .sameLine => s.stepOperand t
  | .afterName name first =>
    match t with
    | .point => s.go .afterPoint
    | .opening .round => { s with names := name :: s.names }.enter .call
    | .equals => if first && s.frames.head? = some .call then s.go .operand else none
    | t => s.stepAfter t
  | .afterPoint =>
    match t with
    | .word w => if isKeyword w then none else s.go (.afterName w false)
    | _ => none
  | .afterNot =>
    match t with
    | .word w => if w = "in".toList then s.go .operand else none
    | _ => none
  | .afterIs =>
    match t with
    | .word w => if w = "not".toList then s.go .operand else s.stepOperand t
    | .newline => if s.frames.isEmpty then none else s.go .operand
    | t => s.stepOperand t
  | .afterOperand => s.stepAfter t

def isComplete (s : Scan) : Bool :=
  s.frames.isEmpty &&
    match s.turn with
    | .start => true
    | .afterName _ _ => true
    | .afterOperand => true
    | _ => false

end Scan

def mentions? (cs : List Char) : Option (List (List Char)) :=
  match tokens? cs with
  | none => none
  | some ts =>
    match ts.foldlM Scan.step Scan.empty with
    | some s => if s.isComplete then some s.names.reverse else none
    | none => none

end ViewQuery.Grammar

namespace ViewQuery

/-- The names of all calls in a text; nothing if the text cannot be read as call expressions. -/
def mentionedNames? (source : String) : Option (List String) :=
  (Grammar.mentions? source.toList).map fun names => names.map String.ofList

end ViewQuery
