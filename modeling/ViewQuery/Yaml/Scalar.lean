import ViewQuery.Yaml.Fault

set_option autoImplicit false

namespace ViewQuery.Yaml

structure Cursor where
  rest : List Char
  mark : Mark
  deriving DecidableEq

namespace Cursor

def next (c : Cursor) : Cursor :=
  match c.rest with
  | [] => c
  | a :: rest => ⟨rest, c.mark.after a rest⟩

def advance : Nat → Cursor → Cursor
  | 0, c => c
  | n + 1, c => advance n c.next

end Cursor

def startsDocumentMark (cs : List Char) : Bool :=
  (cs.take 3 = ['-', '-', '-'] || cs.take 3 = ['.', '.', '.']) && startsSpace (cs.drop 3)

-- Blanks and line breaks between the words of a scalar, latest first.
structure Gap where
  blanks : List Char
  broken : Bool
  -- an escaped line break leaves none
  firstBreak : Option Char
  moreBreaks : List Char

namespace Gap

def empty : Gap := ⟨[], false, none, []⟩

def escapedBreak : Gap := ⟨[], true, none, []⟩

def isEmpty (g : Gap) : Bool := g.blanks.isEmpty && !g.broken

def addBlank (g : Gap) (c : Char) : Gap :=
  if g.broken then g else { g with blanks := c :: g.blanks }

def normalBreak (c : Char) : Char := if c = '\u2028' || c = '\u2029' then c else '\n'

def addBreak (g : Gap) (c : Char) (rest : List Char) : Gap :=
  if c = '\r' && rest.head? = some '\n' then g
  else if g.broken then { g with moreBreaks := normalBreak c :: g.moreBreaks }
  else ⟨[], true, some (normalBreak c), []⟩

def chars (g : Gap) : List Char :=
  if !g.broken then g.blanks.reverse
  else
    match g.firstBreak with
    | none => g.moreBreaks.reverse
    | some c =>
      if c ≠ '\n' then c :: g.moreBreaks.reverse
      else if g.moreBreaks.isEmpty then [' ']
      else g.moreBreaks.reverse

end Gap

structure ScannedScalar where
  text : List Char
  cursor : Cursor
  -- the scalar was left on another line than its last word
  broken : Bool

def isFlowIndicator (c : Char) : Bool :=
  c = ',' || c = '[' || c = ']' || c = '\x7b' || c = '\x7d'

def endsPlain (inFlow : Bool) (c : Char) (rest : List Char) : Bool :=
  (c = ':' && startsSpace rest) || (inFlow && isFlowIndicator c)

def isStrayColon (inFlow : Bool) (c : Char) (rest : List Char) : Bool :=
  inFlow && c = ':' &&
    match rest with
    | d :: _ => isFlowIndicator d || d = '?'
    | [] => false

def plainFrom (inFlow : Bool) (indent : Nat) (start : Mark) (text : List Char) (gap : Gap) :
    List Char → Mark → Except Fault ScannedScalar
  | [], m => .ok ⟨text.reverse, ⟨[], m⟩, gap.broken⟩
  | c :: rest, m =>
    let ended : Except Fault ScannedScalar := .ok ⟨text.reverse, ⟨c :: rest, m⟩, gap.broken⟩
    if isBreak c then
      plainFrom inFlow indent start text (gap.addBreak c rest) rest (m.after c rest)
    else if isBlank c then
      if gap.broken && c = '\t' && m.column < indent then
        .error ⟨.tabInIndentation, m, some (.plainScalar, start)⟩
      else plainFrom inFlow indent start text (gap.addBlank c) rest (m.after c rest)
    else if !gap.isEmpty && !inFlow && m.column < indent then ended
    else if !gap.isEmpty && (c = '#' || m.column = 0 && startsDocumentMark (c :: rest)) then ended
    else if isStrayColon inFlow c rest then
      .error ⟨.colonUnexpected, m, some (.plainScalar, start)⟩
    else if endsPlain inFlow c rest then ended
    else
      plainFrom inFlow indent start (c :: (gap.chars.reverse ++ text)) .empty rest (m.after c rest)

def scanPlain (inFlow : Bool) (indent : Nat) (c : Cursor) : Except Fault ScannedScalar :=
  plainFrom inFlow indent c.mark [] .empty c.rest c.mark

def simpleEscapes : List (Char × Char) :=
  [('0', '\x00'), ('a', '\x07'), ('b', '\x08'), ('t', '\t'), ('\t', '\t'), ('n', '\n'),
    ('v', '\x0b'), ('f', '\x0c'), ('r', '\r'), ('e', '\x1b'), (' ', ' '), ('"', '"'), ('/', '/'),
    ('\\', '\\'), ('N', '\x85'), ('_', '\xa0'), ('L', '\u2028'), ('P', '\u2029')]

def escapeWidth? (c : Char) : Option Nat :=
  if c = 'x' then some 2 else if c = 'u' then some 4 else if c = 'U' then some 8 else none

def hexDigit? (c : Char) : Option Nat :=
  if '0' ≤ c ∧ c ≤ '9' then some (c.toNat - '0'.toNat)
  else if 'a' ≤ c ∧ c ≤ 'f' then some (c.toNat - 'a'.toNat + 10)
  else if 'A' ≤ c ∧ c ≤ 'F' then some (c.toNat - 'A'.toNat + 10)
  else none

def hexValue? (width : Nat) (cs : List Char) : Option Nat :=
  if cs.length < width then none
  else (cs.take width).foldlM (fun n c => (hexDigit? c).map (16 * n + ·)) 0

def escape (c : Char) (rest : List Char) : Except Problem (Char × Nat) :=
  match simpleEscapes.find? fun e => e.1 = c with
  | some e => .ok (e.2, 0)
  | none =>
    match escapeWidth? c with
    | none => .error .escapeUnknown
    | some width =>
      match hexValue? width rest with
      | none => .error .hexExpected
      | some n => if n.isValidChar then .ok (Char.ofNat n, width) else .error .escapeInvalid

def quotedFrom (quote : Char) (start : Mark) (skip : Nat) (text : List Char) (gap : Gap) :
    List Char → Mark → Except Fault ScannedScalar
  | [], m => .error ⟨.textEnded, m, some (.quotedScalar, start)⟩
  | c :: rest, m =>
    let after := m.after c rest
    match skip with
    | skip + 1 => quotedFrom quote start skip text gap rest after
    | 0 =>
      if isBreak c then quotedFrom quote start 0 text (gap.addBreak c rest) rest after
      else if isBlank c then quotedFrom quote start 0 text (gap.addBlank c) rest after
      else if m.column = 0 && startsDocumentMark (c :: rest) then
        .error ⟨.documentMark, m, some (.quotedScalar, start)⟩
      else
        let text := gap.chars.reverse ++ text
        if c = quote then
          if quote = '\'' && rest.head? = some '\'' then
            quotedFrom quote start 1 (c :: text) .empty rest after
          else .ok ⟨text.reverse, ⟨rest, after⟩, false⟩
        else if quote = '"' && c = '\\' then
          match rest with
          | [] => .error ⟨.escapeUnknown, m, some (.escape, start)⟩
          | d :: more =>
            if isBreak d then
              let width := if d = '\r' && more.head? = some '\n' then 2 else 1
              quotedFrom quote start width text .escapedBreak rest after
            else
              match escape d more with
              | .ok (e, width) => quotedFrom quote start (width + 1) (e :: text) .empty rest after
              | .error .escapeUnknown => .error ⟨.escapeUnknown, m, some (.escape, start)⟩
              | .error p => .error ⟨p, after.after d more, some (.escape, start)⟩
        else quotedFrom quote start 0 (c :: text) .empty rest after

def scanQuoted (c : Cursor) : Except Fault ScannedScalar :=
  match c.rest with
  | [] => .error ⟨.textEnded, c.mark, some (.quotedScalar, c.mark)⟩
  | quote :: rest => quotedFrom quote c.mark 0 [] .empty rest (c.mark.after quote rest)

end ViewQuery.Yaml
