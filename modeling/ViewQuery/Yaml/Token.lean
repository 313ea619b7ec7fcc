import ViewQuery.Yaml.Scalar

set_option autoImplicit false

namespace ViewQuery.Yaml

inductive TokenKind where
  | textEnd
  | documentStart
  | documentEnd
  | blockListStart
  | blockMapStart
  | blockEnd
  | flowListStart
  | flowListEnd
  | flowMapStart
  | flowMapEnd
  | blockEntry
  | flowEntry
  | key
  | value
  | scalar (text : String) (plain : Bool)
  | broken (fault : Fault)
  deriving DecidableEq

structure Token where
  kind : TokenKind
  start : Mark
  stop : Mark
  deriving DecidableEq

def Token.brokenBy (f : Fault) : Token := ⟨.broken f, f.mark, f.mark⟩

structure SimpleKey where
  -- nothing else may stand in its place
  required : Bool
  -- the number of tokens before it
  position : Nat
  mark : Mark

structure Scanner where
  cursor : Cursor
  -- latest first
  tokens : List Token
  -- tokens before which no key can be put any more
  settled : Nat
  keyAllowed : Bool
  -- columns of the open blocks, innermost first
  indents : List Nat
  -- one place for each open bracket and one for the block, innermost first
  keys : List (Option SimpleKey)

namespace Scanner

def start (cs : List Char) : Scanner := ⟨⟨cs, .start⟩, [], 0, true, [], [none]⟩

variable (s : Scanner)

def inFlow : Bool := 2 ≤ s.keys.length

def mark : Mark := s.cursor.mark

def indent : Int :=
  match s.indents with
  | [] => -1
  | column :: _ => column

def push (kind : TokenKind) (start stop : Mark) : Scanner :=
  { s with tokens := ⟨kind, start, stop⟩ :: s.tokens }

def take (kind : TokenKind) (width : Nat) : Scanner :=
  let cursor := s.cursor.advance width
  { s.push kind s.mark cursor.mark with cursor := cursor }

def insert (position : Nat) (kind : TokenKind) (mark : Mark) : Scanner :=
  let later := s.tokens.length - position
  { s with tokens := s.tokens.take later ++ ⟨kind, mark, mark⟩ :: s.tokens.drop later }

def allowKey (allowed : Bool) : Scanner := { s with keyAllowed := allowed }

def setKey (key : Option SimpleKey) : Scanner := { s with keys := key :: s.keys.drop 1 }

def key? : Option SimpleKey := (s.keys.head?).join

def colonMissing (key : SimpleKey) : Fault := ⟨.colonMissing, s.mark, some (.simpleKey, key.mark)⟩

def removeKey : Except Fault Scanner :=
  match s.key? with
  | none => .ok s
  | some key => if key.required then .error (s.colonMissing key) else .ok (s.setKey none)

def saveKey : Except Fault Scanner :=
  if s.keyAllowed then
    let required := !s.inFlow && s.indent = s.mark.column
    s.removeKey.map fun s => s.setKey (some ⟨required, s.tokens.length, s.mark⟩)
  else .ok s

def keyWidth : Nat := 1024

-- A key stands on one line and is not too long.
def isStale (key : SimpleKey) : Bool :=
  key.mark.line < s.mark.line || key.mark.index + keyWidth < s.mark.index

def dropStaleKeys : Except Fault Scanner :=
  let stale := s.keys.filterMap fun k => k.filter s.isStale
  match stale.find? SimpleKey.required with
  | some key => .error (s.colonMissing key)
  | none => .ok { s with keys := s.keys.map fun k => k.filter fun key => !s.isStale key }

def unroll (column : Int) : Scanner :=
  if s.inFlow then s
  else
    let kept := s.indents.dropWhile fun (i : Nat) => column < (i : Int)
    let closed := List.replicate (s.indents.length - kept.length) ⟨.blockEnd, s.mark, s.mark⟩
    { s with indents := kept, tokens := closed ++ s.tokens }

def roll (kind : TokenKind) (column position : Nat) (mark : Mark) : Scanner :=
  if s.inFlow || column ≤ s.indent then s
  else { s.insert position kind mark with indents := column :: s.indents }

def rollHere (kind : TokenKind) : Scanner := s.roll kind s.mark.column s.tokens.length s.mark

-- Passes blanks, comments and line breaks. Outside brackets a key may start on a new line, and a
-- tab may not stand before one.
def skipSpace (inFlow allowed inComment : Bool) : List Char → Mark → Bool × Cursor
  | [], m => (allowed, ⟨[], m⟩)
  | c :: rest, m =>
    if isBreak c then skipSpace inFlow (allowed || !inFlow) false rest (m.after c rest)
    else if inComment || c = '#' then skipSpace inFlow allowed true rest (m.after c rest)
    else if c = ' ' || c = '\t' && (inFlow || !allowed) then
      skipSpace inFlow allowed false rest (m.after c rest)
    else (allowed, ⟨c :: rest, m⟩)

def takeEnd : Except Fault Scanner :=
  let m := s.mark
  let s := if m.column = 0 then s else { s with cursor := ⟨[], ⟨m.index, m.line + 1, 0⟩⟩ }
  (s.unroll (-1)).removeKey.map fun s => (s.allowKey false).take .textEnd 0

def takeDocumentMark (kind : TokenKind) : Except Fault Scanner :=
  (s.unroll (-1)).removeKey.map fun s => (s.allowKey false).take kind 3

def takeOpening (kind : TokenKind) : Except Fault Scanner :=
  s.saveKey.map fun s => { (s.allowKey true).take kind 1 with keys := none :: s.keys }

def takeClosing (kind : TokenKind) : Except Fault Scanner :=
  s.removeKey.map fun s =>
    { (s.allowKey false).take kind 1 with keys := if s.inFlow then s.keys.drop 1 else s.keys }

def takeFlowEntry : Except Fault Scanner :=
  s.removeKey.map fun s => (s.allowKey true).take .flowEntry 1

def takeBlockEntry : Except Fault Scanner :=
  if !s.inFlow && !s.keyAllowed then .error ⟨.entryMisplaced, s.mark, none⟩
  else (s.rollHere .blockListStart).removeKey.map fun s => (s.allowKey true).take .blockEntry 1

def takeKey : Except Fault Scanner :=
  if !s.inFlow && !s.keyAllowed then .error ⟨.keyMisplaced, s.mark, none⟩
  else
    (s.rollHere .blockMapStart).removeKey.map fun s => (s.allowKey (!s.inFlow)).take .key 1

def takeValue : Except Fault Scanner :=
  match s.key? with
  | some key =>
    let s := (s.insert key.position .key key.mark).roll .blockMapStart key.mark.column key.position
      key.mark
    .ok (((s.setKey none).allowKey false).take .value 1)
  | none =>
    if !s.inFlow && !s.keyAllowed then .error ⟨.valueMisplaced, s.mark, none⟩
    else .ok (((s.rollHere .blockMapStart).allowKey (!s.inFlow)).take .value 1)

def takeScalar (plain : Bool) : Except Fault Scanner :=
  match s.saveKey with
  | .error e => .error e
  | .ok s =>
    let scan := if plain then scanPlain s.inFlow (s.indent + 1).toNat s.cursor
      else scanQuoted s.cursor
    scan.map fun r =>
      { s.push (.scalar (String.ofList r.text) plain) s.mark r.cursor.mark with
        cursor := r.cursor, keyAllowed := r.broken }

def isIndicator (c : Char) : Bool :=
  isFlowIndicator c ||
    c ∈ ['-', '?', ':', '#', '&', '*', '!', '|', '>', '\'', '"', '%', '@', '\x60']

def startsPlain (inFlow : Bool) (c : Char) (rest : List Char) : Bool :=
  (!isIndicator c && !isBlank c) || (c = '-' && !(rest.head?.any isBlank))
    || (!inFlow && (c = '?' || c = ':') && !startsSpace rest)

-- Anchors, tags, directives and literal blocks are not read.
def takeToken (c : Char) (rest : List Char) : Except Fault Scanner :=
  if s.mark.column = 0 && startsDocumentMark (c :: rest) then
    s.takeDocumentMark (if c = '-' then .documentStart else .documentEnd)
  else if s.mark.column = 0 && c = '%' then .error ⟨.tokenUnknown, s.mark, some (.token, s.mark)⟩
  else if c = '[' then s.takeOpening .flowListStart
  else if c = '\x7b' then s.takeOpening .flowMapStart
  else if c = ']' then s.takeClosing .flowListEnd
  else if c = '\x7d' then s.takeClosing .flowMapEnd
  else if c = ',' then s.takeFlowEntry
  else if c = '-' && startsSpace rest then s.takeBlockEntry
  else if c = '?' && (s.inFlow || startsSpace rest) then s.takeKey
  else if c = ':' && (s.inFlow || startsSpace rest) then s.takeValue
  else if c = '\'' || c = '"' then s.takeScalar false
  else if startsPlain s.inFlow c rest then s.takeScalar true
  else .error ⟨.tokenUnknown, s.mark, some (.token, s.mark)⟩

def next : Except Fault Scanner :=
  let (allowed, cursor) := skipSpace s.inFlow s.keyAllowed false s.cursor.rest s.mark
  match dropStaleKeys { s with cursor := cursor, keyAllowed := allowed } with
  | .error e => .error e
  | .ok s =>
    let s := s.unroll s.mark.column
    match s.cursor.rest with
    | [] => s.takeEnd
    | c :: rest => s.takeToken c rest

def isFinished : Bool :=
  match s.tokens with
  | t :: _ => t.kind = .textEnd
  | [] => false

def settle : Scanner :=
  let open_ := s.keys.filterMap fun k => k.map SimpleKey.position
  { s with settled := open_.foldl min s.tokens.length }

def settledTokens : List Token := s.tokens.reverse.take s.settled

-- Every round takes a character or the end.
def run : Nat → Scanner → List Token
  | 0, s => s.settledTokens
  | n + 1, s =>
    match s.next.bind dropStaleKeys with
    | .error e => s.settledTokens ++ [.brokenBy e]
    | .ok s => if s.isFinished then s.tokens.reverse else run n s.settle

end Scanner

def scan (cs : List Char) : List Token := (Scanner.start cs).run (cs.length + 2)

end ViewQuery.Yaml
