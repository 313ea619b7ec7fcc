import ViewQuery.Text.Alphanumeric
import ViewQuery.Text.Blank
import ViewQuery.Text.Octets

set_option autoImplicit false

namespace ViewQuery

abbrev Environment := List (String × String)

namespace Environment

def get? (e : Environment) (name : String) : Option String := e.lookup name

def add (e : Environment) (name value : String) : Environment :=
  if (e.get? name).isSome then e else (name, value) :: e

-- What has been read of a line, to tell whether the next line belongs to it.
inductive LineMode where
  | text
  | afterBlank
  | escape
  | strong
  | strongEscape
  | weak
  | weakEscape
  | comment
  deriving DecidableEq

namespace LineMode

def isGap (c : Char) : Bool := Text.isBlank c && c ≠ '\n' && c ≠ '\r'

def afterText (c : Char) : LineMode :=
  if c = '\\' then .escape else if c = '"' then .weak else if c = '\'' then .strong else .text

def next (c : Char) : LineMode → LineMode
  | .text => if isGap c then .afterBlank else afterText c
  | .afterBlank => if c = '#' then .comment else afterText c
  | .escape => .text
  | .strong => if c = '\\' then .strongEscape else if c = '\'' then .text else .strong
  | .strongEscape => .strong
  | .weak => if c = '\\' then .weakEscape else if c = '"' then .text else .weak
  | .weakEscape => .weak
  | .comment => .comment

def scan (m : LineMode) : List Char → List Char × LineMode
  | [] => ([], m)
  | c :: cs =>
    let m := m.next c
    if m = .comment then ([], m)
    else
      let (kept, end_) := scan m cs
      (c :: kept, end_)

end LineMode

def withoutBreak (cs : List Char) : List Char :=
  match cs.reverse with
  | '\n' :: '\r' :: rest => rest.reverse
  | '\n' :: rest => rest.reverse
  | _ => cs

def isComment (cs : List Char) : Bool := (cs.dropWhile Text.isBlank).head? = some '#'

def joinLines (held : List Char) (m : LineMode) :
    List (Option (List Char)) → List (Option (List Char))
  | [] => if m = .text then [] else [none]
  | none :: _ => [none]
  | some line :: rest =>
    if isComment (held ++ line) then joinLines [] .text rest
    else
      match m.scan line with
      | (_, .text) => some (withoutBreak (held ++ line)) :: joinLines [] .text rest
      | (kept, .comment) => some (held ++ kept) :: joinLines [] .text rest
      | (_, m) => joinLines (held ++ line) m rest

def startsName (c : Char) : Bool := c.isAlpha || c = '_'

def continuesName (c : Char) : Bool := c.isAlphanum || c = '_' || c = '.'

def skipBlank (cs : List Char) : List Char := cs.dropWhile Text.isBlank

def name? : List Char → Option (String × List Char)
  | [] => none
  | c :: cs =>
    if startsName c then
      some (String.ofList (c :: cs.takeWhile continuesName), skipBlank (cs.dropWhile continuesName))
    else none

def assignment? (cs : List Char) : Option (String × List Char) :=
  match name? cs with
  | none => none
  | some (name, '=' :: rest) => some (name, skipBlank rest)
  | some (name, rest) =>
    if name = "export" then
      match name? rest with
      | some (name, '=' :: rest) => some (name, skipBlank rest)
      | _ => none
    else none

inductive ValueMode where
  | text (weak : Bool)
  | strong
  | escape (weak : Bool)
  -- the letters of a variable, latest first
  | variable (weak : Bool) (name : List Char)
  | braced (weak : Bool) (name : List Char)
  | ended

def escaped? (c : Char) : Option Char :=
  if c = 'n' then some '\n' else if c ∈ ['\\', '\'', '"', '$', ' '] then some c else none

variable (e : Environment)

def valueOf (name : List Char) : List Char := ((e.get? (String.ofList name.reverse)).getD "").toList

def valueFrom : ValueMode → List Char → Option (List Char)
  | .text weak, [] => if weak then none else some []
  | .escape weak, [] => if weak then none else some []
  | .variable weak name, [] => if weak then none else some (valueOf e name)
  | .ended, [] => some []
  | .strong, [] => none
  | .braced _ _, [] => none
  | .ended, c :: cs =>
    if c = ' ' || c = '\t' then valueFrom .ended cs else if c = '#' then some [] else none
  | .escape weak, c :: cs =>
    match escaped? c with
    | some d => (valueFrom (.text weak) cs).map (d :: ·)
    | none => none
  | .strong, c :: cs =>
    if c = '\'' then valueFrom (.text false) cs else (valueFrom .strong cs).map (c :: ·)
  | .variable weak name, c :: cs =>
    if Text.isAlphanumeric c then valueFrom (.variable weak (c :: name)) cs
    else if c = '\x7b' && name.isEmpty then valueFrom (.braced weak []) cs
    else if c = '$' then (valueFrom (.variable weak []) cs).map (valueOf e name ++ ·)
    else (valueFrom (.text weak) cs).map fun v => valueOf e name ++ c :: v
  | .braced weak name, c :: cs =>
    if c = '\x7d' then (valueFrom (.text weak) cs).map (valueOf e name ++ ·)
    else valueFrom (.braced weak (c :: name)) cs
  | .text weak, c :: cs =>
    if c = '$' then valueFrom (.variable weak []) cs
    else if c = '"' then valueFrom (.text (!weak)) cs
    else if c = '\\' then valueFrom (.escape weak) cs
    else if weak then (valueFrom (.text weak) cs).map (c :: ·)
    else if c = '\'' then valueFrom .strong cs
    else if c = ' ' || c = '\t' then valueFrom .ended cs
    else (valueFrom (.text weak) cs).map (c :: ·)

def value? (cs : List Char) : Option (List Char) :=
  if cs.isEmpty || cs.head? = some '#' then some [] else valueFrom e (.text false) cs

def afterLine? (line : List Char) : Option Environment :=
  let line := Text.trim line
  if line.isEmpty || line.head? = some '#' then some e
  else
    match assignment? line with
    | none => none
    | some (name, rest) => (value? e rest).map fun v => e.add name (String.ofList v)

def afterLines (e : Environment) : List (Option (List Char)) → Environment
  | [] => e
  | line :: rest =>
    match line.bind (afterLine? e) with
    | some e => afterLines e rest
    | none => e

def linesFrom (current : List UInt8) : List UInt8 → List (List UInt8)
  | [] => if current.isEmpty then [] else [current.reverse]
  | b :: bs =>
    if b = 10 then (b :: current).reverse :: linesFrom [] bs else linesFrom (b :: current) bs

def withoutByteOrderMark : List UInt8 → List UInt8
  | 0xef :: 0xbb :: 0xbf :: bs => bs
  | bs => bs

def addFile (file : List UInt8) : Environment :=
  afterLines e (joinLines [] .text ((linesFrom [] (withoutByteOrderMark file)).map Text.decode?))

end Environment

end ViewQuery
