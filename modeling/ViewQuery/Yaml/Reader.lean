import ViewQuery.Shape
import ViewQuery.Yaml.Node
import ViewQuery.Yaml.Plain

set_option autoImplicit false

namespace ViewQuery.Yaml

inductive Path where
  | root
  | item (parent : Path) (index : Nat)
  | field (parent : Path) (name : String)
  deriving DecidableEq

def Path.text : Path → String
  | .root => "."
  | .item parent index => parent.text ++ "[" ++ toString index ++ "]"
  | .field .root name => name
  | .field parent name => parent.text ++ "." ++ name

inductive Error where
  -- octets before it
  | controlCharacter (position : Nat)
  | broken (f : Fault)
  | wrong (m : Mismatch) (mark : Mark) (path : Path)
  | moreDocuments
  deriving DecidableEq

def Error.message : Error → String
  | .controlCharacter position =>
    "control characters are not allowed"
      ++ (if position = 0 then "" else " at position " ++ toString position)
  | .broken f => f.message
  | .wrong m mark path =>
    (if path = .root then "" else path.text ++ ": ") ++ m.message
      ++ (if mark.atStart then "" else " at " ++ mark.text)
  | .moreDocuments => "deserializing from YAML containing more than one document is not supported"

def Reader (α : Type) : Type := Path → Node → Except Error α

namespace Read

def mismatch (path : Path) (expected : String) : Node → Error
  | .scalar mark s true => .wrong (.wrongType (shownPlain s) expected) mark path
  | .scalar mark s false => .wrong (.wrongType (shownString s) expected) mark path
  | .list mark _ => .wrong (.wrongType "sequence" expected) mark path
  | .map mark _ => .wrong (.wrongType "map" expected) mark path
  | .broken f => .broken f

def plain {α : Type} (expected : String) (read? : String → Option α) : Reader α := fun path n =>
  match n with
  | .scalar mark s true =>
    match read? s with
    | some x => .ok x
    | none => .error (mismatch path expected (.scalar mark s true))
  | other => .error (mismatch path expected other)

def bool : Reader Bool := plain "a boolean" bool?

def word64? (s : String) : Option Nat := (unsigned? s).filter (· < Decimal.twoTo 64)

def word64 (type : String) : Reader Nat := plain type word64?

def single : Reader Decimal.Binary :=
  plain "f32" fun s => (float? s).map (Decimal.double.convert Decimal.single)

def string : Reader String := fun path n =>
  match n with
  | .scalar _ s _ => .ok s
  | other => .error (mismatch path "a string" other)

def variant (names : List String) : Reader String := fun path n =>
  match n with
  | .scalar mark s _ =>
    if s ∈ names then .ok s else .error (.wrong (.variantUnknown s names) mark path)
  | other => .error (mismatch path "a YAML tag starting with '!'" other)

def optional {α : Type} (r : Reader α) : Reader (Option α) := fun path n =>
  match n with
  | .scalar mark s true =>
    if isNull s then .ok none else (r path (.scalar mark s true)).map some
  | other => (r path other).map some

def items {α : Type} (r : Reader α) (path : Path) : Nat → List Node → Except Error (List α)
  | _, [] => .ok []
  | index, n :: rest =>
    match r (.item path index) n with
    | .error e => .error e
    | .ok x => (items r path (index + 1) rest).map (x :: ·)

def list {α : Type} (r : Reader α) : Reader (List α) := fun path n =>
  match n with
  | .list _ ns => items r path 0 ns
  | .scalar _ "" true => .ok []
  | other => .error (mismatch path "a sequence" other)

def fields {σ : Type} (s : Shape Reader σ) (path : Path) (mark : Mark) :
    List String → σ → List (Node × Node) → Except Error σ
  | seen, x, [] =>
    match s.missing? seen with
    | some f => .error (.wrong (.fieldMissing f.name) mark path)
    | none => .ok x
  | seen, x, (.scalar _ name _, v) :: rest =>
    match s.field? name with
    | none => fields s path mark seen x rest
    | some f =>
      if name ∈ seen then .error (.wrong (.fieldRepeated name) mark path)
      else
        match f.read x (.field path name) v with
        | .error e => .error e
        | .ok x => fields s path mark (name :: seen) x rest
  | _, _, (k, _) :: _ => .error (mismatch path "field identifier" k)

def record {σ : Type} (s : Shape Reader σ) : Reader σ := fun path n =>
  match n with
  | .map mark entries => fields s path mark [] s.default entries
  | .scalar mark "" true => fields s path mark [] s.default []
  | other => .error (mismatch path s.expected other)

instance : Decoder Reader where
  map f r := fun path n => (r path n).map f
  string := string
  variant := variant
  optional := optional
  list := list
  record := record

def isAllowed (c : Char) : Bool :=
  c ∈ ['\t', '\n', '\r', '\x85'] || (' ' ≤ c && c ≤ '~') || ('\xa0' ≤ c && c ≤ '\ufffd')
    || 0x10000 ≤ c.toNat

def control? (position : Nat) : List Char → Option Nat
  | [] => none
  | c :: cs => if isAllowed c then control? (position + c.utf8Size) cs else some position

def byteOrderMark : Char := '\ufeff'

def withoutByteOrderMark : List Char → List Char
  | c :: cs => if c = byteOrderMark then cs else c :: cs
  | [] => []

def text {α : Type} (r : Reader α) (source : String) : Except Error α :=
  match control? 0 source.toList with
  | some position => .error (.controlCharacter position)
  | none =>
    let d := Document.ofTokens (scan (withoutByteOrderMark source.toList))
    match r .root d.root with
    | .error e => .error e
    | .ok x =>
      match d.ending with
      | .complete => .ok x
      | .broken f => .error (.broken f)
      | .more => .error .moreDocuments

end Read

end ViewQuery.Yaml
