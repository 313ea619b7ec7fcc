import ViewQuery.Text.Quoted

set_option autoImplicit false

namespace ViewQuery

inductive Mismatch where
  | wrongType (found expected : String)
  | wrongValue (found expected : String)
  | wrongLength (found : Nat) (expected : String)
  | fieldMissing (name : String)
  | fieldRepeated (name : String)
  | variantUnknown (found : String) (expected : List String)
  | noVariant (of : String)
  deriving DecidableEq

namespace Mismatch

open Text (ticked)

def alternatives : List String → String
  | [] => "there are no variants"
  | [a] => "expected " ++ ticked a
  | [a, b] => "expected " ++ ticked a ++ " or " ++ ticked b
  | many => "expected one of " ++ ", ".intercalate (many.map ticked)

def message : Mismatch → String
  | .wrongType found expected => "invalid type: " ++ found ++ ", expected " ++ expected
  | .wrongValue found expected => "invalid value: " ++ found ++ ", expected " ++ expected
  | .wrongLength found expected =>
    "invalid length " ++ toString found ++ ", expected " ++ expected
  | .fieldMissing name => "missing field " ++ ticked name
  | .fieldRepeated name => "duplicate field " ++ ticked name
  | .variantUnknown found expected =>
    "unknown variant " ++ ticked found ++ ", " ++ alternatives expected
  | .noVariant of => "data did not match any variant of untagged enum " ++ of

end Mismatch

structure Field (R : Type → Type) (σ : Type) where
  name : String
  -- the field may not be left out
  required : Bool
  read : σ → R σ

structure Shape (R : Type → Type) (σ : Type) where
  name : String
  -- the record stands for a variant, which one of its fields names
  tagged : Bool := false
  fields : List (Field R σ)
  default : σ

/-- The readers that a format has for the parts of a record. -/
class Decoder (R : Type → Type) extends Functor R where
  string : R String
  -- one of the names
  variant : List String → R String
  optional {α : Type} : R α → R (Option α)
  list {α : Type} : R α → R (List α)
  record {σ : Type} : Shape R σ → R σ

namespace Field

variable {R : Type → Type} {σ α : Type}

def of [Functor R] (name : String) (reader : R α) (set : σ → α → σ) : Field R σ :=
  ⟨name, true, fun s => set s <$> reader⟩

def orDefault (f : Field R σ) : Field R σ := { f with required := false }

end Field

namespace Shape

variable {R : Type → Type} {σ : Type} (s : Shape R σ)

def expected : String := (if s.tagged then "adjacently tagged enum " else "struct ") ++ s.name

def expectedInOrder : String :=
  if s.tagged then s.expected
  else s.expected ++ " with " ++ toString s.fields.length ++ " elements"

def field? (name : String) : Option (Field R σ) := s.fields.find? fun f => f.name = name

def missing? (seen : List String) : Option (Field R σ) :=
  s.fields.find? fun f => f.required && f.name ∉ seen

end Shape

end ViewQuery
