import ViewQuery.Catalog
import ViewQuery.Text.Duration

set_option autoImplicit false

namespace ViewQuery

inductive Answer where
  | found (value : String)
  | nothing
  | failed (message : String)
  deriving DecidableEq

inductive Resolution where
  | answers (after : Nat) (answer : Answer)
  | crashes
  deriving DecidableEq

abbrev Resolver := String → Resolution

inductive Unresolved where
  | notFound
  | noResolver (name : String)
  | timedOut (limit : Nat)
  | failed (message : String)
  deriving DecidableEq

def Unresolved.message : Unresolved → String
  | .notFound => "no matching catalog value"
  | .noResolver name => "no resolver named " ++ name
  | .timedOut limit => "resolution timed out after " ++ Text.durationText limit
  | .failed message => "resolver failed: Similarity backend error: " ++ message

namespace Resolver

def ofCatalog (c : Catalog) : Resolver := fun raw =>
  .answers 0 (match c.lookup raw with
    | some value => .found value
    | none => .nothing)

def constant (value : Option String) : Resolver := fun _ =>
  .answers 0 (match value with
    | some value => .found value
    | none => .nothing)

def failing (message : String) : Resolver := fun _ => .answers 0 (.failed message)

def delayed (after : Nat) (value : String) : Resolver := fun _ => .answers after (.found value)

def crashing : Resolver := fun _ => .crashes

end Resolver

def Resolution.within (limit : Nat) : Resolution → Option (Except Unresolved String)
  | .crashes => none
  | .answers after answer =>
    if limit < after then some (.error (.timedOut limit))
    else
      match answer with
      | .found value => some (.ok value)
      | .nothing => some (.error .notFound)
      | .failed message => some (.error (.failed message))

end ViewQuery
