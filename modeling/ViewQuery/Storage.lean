import ViewQuery.Text.Octets

set_option autoImplicit false

namespace ViewQuery

inductive FileError where
  | missing
  | isFolder
  | notFolder
  | notUtf8
  deriving DecidableEq

def FileError.message : FileError → String
  | .missing => "No such file or directory (os error 2)"
  | .isFolder => "Is a directory (os error 21)"
  | .notFolder => "Not a directory (os error 20)"
  | .notUtf8 => "stream did not contain valid UTF-8"

abbrev Octets := List UInt8

class Storage (m : Type → Type) where
  read : String → m (Except FileError Octets)
  write : String → Octets → m (Except FileError Unit)
  contains : String → m Bool

structure Directory where
  -- the latest file of a path comes first
  files : List (List String × Octets)

namespace Directory

def components (path : String) : List String :=
  (path.splitOn "/").filter fun part => part ≠ "" && part ≠ "."

def ofList (files : List (String × Octets)) : Directory :=
  ⟨files.map fun f => (components f.1, f.2)⟩

variable (d : Directory)

def file? (path : List String) : Option Octets := d.files.lookup path

def isFolder (path : List String) : Bool :=
  path.isEmpty || d.files.any fun f => path.isPrefixOf f.1 && path.length < f.1.length

def dangling (path : List String) : FileError :=
  if d.files.any fun f => f.1.isPrefixOf path then .notFolder else .missing

def read (path : List String) : Except FileError Octets :=
  match d.file? path with
  | some contents => .ok contents
  | none => .error (if d.isFolder path then .isFolder else d.dangling path)

def write (path : List String) (contents : Octets) : Except FileError Directory :=
  if d.isFolder path then .error .isFolder
  else if d.isFolder path.dropLast then .ok ⟨(path, contents) :: d.files⟩
  else .error (d.dangling path)

def contains (path : List String) : Bool := d.isFolder path || (d.file? path).isSome

instance : Storage (StateM Directory) where
  read path := return (← get).read (components path)
  write path contents := do
    match (← get).write (components path) contents with
    | .ok d =>
      set d
      return .ok ()
    | .error e => return .error e
  contains path := return (← get).contains (components path)

end Directory

namespace Storage

variable {m : Type → Type} [Monad m] [Storage m]

def readText (path : String) : m (Except FileError String) := do
  match ← read path with
  | .error e => return .error e
  | .ok contents =>
    match Text.decode? contents with
    | some cs => return .ok (String.ofList cs)
    | none => return .error .notUtf8

def writeText (path : String) (s : String) : m (Except FileError Unit) := write path s.toUTF8.toList

end Storage

end ViewQuery
