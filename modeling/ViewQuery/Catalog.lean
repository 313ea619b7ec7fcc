import ViewQuery.Call
import ViewQuery.Text.Alphanumeric
import ViewQuery.Text.LowerCase

set_option autoImplicit false

namespace ViewQuery

open Text

def wordsFrom (current : List Char) : List Char → List (List Char)
  | [] => if current.isEmpty then [] else [current.reverse]
  | c :: cs =>
    if isAlphanumeric c then wordsFrom (c :: current) cs
    else if current.isEmpty then wordsFrom [] cs
    else current.reverse :: wordsFrom [] cs

def words (cs : List Char) : List (List Char) := wordsFrom [] cs

-- The words in lower case, one space apart.
def normalForm (s : String) : List Char :=
  joinWith [' '] ((words s.toList).map lower)

structure Catalog where
  -- in the order of the texts
  values : List String
  -- normal forms, each with the place of its value
  index : List (List Char × Nat)
  deriving DecidableEq

namespace Catalog

def empty : Catalog := ⟨[], []⟩

variable (c : Catalog)

def insert (value : String) : Catalog :=
  let key := normalForm value
  if key.isEmpty || (c.index.lookup key).isSome then c
  else ⟨c.values ++ [value], (key, c.values.length) :: c.index⟩

def ofList (values : List String) : Catalog := values.foldl insert empty

def size : Nat := c.values.length

-- Looks a text up; the entries of the index are gone through in the given order.
def lookupIn (order : List (List Char × Nat)) (raw : String) : Option String :=
  match c.values.find? fun v => v = raw with
  | some v => some v
  | none =>
    let key := normalForm raw
    if key.isEmpty then none
    else
      match c.index.lookup key with
      | some i => c.values[i]?
      | none =>
        match order.filter fun e => key.isPrefixOf e.1 with
        | [e] => c.values[e.2]?
        | _ => none

def lookup (raw : String) : Option String := c.lookupIn c.index raw

end Catalog

end ViewQuery
