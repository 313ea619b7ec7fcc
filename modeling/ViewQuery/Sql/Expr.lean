import ViewQuery.Call

set_option autoImplicit false

namespace ViewQuery.Sql

open Decimal (intText natText)

structure Column where
  table : Option String
  name : String
  deriving DecidableEq

inductive Comparison where
  | eq
  | ne
  | lt
  | le
  | gt
  | ge
  deriving DecidableEq

def Comparison.chars : Comparison → List Char
  | .eq => ['=']
  | .ne => ['<', '>']
  | .lt => ['<']
  | .le => ['<', '=']
  | .gt => ['>']
  | .ge => ['>', '=']

inductive Expr where
  | null
  | literal (l : Literal)
  | column (c : Column)
  | compare (op : Comparison) (left right : Expr)
  | and (items : List Expr)
  | or (items : List Expr)
  | not (e : Expr)
  | inList (e : Expr) (items : List Expr)
  | like (e pattern : Expr) (ignoreCase : Bool)
  | isNull (e : Expr)

inductive Binding where
  | or
  | and
  | not
  | predicate
  | atom
  deriving DecidableEq

def Binding.level : Binding → Nat
  | .or => 0
  | .and => 1
  | .not => 2
  | .predicate => 3
  | .atom => 4

def isPlainStart (c : Char) : Bool := c.isAlpha || c = '_'

def isPlainChar (c : Char) : Bool := c.isAlphanum || c = '_'

def isPlainName : List Char → Bool
  | [] => false
  | c :: cs => isPlainStart c && cs.all isPlainChar

def doubled (quote : Char) (cs : List Char) : List Char :=
  cs.flatMap fun c => if c = quote then [quote, quote] else [c]

def enclosed (quote : Char) (cs : List Char) : List Char :=
  quote :: doubled quote cs ++ [quote]

def nameChars (name : String) : List Char :=
  if isPlainName name.toList then name.toList else enclosed '"' name.toList

def literalChars : Literal → List Char
  | .bool true => "TRUE".toList
  | .bool false => "FALSE".toList
  | .int n => intText n.toInt
  | .float x => Literal.floatText x
  | .str s => enclosed '\'' s.toList

def Column.chars (c : Column) : List Char :=
  match c.table with
  | some t => nameChars t ++ '.' :: nameChars c.name
  | none => nameChars c.name

def inBrackets (cs : List Char) : List Char := '(' :: cs ++ [')']

namespace Expr

def ofName (name : String) : Expr := .column ⟨none, name⟩

def binding : Expr → Binding
  | .null => .atom
  | .literal _ => .atom
  | .column _ => .atom
  | .and [e] => e.binding
  | .or [e] => e.binding
  | .and [] => .predicate
  | .or [] => .predicate
  | .and _ => .and
  | .or _ => .or
  | .not _ => .not
  | .compare _ _ _ => .predicate
  | .inList _ _ => .predicate
  | .like _ _ _ => .predicate
  | .isNull _ => .predicate

-- The text in a place that needs a binding at least as tight as the one given.
def placed (required : Binding) (e : Expr) (cs : List Char) : List Char :=
  if e.binding.level < required.level then inBrackets cs else cs

mutual

def chars : Expr → List Char
  | .null => "NULL".toList
  | .literal l => literalChars l
  | .column c => c.chars
  | .compare op l r =>
    placed .atom l l.chars ++ ' ' :: op.chars ++ ' ' :: placed .atom r r.chars
  | .and [] => "1 = 1".toList
  | .or [] => "1 = 0".toList
  | .and [e] => e.chars
  | .or [e] => e.chars
  | .and items => joinWith " AND ".toList (itemsChars .and items)
  | .or items => joinWith " OR ".toList (itemsChars .not items)
  | .not e => "NOT ".toList ++ placed .atom e e.chars
  | .inList e items =>
    placed .atom e e.chars ++ " IN (".toList ++ joinWith [',', ' '] (itemsChars .or items) ++ [')']
  | .like e p ignoreCase =>
    placed .atom e e.chars ++ (if ignoreCase then " ILIKE ".toList else " LIKE ".toList)
      ++ placed .atom p p.chars
  | .isNull e => placed .atom e e.chars ++ " IS NULL".toList

def itemsChars (required : Binding) : List Expr → List (List Char)
  | [] => []
  | e :: es => placed required e e.chars :: itemsChars required es

end

def text (e : Expr) : String := String.ofList e.chars

end Expr

end ViewQuery.Sql
