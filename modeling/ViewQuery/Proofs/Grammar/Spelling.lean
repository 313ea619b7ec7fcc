import ViewQuery.Grammar.ReadError
import ViewQuery.Proofs.Decimal.Value

set_option autoImplicit false

namespace ViewQuery

open Decimal

namespace Grammar

def SpaceRun (cs : List Char) : Prop := ∀ c ∈ cs, isSpace c

def LayoutRun (cs : List Char) : Prop := ∀ c ∈ cs, isLayout c

def DigitRun (ds : List Char) : Prop := ds ≠ [] ∧ ∀ d ∈ ds, isDigit d

inductive Identifier : List Char → Prop
  | mk {c : Char} {w : List Char} : isWordStart c → (∀ d ∈ w, isWordChar d) → c :: w ∉ keywords →
      Identifier (c :: w)

def signed (negative : Bool) (n : Nat) : Int := if negative then -n else n

def signText (negative : Bool) : List Char := if negative then ['-'] else []

-- Only zeros, or no zero in front.
inductive WholeNumber : List Char → Prop
  | zeros (n : Nat) : WholeNumber (List.replicate (n + 1) '0')
  | leading {d : Char} {ds : List Char} : isDigit d → d ≠ '0' → (∀ e ∈ ds, isDigit e) →
      WholeNumber (d :: ds)

inductive IntText : Int → List Char → Prop
  | mk (negative : Bool) {ds : List Char} : WholeNumber ds →
      IntText (signed negative (digitsValue ds)) (signText negative ++ ds)

inductive ExponentText : Int → List Char → Prop
  | plain {mark : Char} {ds : List Char} : exponentMark mark → DigitRun ds →
      ExponentText (digitsValue ds) (mark :: ds)
  | plus {mark : Char} {ds : List Char} : exponentMark mark → DigitRun ds →
      ExponentText (digitsValue ds) (mark :: '+' :: ds)
  | minus {mark : Char} {ds : List Char} : exponentMark mark → DigitRun ds →
      ExponentText (-digitsValue ds) (mark :: '-' :: ds)

inductive FloatTail : List Char → Int → List Char → Prop
  | fraction {fs : List Char} : DigitRun fs → FloatTail fs 0 ('.' :: fs)
  | both {fs es : List Char} {e : Int} : DigitRun fs → ExponentText e es →
      FloatTail fs e ('.' :: fs ++ es)
  | exponent {es : List Char} {e : Int} : ExponentText e es → FloatTail [] e es

inductive FloatText : Numeral → List Char → Prop
  | mk (negative : Bool) {ds fs tail : List Char} {e : Int} : DigitRun ds → FloatTail fs e tail →
      FloatText ⟨negative, digitsValue (ds ++ fs), e - fs.length⟩ (signText negative ++ ds ++ tail)

inductive Escape : Char → Char → Prop
  | backslash : Escape '\\' '\\'
  | single : Escape '\'' '\''
  | double : Escape '"' '"'
  | newline : Escape 'n' '\n'
  | tab : Escape 't' '\t'
  | return : Escape 'r' '\r'

inductive BodyText (quote : Char) : List Char → List Char → Prop
  | nil : BodyText quote [] []
  | plain {c : Char} {s t : List Char} : c ≠ quote → c ≠ '\\' → c ≠ '\n' → c ≠ '\r' →
      BodyText quote s t → BodyText quote (c :: s) (c :: t)
  | escape {letter c : Char} {s t : List Char} : Escape letter c → BodyText quote s t →
      BodyText quote (c :: s) ('\\' :: letter :: t)

inductive StringText : List Char → List Char → Prop
  | mk {quote : Char} {s t : List Char} : quote = '\'' ∨ quote = '"' → BodyText quote s t →
      StringText s (quote :: t ++ [quote])

def boolText (b : Bool) : List Char := if b then "True".toList else "False".toList

inductive LexemeText : Lexeme → List Char → Prop
  | float {n : Numeral} {t : List Char} : FloatText n t → LexemeText (.float t) t
  | int {n : Int} {t : List Char} : IntText n t → LexemeText (.int t) t
  | bool (b : Bool) : LexemeText (.bool b) (boolText b)
  | str {s t : List Char} : StringText s t → LexemeText (.str s) t

/-- Literals with their values; an integer has 64 bits and a float is finite. -/
inductive LiteralText : Literal → List Char → Prop
  | float {n : Numeral} {x : Float} {t : List Char} : FloatText n t → n.IsDouble x →
      LiteralText (.float x) t
  | int {n : Int64} {t : List Char} : IntText n.toInt t → LiteralText (.int n) t
  | bool (b : Bool) : LiteralText (.bool b) (boolText b)
  | str {s : String} {t : List Char} : StringText s.toList t → LiteralText (.str s) t

section

variable {α κ : Type}

inductive ItemsText (spells : α → List Char → Prop) : List α → List Char → Prop
  | last {a : α} {before t after : List Char} : SpaceRun before → spells a t → SpaceRun after →
      ItemsText spells [a] (before ++ t ++ after)
  | more {a : α} {as : List α} {before t after rest : List Char} : SpaceRun before → spells a t →
      SpaceRun after → ItemsText spells as rest →
      ItemsText spells (a :: as) (before ++ t ++ after ++ ',' :: rest)

inductive ArgsText (spells : α → List Char → Prop) : List α → List Char → Prop
  | none {gap : List Char} : SpaceRun gap → ArgsText spells [] gap
  | some {as : List α} {t : List Char} : ItemsText spells as t → ArgsText spells as t

inductive CallText (spells : α → List Char → Prop) : List Char → List α → List Char → Prop
  | mk {w gap t : List Char} {as : List α} : Identifier w → SpaceRun gap → ArgsText spells as t →
      CallText spells w as (w ++ gap ++ '(' :: t ++ [')'])

-- What may stand between a call and the text that goes on with the next one.
def Joins : Role → List Char → List Char → Prop
  | .filter, gap, next => ∃ before after, LayoutRun before ∧ LayoutRun after ∧
      gap = before ++ "and".toList ++ after ∧ ¬ startsWord (after ++ next)
  | .action, gap, _ => LayoutRun gap ∧ '\n' ∈ gap

inductive RestText (role : Role) (spells : κ → List Char → Prop) : List κ → List Char → Prop
  | done {gap : List Char} : LayoutRun gap → RestText role spells [] gap
  | more {c : κ} {cs : List κ} {gap t rest : List Char} : Joins role gap (t ++ rest) →
      spells c t → RestText role spells cs rest → RestText role spells (c :: cs) (gap ++ t ++ rest)

inductive QueryText (role : Role) (spells : κ → List Char → Prop) : List κ → List Char → Prop
  | none {gap : List Char} : LayoutRun gap → QueryText role spells [] gap
  | some {c : κ} {cs : List κ} {gap t rest : List Char} : LayoutRun gap → spells c t →
      RestText role spells cs rest → QueryText role spells (c :: cs) (gap ++ t ++ rest)

end

def RawCall.Spells (c : RawCall) (t : List Char) : Prop := CallText LexemeText c.name c.args t

end Grammar

open Grammar

def Call.Spells (c : Call) (t : List Char) : Prop := CallText LiteralText c.name.toList c.args t

/-- The text is a layout of the calls. -/
def Expression.Spells (e : Expression) (t : List Char) : Prop :=
  QueryText e.role Call.Spells e.calls t

end ViewQuery
