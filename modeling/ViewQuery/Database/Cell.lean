import ViewQuery.Json.Basic
import ViewQuery.Text.Octets

set_option autoImplicit false

namespace ViewQuery

inductive IntegerType where
  | tinyInt
  | smallInt
  | int
  | bigInt
  | hugeInt
  | unsignedTinyInt
  | unsignedSmallInt
  | unsignedInt
  | unsignedBigInt
  | unsignedHugeInt
  deriving DecidableEq

def IntegerType.name : IntegerType → String
  | .tinyInt => "TinyInt"
  | .smallInt => "SmallInt"
  | .int => "Int"
  | .bigInt => "BigInt"
  | .hugeInt => "HugeInt"
  | .unsignedTinyInt => "UTinyInt"
  | .unsignedSmallInt => "USmallInt"
  | .unsignedInt => "UInt"
  | .unsignedBigInt => "UBigInt"
  | .unsignedHugeInt => "UHugeInt"

inductive Cell where
  | null
  | boolean (b : Bool)
  | integer (type : IntegerType) (n : Int)
  -- a value of single precision
  | float (x : Decimal.Binary)
  | double (x : Decimal.Binary)
  | text (octets : List UInt8)
  | blob (octets : List UInt8)
  | date
  deriving DecidableEq

namespace Cell

def typeName : Cell → String
  | .null => "Null"
  | .boolean _ => "Boolean"
  | .integer t _ => t.name
  | .float _ => "Float"
  | .double _ => "Double"
  | .text _ => "Text"
  | .blob _ => "Blob"
  | .date => "Date32"

def fitsWord (n : Int) : Bool :=
  Int64.minValue.toInt ≤ n && n ≤ Int64.maxValue.toInt

-- An integer of 128 bits is a number only where 64 bits hold it; without a sign it has no JSON
-- form, and neither have octets and dates.
def toJson : Cell → Json
  | .null => .null
  | .boolean b => .bool b
  | .integer .hugeInt n => if fitsWord n then .int n else .str (String.ofList (Decimal.intText n))
  | .integer .unsignedHugeInt _ => .null
  | .integer _ n => .int n
  | .float x => .float (Decimal.toFloat (Decimal.single.convert Decimal.double x))
  | .double x => .float (Decimal.toFloat x)
  | .text octets => .str (String.ofList (Text.lossy octets))
  | .blob _ => .null
  | .date => .null

def toText (index : Nat) (column : String) : Cell → Except String String
  | .text octets =>
    match Text.fault? octets with
    | none => .ok (String.ofList (Text.lossy octets))
    | some fault =>
      .error
        ("Conversion error from type Text at index: " ++ toString index ++ ", " ++ fault.message)
  | cell =>
    .error ("Invalid column type " ++ cell.typeName ++ " at index: " ++ toString index
      ++ ", name: " ++ column)

end Cell

end ViewQuery
