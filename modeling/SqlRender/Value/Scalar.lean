import SqlRender.Calendar.DateTime
import SqlRender.Number.Binary64

namespace SqlRender

/-- Bytes come in three kinds, which are written alike. -/
inductive BytesKind where
  | bytes
  | bytearray
  | memoryview
  deriving DecidableEq

/-- The values that a placeholder may stand for. -/
inductive Scalar where
  | null
  | bool (b : Bool)
  | int (n : Int)
  | float (x : Binary64)
  | decimal (d : Decimal)
  | text (s : String)
  | bytes (kind : BytesKind) (data : List UInt8)
  | datetime (t : DateTime)
  | date (d : Date)
  | time (t : TimeOfDay)
  deriving DecidableEq

def BytesKind.name : BytesKind → String
  | bytes => "bytes"
  | bytearray => "bytearray"
  | memoryview => "memoryview"

def Scalar.typeName : Scalar → String
  | null => "NoneType"
  | bool _ => "bool"
  | int _ => "int"
  | float _ => "float"
  | decimal _ => "Decimal"
  | text _ => "str"
  | bytes kind _ => kind.name
  | datetime _ => "datetime"
  | date _ => "date"
  | time _ => "time"

end SqlRender
