import SqlRender.Error
import SqlRender.Node.Display
import SqlRender.Node.LongNumber
import SqlRender.Text.SnakeCase

namespace SqlRender

/-- One declared field of a record, with the column that overrides its name. -/
structure Field where
  name : String
  value : Value
  column : Value := .scalar .null

/-- What may be given as one row: a value, fields in the order of their declaration, or a record
type without an instance, by its type name. -/
inductive Record where
  | value (v : Value)
  | fields (fields : List Field)
  | declaration (typeName : String)

/-- Nothing, zero and what is empty count as false. -/
def Scalar.isTruthy : Scalar → Bool
  | null => false
  | bool b => b
  | int n => n ≠ 0
  | float (.finite _ significand _) => significand ≠ 0
  | decimal (.finite _ digits _) => digits ≠ 0
  | text s => s ≠ ""
  | bytes _ data => !data.isEmpty
  | _ => true

def Value.isTruthy : Value → Bool
  | scalar s => s.isTruthy
  | collection _ members => !members.isEmpty
  | mapping entries => !entries.isEmpty
  | _ => true

/-- The column that a value names. -/
def Value.asColumnName (v : Value) : Except Error String :=
  if v.hasLongNumber then .error .longNumber else .ok v.asText

namespace Field

/-- A dash excludes the field, any other override that counts as true names the column, and a
field without one has its name in snake case. -/
def columnName? (f : Field) : Except Error (Option String) :=
  match f.column with
  | .scalar (.text "-") => .ok none
  | v => if v.isTruthy then v.asColumnName.map some else .ok (some (Text.snakeCase f.name))

def pair? (f : Field) : Except Error (Option (String × Value)) :=
  f.columnName?.map (·.map (·, f.value))

end Field

namespace Record

/-- The pairs of column and value as the record declares them; a mapping is taken as it is. -/
def declaredPairs : Record → Except Error (List (String × Value))
  | value (.mapping entries) => entries.mapM fun (k, v) ↦ k.asColumnName.map (·, v)
  | value v => .error (.unsupportedType v.typeName (some .records))
  | fields fs => (fs.mapM Field.pair?).map (·.filterMap id)
  | declaration typeName => .error (.unsupportedType typeName (some .records))

end Record

def Mapper.arrange (m : Mapper) (pairs : List (String × Value)) : List (String × Value) :=
  match m with
  | declared => pairs
  | reversed => pairs.reverse
  | snakeCase => pairs.map fun (c, v) ↦ (Text.snakeCase c, v)

def Mapper.pairs (m : Mapper) (r : Record) : Except Error (List (String × Value)) :=
  r.declaredPairs.map m.arrange

end SqlRender
