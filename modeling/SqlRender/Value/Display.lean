import SqlRender.Node.Basic
import SqlRender.Number.Shortest
import SqlRender.Text.Quoted

namespace SqlRender

def commaSeparated (items : List String) : String := ", ".intercalate items

namespace UtcOffset

/-- A negative offset is counted from the day before. -/
def displayItems (o : UtcOffset) : List String :=
  let seconds := o.seconds % secondsPerDay
  let microseconds := o.microseconds % 1000000
  (if o.microseconds < 0 then ["days=-1"] else [])
    ++ (if seconds = 0 then [] else [s!"seconds={seconds}"])
    ++ (if microseconds = 0 then [] else [s!"microseconds={microseconds}"])

def display (o : UtcOffset) : String :=
  if o.microseconds = 0 then "datetime.timezone.utc"
  else s!"datetime.timezone(datetime.timedelta({commaSeparated o.displayItems}))"

def displayItem : Option UtcOffset → List String
  | none => []
  | some o => ["tzinfo=" ++ o.display]

end UtcOffset

/-- Seconds and microseconds are left out where all after them is zero too. -/
def Clock.displayItems (c : Clock) : List String :=
  [toString c.hour, toString c.minute]
    ++ (if c.second = 0 ∧ c.microsecond = 0 then [] else [toString c.second])
    ++ (if c.microsecond = 0 then [] else [toString c.microsecond])

def Date.displayItems (d : Date) : List String :=
  [toString d.year, toString d.month, toString d.day]

namespace Scalar

/-- The form in which a message quotes a value. -/
def display : Scalar → String
  | null => "None"
  | bool b => if b then "True" else "False"
  | int n => toString n
  | float x => x.toText
  | decimal d => s!"Decimal('{d.toText}')"
  | text s => Text.quoted s
  | bytes .bytes data => Text.quotedBytes false data
  | bytes .bytearray data => "bytearray(" ++ Text.quotedBytes true data ++ ")"
  | bytes .memoryview _ => "<memory>"
  | datetime t =>
    let items := t.date.displayItems ++ t.clock.displayItems ++ UtcOffset.displayItem t.offset
    s!"datetime.datetime({commaSeparated items})"
  | date d => s!"datetime.date({commaSeparated d.displayItems})"
  | time t =>
    s!"datetime.time({commaSeparated (t.clock.displayItems ++ UtcOffset.displayItem t.offset)})"

def offsetText : Option UtcOffset → String
  | none => ""
  | some o => o.text

/-- The form in which a value names a column: texts stand for themselves, dates and times are in
ISO form. -/
def asText : Scalar → String
  | text s => s
  | decimal d => d.toText
  | datetime t => t.date.iso ++ " " ++ t.clock.text ++ offsetText t.offset
  | date d => d.iso
  | time t => t.clock.text ++ offsetText t.offset
  | s => s.display

end Scalar

namespace CollectionKind

/-- Members in the brackets of their kind; one member of a tuple has a comma behind it. -/
def display (kind : CollectionKind) (items : List String) : String :=
  let body := commaSeparated items
  match kind, items with
  | list, _ => "[" ++ body ++ "]"
  | tuple, [item] => "(" ++ item ++ ",)"
  | tuple, _ => "(" ++ body ++ ")"
  | set, [] => "set()"
  | set, _ => "\x7b" ++ body ++ "\x7d"
  | frozenset, [] => "frozenset()"
  | frozenset, _ => "frozenset(\x7b" ++ body ++ "\x7d)"

end CollectionKind

end SqlRender
