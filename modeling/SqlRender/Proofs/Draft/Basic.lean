import SqlRender.Buffer.Writing

namespace SqlRender

/-- A piece of rendered SQL before it is decided whether values are inlined or bound. -/
inductive Chunk where
  | text (sql : String)
  | bind (value : Scalar)
  /-- The members of a collection in parentheses. -/
  | bindAll (first : Scalar) (rest : List Scalar)
  deriving DecidableEq

def Chunk.write (d : Dialect) : Chunk → Writing Unit
  | text sql => Writing.text sql
  | bind s => Writing.value d (.scalar s)
  | bindAll first rest => Writing.value d (.collection .tuple ((first :: rest).map .scalar))

/-- What a write adds to any buffer, up to the error that ends it. -/
structure Draft where
  chunks : List Chunk
  error : Option Error := none
  deriving DecidableEq

namespace Draft

def write (d : Dialect) (a : Draft) : Writing Unit := do
  Writing.sequence (a.chunks.map (Chunk.write d))
  match a.error with
  | none => pure ()
  | some e => throw e

def empty : Draft := ⟨[], none⟩

def text (sql : String) : Draft := ⟨[.text sql], none⟩

def fail (e : Error) : Draft := ⟨[], some e⟩

def require (condition : Bool) (e : Error) : Draft := if condition then empty else fail e

/-- Nothing is written after an error. -/
def append (a b : Draft) : Draft :=
  match a.error with
  | some _ => a
  | none => ⟨a.chunks ++ b.chunks, b.error⟩

instance : Append Draft := ⟨append⟩

variable (d : Dialect)

theorem append_of_error {a : Draft} {e : Error} (h : a.error = some e) (b : Draft) :
    a ++ b = a := by
  show append a b = a
  simp only [append, h]

theorem append_of_complete {a : Draft} (h : a.error = none) (b : Draft) :
    a ++ b = ⟨a.chunks ++ b.chunks, b.error⟩ := by
  show append a b = _
  simp only [append, h]

theorem error_append (a b : Draft) : (a ++ b).error = a.error.or b.error := by
  cases h : a.error with
  | some e => rw [append_of_error h, h, Option.some_or]
  | none => rw [append_of_complete h, Option.none_or]

def parenthesized (a : Draft) : Draft := text "(" ++ a ++ text ")"

def sequence : List Draft → Draft
  | [] => empty
  | a :: rest => a ++ sequence rest

def join (separator : String) : List Draft → Draft
  | [] => empty
  | [a] => a
  | a :: rest => a ++ text separator ++ join separator rest

def ofExcept : Except Error String → Draft
  | .ok sql => text sql
  | .error e => fail e

/-- The members in parentheses; an empty collection stands for no value at all. -/
def ofMembers (members : List Value) : Draft :=
  match Value.scalarMembers members with
  | .error e => fail e
  | .ok [] => text "(NULL)"
  | .ok (first :: rest) => ⟨[.bindAll first rest], none⟩

def template (sql : String) (args : List Draft) : Draft :=
  match Template.segments d.capabilities.backslashEscapes sql with
  | [] => empty
  | first :: rest =>
    require (rest.length = args.length) (.argumentCount rest.length args.length .placeholders)
      ++ text first ++ sequence (List.zipWith (fun arg segment ↦ arg ++ text segment) args rest)

def combination (op : BoolOp) (items : List Draft) : Draft :=
  if items.isEmpty then text (d.boolLiteral (op = .and))
  else join (" " ++ op.sql ++ " ") (items.map parenthesized)

def conditions (keyword : String) (items : List Draft) : Draft :=
  if items.isEmpty then empty
  else text (" " ++ keyword ++ " ") ++ join " AND " (items.map parenthesized)

def operand (isQuery : Bool) (a : Draft) : Draft := if isQuery then a.parenthesized else a

theorem error_operand (isQuery : Bool) (a : Draft) : (operand isQuery a).error = a.error := by
  cases isQuery with
  | true =>
    show (text "(" ++ a ++ text ")").error = _
    rw [error_append, error_append]
    exact Option.or_none
  | false => rfl

def aliased (aliasName : String) : Draft :=
  if aliasName = "" then empty else text (" AS " ++ d.quote aliasName)

def source (place : SourcePlace) (isQuery : Bool) (aliasName : String) (a : Draft) : Draft :=
  require (!isQuery || aliasName ≠ "") (.missingAlias place) ++ operand isQuery a
    ++ aliased d aliasName

def member (position : Nat) (isGrouped : Bool) (a : Draft) : Draft :=
  if !isGrouped then a
  else if d.capabilities.parenthesizedCompound then a.parenthesized
  else
    text "SELECT * FROM " ++ a.parenthesized
      ++ text (" AS " ++ d.quote ("_u" ++ toString position))

def requireReturning (columns : List String) : Draft :=
  require (columns.isEmpty || d.capabilities.returning) (.unsupportedFeature .returning d.name)

def returning (columns : List String) : Draft :=
  if columns.isEmpty then empty else text (" RETURNING " ++ d.quoteAll columns)

def clause (keyword : String) (items : List Draft) : Draft :=
  if items.isEmpty then empty else text keyword ++ join ", " items

def count (keyword : String) : Option Nat → Draft
  | none => empty
  | some n => require (!Digits.isTooLong n) .longNumber ++ text (keyword ++ toString n)

def names (columns : List String) : Draft :=
  if columns.isEmpty then empty else text (" (" ++ d.quoteAll columns ++ ")")

end Draft

end SqlRender
