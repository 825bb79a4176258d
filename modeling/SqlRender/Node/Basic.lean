import SqlRender.Value.Scalar

namespace SqlRender

inductive CollectionKind where
  | list
  | tuple
  | set
  | frozenset
  deriving DecidableEq

inductive CompareOp where
  | eq
  | neq
  | gt
  | gte
  | lt
  | lte
  | like
  | notLike
  deriving DecidableEq

inductive BoolOp where
  | and
  | or
  deriving DecidableEq

inductive JoinKind where
  | inner
  | left
  | right
  | full
  deriving DecidableEq

inductive UnionKind where
  | distinct
  | all
  deriving DecidableEq

inductive Direction where
  | ascending
  | descending
  deriving DecidableEq

/-- How a record becomes pairs of column and value: as declared, in reverse order, or as declared
with each column name in snake case. -/
inductive Mapper where
  | declared
  | reversed
  | snakeCase
  deriving DecidableEq

mutual

/-- What a template argument, a comparison, a row or an assignment may hold. -/
inductive Value where
  | scalar (s : Scalar)
  | collection (kind : CollectionKind) (members : List Value)
  | mapping (entries : List (Value × Value))
  /-- A value of a type that cannot be rendered. -/
  | foreign (typeName : String)
  | node (n : Node)

/-- A statement, or a part of one that is rendered by itself. -/
inductive Node where
  /-- A text that is written as it is. -/
  | verbatim (sql : String)
  /-- A text in which each unquoted marker stands for the next argument. -/
  | template (sql : String) (args : List Value)
  /-- The name of a table or column, quoted by the dialect. -/
  | ident (name : String)
  | compare (column : String) (op : CompareOp) (value : Value)
  | combine (op : BoolOp) (items : List Node)
  | aliased (source : Node) (aliasName : String)
  | select (body : Select)
  | union (kind : UnionKind) (members : List Node)
  | insert (body : Insert)
  | update (body : Update)
  | delete (body : Delete)

/-- An empty alias is no alias. -/
structure Select where
  columns : List Node := []
  isDistinct : Bool := false
  source : Option Node := none
  sourceAlias : String := ""
  joins : List Join := []
  conditions : List Node := []
  groups : List Node := []
  having : List Node := []
  orders : List OrderItem := []
  limit : Option Nat := none
  offset : Option Nat := none

structure Join where
  kind : JoinKind
  source : Node
  aliasName : String
  on : Node

structure OrderItem where
  item : Node
  direction : Option Direction

structure Insert where
  table : String
  columnNames : List String := []
  rows : List (List Value) := []
  query : Option Node := none
  conflict : Option OnConflict := none
  returning : List String := []
  mapper : Mapper := .declared

/-- What an insertion does where a row of the same key exists. -/
structure OnConflict where
  target : List String := []
  actions : List ConflictAction := []
  ignore : Bool := false

inductive ConflictAction where
  /-- The column takes the value proposed for insertion. -/
  | proposed (column : String)
  | set (column : String) (value : Value)

structure Assignment where
  column : String
  value : Value

structure Update where
  table : String
  assignments : List Assignment := []
  conditions : List Node := []
  returning : List String := []
  mapper : Mapper := .declared

structure Delete where
  table : String
  conditions : List Node := []
  returning : List String := []

end

instance : Inhabited Value := ⟨.scalar .null⟩

instance : Inhabited Node := ⟨.verbatim ""⟩

def CollectionKind.name : CollectionKind → String
  | list => "list"
  | tuple => "tuple"
  | set => "set"
  | frozenset => "frozenset"

def CompareOp.sql : CompareOp → String
  | eq => "="
  | neq => "!="
  | gt => ">"
  | gte => ">="
  | lt => "<"
  | lte => "<="
  | like => "LIKE"
  | notLike => "NOT LIKE"

def BoolOp.sql : BoolOp → String
  | and => "AND"
  | or => "OR"

def JoinKind.sql : JoinKind → String
  | inner => "INNER"
  | left => "LEFT"
  | right => "RIGHT"
  | full => "FULL"

def UnionKind.sql : UnionKind → String
  | distinct => "UNION"
  | all => "UNION ALL"

def Direction.sql : Direction → String
  | ascending => "ASC"
  | descending => "DESC"

def Node.typeName : Node → String
  | verbatim _ => "Raw"
  | template .. => "Expr"
  | ident _ => "Ident"
  | compare .. => "Comparison"
  | combine .. => "Combinator"
  | aliased .. => "Aliased"
  | select _ => "Select"
  | union .. => "Union"
  | insert _ => "Insert"
  | update _ => "Update"
  | delete _ => "Delete"

/-- A query yields rows; as a value or a source it stands in parentheses. -/
def Node.isQuery : Node → Bool
  | select _ => true
  | union .. => true
  | _ => false

def Value.typeName : Value → String
  | scalar s => s.typeName
  | collection kind _ => kind.name
  | mapping _ => "dict"
  | foreign name => name
  | node n => n.typeName

/-- Collections and mappings stand for the list of their members. -/
def Value.isCollection : Value → Bool
  | collection .. => true
  | mapping _ => true
  | _ => false

end SqlRender
