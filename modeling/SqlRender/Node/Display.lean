import SqlRender.Value.Display

namespace SqlRender

/-- A whole by its name and its named parts. -/
def displayRecord (name : String) (parts : List (String × String)) : String :=
  name ++ "(" ++ commaSeparated (parts.map fun (part, shown) ↦ part ++ "=" ++ shown) ++ ")"

/-- One of the words of a kind, by its name and its text. -/
def displayWord (kind name text : String) : String :=
  "<" ++ kind ++ "." ++ name ++ ": " ++ Text.quoted text ++ ">"

def displayTuple (items : List String) : String := CollectionKind.tuple.display items

def displayTexts (texts : List String) : String := displayTuple (texts.map Text.quoted)

def displayBool (b : Bool) : String := (Scalar.bool b).display

def displayCount : Option Nat → String
  | none => Scalar.null.display
  | some n => toString n

/-- An empty alias is no alias. -/
def displayAlias (aliasName : String) : String :=
  if aliasName = "" then Scalar.null.display else Text.quoted aliasName

def CompareOp.name : CompareOp → String
  | eq => "EQ"
  | neq => "NEQ"
  | gt => "GT"
  | gte => "GTE"
  | lt => "LT"
  | lte => "LTE"
  | like => "LIKE"
  | notLike => "NOT_LIKE"

def UnionKind.name : UnionKind → String
  | distinct => "UNION"
  | all => "UNION_ALL"

def CompareOp.display (op : CompareOp) : String := displayWord "CompareOp" op.name op.sql

def UnionKind.display (kind : UnionKind) : String := displayWord "UnionKind" kind.name kind.sql

def BoolOp.display (op : BoolOp) : String := displayWord "BoolOp" op.sql op.sql

def JoinKind.display (kind : JoinKind) : String := displayWord "JoinType" kind.sql kind.sql

def Direction.displayOption : Option Direction → String
  | none => Scalar.null.display
  | some direction => Text.quoted direction.sql

/-- A column that is SQL text is quoted as the text alone. -/
def Node.displayColumn (shown : String) : Node → String
  | verbatim sql => Text.quoted sql
  | _ => shown

/-- A source that is the name of a table is quoted as the name alone. -/
def Node.displaySource (shown : String) : Node → String
  | ident name => Text.quoted name
  | _ => shown

mutual

def Value.display : Value → String
  | .scalar s => s.display
  | .collection kind members => kind.display (Value.displayAll members)
  | .mapping entries => "\x7b" ++ commaSeparated (Value.displayEntries entries) ++ "\x7d"
  | .foreign name => "<" ++ name ++ ">"
  | .node n => n.display

def Value.displayAll : List Value → List String
  | [] => []
  | v :: rest => v.display :: Value.displayAll rest

def Value.displayEntries : List (Value × Value) → List String
  | [] => []
  | (k, v) :: rest => (k.display ++ ": " ++ v.display) :: Value.displayEntries rest

def Value.displayRows : List (List Value) → List String
  | [] => []
  | row :: rest => displayTuple (Value.displayAll row) :: Value.displayRows rest

/-- A node by its kind and its parts. -/
def Node.display : Node → String
  | .verbatim sql => displayRecord "Raw" [("text", Text.quoted sql)]
  | .template sql args =>
    displayRecord "Expr"
      [("template", Text.quoted sql), ("args", displayTuple (Value.displayAll args))]
  | .ident name => displayRecord "Ident" [("name", Text.quoted name)]
  | .compare column op value =>
    displayRecord "Comparison"
      [("column", Text.quoted column), ("op", op.display), ("value", value.display)]
  | .combine op items =>
    displayRecord "Combinator"
      [("op", op.display), ("conditions", displayTuple (Node.displayAll items))]
  | .aliased source aliasName =>
    displayRecord "Aliased"
      [("query", source.displaySource source.display), ("alias", Text.quoted aliasName)]
  | .select body => displayRecord "Select" body.parts
  | .union kind members =>
    displayRecord "Union"
      [("kind", kind.display), ("members", displayTuple (Node.displayAll members))]
  | .insert body => displayRecord "Insert" body.parts
  | .update body => displayRecord "Update" body.parts
  | .delete body => displayRecord "Delete" body.parts

def Node.displayAll : List Node → List String
  | [] => []
  | n :: rest => n.display :: Node.displayAll rest

def Node.displayOption : Option Node → String
  | none => Scalar.null.display
  | some n => n.display

def Node.displayColumns : List Node → List String
  | [] => []
  | n :: rest => n.displayColumn n.display :: Node.displayColumns rest

def Select.parts : Select → List (String × String)
  | ⟨columns, isDistinct, source, sourceAlias, joins, conditions, groups, having, orders, limit,
      offset⟩ =>
    [("columns", displayTuple (Node.displayColumns columns)),
     ("is_distinct", displayBool isDistinct),
     ("source", Select.displaySource source),
     ("source_alias", displayAlias sourceAlias),
     ("joins", displayTuple (Join.displayAll joins)),
     ("conditions", displayTuple (Node.displayAll conditions)),
     ("groups", displayTuple (Node.displayColumns groups)),
     ("having_conditions", displayTuple (Node.displayAll having)),
     ("orders", displayTuple (OrderItem.displayAll orders)),
     ("limit_count", displayCount limit),
     ("offset_count", displayCount offset)]

def Select.displaySource : Option Node → String
  | none => Scalar.null.display
  | some n => n.displaySource n.display

def Join.display : Join → String
  | ⟨kind, source, aliasName, on⟩ =>
    displayRecord "Join"
      [("join_type", kind.display), ("source", source.displaySource source.display),
       ("on", on.display), ("alias", displayAlias aliasName)]

def Join.displayAll : List Join → List String
  | [] => []
  | j :: rest => j.display :: Join.displayAll rest

def OrderItem.display : OrderItem → String
  | ⟨item, direction⟩ =>
    displayRecord "OrderByItem"
      [("expr", item.displayColumn item.display),
       ("direction", Direction.displayOption direction)]

def OrderItem.displayAll : List OrderItem → List String
  | [] => []
  | o :: rest => o.display :: OrderItem.displayAll rest

def Insert.parts : Insert → List (String × String)
  | ⟨table, columnNames, rows, query, conflict, returning, _⟩ =>
    [("table", Text.quoted table),
     ("column_names", displayTexts columnNames),
     ("rows", displayTuple (Value.displayRows rows)),
     ("query", Node.displayOption query),
     ("conflict", Insert.displayConflict conflict),
     ("returning_columns", displayTexts returning)]

def Insert.displayConflict : Option OnConflict → String
  | none => Scalar.null.display
  | some conflict => conflict.display

def OnConflict.display : OnConflict → String
  | ⟨target, actions, ignore⟩ =>
    displayRecord "OnConflict"
      [("target", displayTexts target),
       ("actions", displayTuple (ConflictAction.displayAll actions)),
       ("ignore", displayBool ignore)]

/-- The value that is proposed for insertion has no form of its own. -/
def ConflictAction.display : ConflictAction → String
  | .proposed column =>
    displayRecord "ConflictAction"
      [("column", Text.quoted column), ("value", Scalar.null.display),
       ("use_proposed", displayBool true)]
  | .set column value =>
    displayRecord "ConflictAction"
      [("column", Text.quoted column), ("value", value.display),
       ("use_proposed", displayBool false)]

def ConflictAction.displayAll : List ConflictAction → List String
  | [] => []
  | a :: rest => a.display :: ConflictAction.displayAll rest

def Assignment.display : Assignment → String
  | ⟨column, value⟩ =>
    displayRecord "Assignment" [("column", Text.quoted column), ("value", value.display)]

def Assignment.displayAll : List Assignment → List String
  | [] => []
  | a :: rest => a.display :: Assignment.displayAll rest

def Update.parts : Update → List (String × String)
  | ⟨table, assignments, conditions, returning, _⟩ =>
    [("table", Text.quoted table),
     ("assignments", displayTuple (Assignment.displayAll assignments)),
     ("conditions", displayTuple (Node.displayAll conditions)),
     ("returning_columns", displayTexts returning)]

def Delete.parts : Delete → List (String × String)
  | ⟨table, conditions, returning⟩ =>
    [("table", Text.quoted table),
     ("conditions", displayTuple (Node.displayAll conditions)),
     ("returning_columns", displayTexts returning)]

end

/-- The form in which a value names a column. -/
def Value.asText : Value → String
  | scalar s => s.asText
  | v => v.display

end SqlRender
