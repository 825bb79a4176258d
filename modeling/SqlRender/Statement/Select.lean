import SqlRender.Statement.Part

namespace SqlRender.Select

def ofColumns (columns : List Value) : Except Error Select := do
  let columns ← Value.asColumns columns
  return { columns }

/-- One change to a statement that selects rows. -/
inductive Step where
  | distinct (enabled : Bool)
  | source (source : Value) (aliasName : String)
  | join (kind : JoinKind) (source on : Value) (args : List Value) (aliasName : String)
  | filter (condition : Value) (args : List Value)
  | groupBy (columns : List Value)
  | having (condition : Value) (args : List Value)
  | orderBy (column : Value) (direction : Option Direction)
  | limit (count : Value)
  | offset (count : Value)

/-- The last distinct, source, limit and offset count; all other steps add to their clause. -/
def apply (s : Select) : Step → Except Error Select
  | .distinct enabled => .ok { s with isDistinct := enabled }
  | .source source aliasName => do
    let source ← source.asSource aliasName
    return { s with source := some source, sourceAlias := aliasName }
  | .join kind source on args aliasName => do
    let source ← source.asSource aliasName
    let on ← on.asCondition args
    return { s with joins := s.joins ++ [⟨kind, source, aliasName, on⟩] }
  | .filter condition args => do
    let condition ← condition.asCondition args
    return { s with conditions := s.conditions ++ [condition] }
  | .groupBy columns => do
    let columns ← Value.asColumns columns
    return { s with groups := s.groups ++ columns }
  | .having condition args => do
    let condition ← condition.asCondition args
    return { s with having := s.having ++ [condition] }
  | .orderBy column direction => do
    let item ← column.asColumn
    return { s with orders := s.orders ++ [⟨item, direction⟩] }
  | .limit count => do
    let count ← count.asCount .limit
    return { s with limit := some count }
  | .offset count => do
    let count ← count.asCount .offset
    return { s with offset := some count }

def applyAll (s : Select) (steps : List Step) : Except Error Select := steps.foldlM apply s

end SqlRender.Select
