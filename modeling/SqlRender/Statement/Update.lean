import SqlRender.Statement.Part
import SqlRender.Statement.Record

namespace SqlRender.Update

/-- One change to a statement that updates rows. -/
inductive Step where
  | set (column : String) (value : Value)
  | setAll (assignments : List (String × Value))
  | record (record : Record)
  | filter (condition : Value) (args : List Value)
  | returning (columns : List String)

def assign (s : Update) (pairs : List (String × Value)) : Update :=
  { s with assignments := s.assignments ++ pairs.map fun (c, v) ↦ ⟨c, v⟩ }

def apply (s : Update) : Step → Except Error Update
  | .set column value => .ok (s.assign [(column, value)])
  | .setAll pairs => .ok (s.assign pairs)
  | .record r => do
    let pairs ← s.mapper.pairs r
    return s.assign pairs
  | .filter condition args => do
    let condition ← condition.asCondition args
    return { s with conditions := s.conditions ++ [condition] }
  | .returning columns => .ok { s with returning := s.returning ++ columns }

def applyAll (s : Update) (steps : List Step) : Except Error Update := steps.foldlM apply s

end SqlRender.Update
