import SqlRender.Statement.Part

namespace SqlRender.Delete

/-- One change to a statement that deletes rows. -/
inductive Step where
  | filter (condition : Value) (args : List Value)
  | returning (columns : List String)

def apply (s : Delete) : Step → Except Error Delete
  | .filter condition args => do
    let condition ← condition.asCondition args
    return { s with conditions := s.conditions ++ [condition] }
  | .returning columns => .ok { s with returning := s.returning ++ columns }

def applyAll (s : Delete) (steps : List Step) : Except Error Delete := steps.foldlM apply s

end SqlRender.Delete
