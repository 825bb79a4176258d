import SqlRender.Value.Literal

namespace SqlRender

/-- What a comparison writes in front of its operand, and whether the operand follows it. -/
structure Opening where
  sql : String
  hasOperand : Bool
  deriving DecidableEq

namespace Opening

/-- A collection that is not empty follows `operator`. -/
def ofCollection (d : Dialect) (column operator : String) (ifEmpty : Bool) (v : Value) :
    Except Error Opening := do
  let scalars ← Value.scalarMembers v.members
  if scalars.isEmpty then return ⟨d.boolLiteral ifEmpty, false⟩
  return ⟨d.quote column ++ operator, true⟩

/-- Equality with nothing and with a collection has an operator of its own, and an empty
collection leaves only a truth value. The other operators take no collection. -/
def ofComparison (d : Dialect) (column : String) (op : CompareOp) (v : Value) :
    Except Error Opening :=
  match op, v with
  | .eq, .scalar .null => .ok ⟨d.quote column ++ " IS NULL", false⟩
  | .neq, .scalar .null => .ok ⟨d.quote column ++ " IS NOT NULL", false⟩
  | op, v =>
    if v.isCollection then
      match op with
      | .eq => ofCollection d column " IN " false v
      | .neq => ofCollection d column " NOT IN " true v
      | op => .error (.unsupportedType v.typeName (some (.singleValue op)))
    else .ok ⟨d.quote column ++ (" " ++ op.sql ++ " "), true⟩

end Opening

end SqlRender
