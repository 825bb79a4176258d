import SqlRender.Dialect.Literal

namespace SqlRender.Value

/-- The members of a collection, or the error of the first that is no scalar. -/
def scalarMembers : List Value → Except Error (List Scalar)
  | [] => .ok []
  | scalar s :: rest => do
    let scalars ← scalarMembers rest
    return s :: scalars
  | node n :: _ => .error (.unsupportedType n.typeName none)
  | foreign name :: _ => .error (.unsupportedType name none)
  | v :: _ => .error (.unsupportedType v.typeName (some .flatCollections))

/-- A mapping has its keys for members. -/
def members : Value → List Value
  | collection _ members => members
  | mapping entries => entries.map Prod.fst
  | _ => []

/-- The literals of the members in parentheses, or the error of the first that has none; an empty
collection stands for no value at all. -/
def collectionLiteral (d : Dialect) (members : List Value) : Except Error String := do
  let scalars ← scalarMembers members
  if scalars.isEmpty then return "(NULL)"
  let items ← scalars.mapM d.literal
  return "(" ++ ", ".intercalate items ++ ")"

/-- The text that stands for a value that is no node. -/
def literal (d : Dialect) : Value → Except Error String
  | scalar s => d.literal s
  | collection _ members => collectionLiteral d members
  | mapping entries => collectionLiteral d (entries.map Prod.fst)
  | v => .error (.unsupportedType v.typeName none)

end SqlRender.Value
