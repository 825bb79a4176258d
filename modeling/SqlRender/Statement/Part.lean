import SqlRender.Error
import SqlRender.Node.Display
import SqlRender.Node.LongNumber

namespace SqlRender.Value

/-- A text names or spells a part of a statement, a node is one. -/
def asPart (ofText : String → Node) (rule : TypeRule) : Value → Except Error Node
  | scalar (.text s) => .ok (ofText s)
  | node n => .ok n
  | v => .error (.unsupportedType v.typeName (some rule))

/-- A column is SQL text that is written as it is, or a node. -/
def asColumn (v : Value) : Except Error Node := v.asPart .verbatim .columns

/-- A source is the name of a table, or a node; what has an alias takes no other. -/
def asSource (v : Value) (aliasName : String) : Except Error Node := do
  let source ← v.asPart .ident .sources
  match source with
  | .aliased _ inner => if aliasName = "" then .ok source else .error (.alreadyAliased inner)
  | _ => .ok source

/-- A condition is a template with its arguments, or a node without any. -/
def asCondition (v : Value) (args : List Value) : Except Error Node := do
  let condition ← v.asPart (.template · args) .conditions
  match v with
  | node _ =>
    if args.isEmpty then .ok condition
    else .error (.unsupportedType CollectionKind.tuple.name (some .conditionArguments))
  | _ => .ok condition

/-- A count is a whole number that is not negative; truth values are no numbers here. Any other
value is quoted, if it can be. -/
def asCount (v : Value) (clause : CountClause) : Except Error Nat :=
  match v with
  | scalar (.int (.ofNat n)) => .ok n
  | _ => if v.hasLongNumber then .error .longNumber else .error (.badCount clause v.display)

def asColumns : List Value → Except Error (List Node)
  | [] => .ok []
  | v :: rest => do
    let column ← v.asColumn
    let columns ← asColumns rest
    return column :: columns

end SqlRender.Value
