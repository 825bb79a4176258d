import SqlRender.Node.Basic
import SqlRender.Text.Quoted

namespace SqlRender

inductive Feature where
  | fullJoin
  | returning
  | offsetWithoutLimit
  | upsert
  | upsertDoNothing
  | transactions
  deriving DecidableEq

def Feature.text : Feature → String
  | fullJoin => "FULL JOIN"
  | returning => "RETURNING"
  | offsetWithoutLimit => "OFFSET without LIMIT"
  | upsert => "upsert"
  | upsertDoNothing => "upsert DO NOTHING"
  | transactions => "transactions"

/-- Where a query may stand as a source. -/
inductive SourcePlace where
  | fromClause
  | join
  | aliased
  deriving DecidableEq

def SourcePlace.text : SourcePlace → String
  | fromClause => "FROM"
  | join => "JOIN"
  | aliased => "aliased"

inductive CountClause where
  | limit
  | offset
  deriving DecidableEq

def CountClause.text : CountClause → String
  | limit => "LIMIT"
  | offset => "OFFSET"

inductive TableStatement where
  | insert
  | update
  | delete
  deriving DecidableEq

def TableStatement.text : TableStatement → String
  | insert => "INSERT"
  | update => "UPDATE"
  | delete => "DELETE"

/-- What the count of values is compared with. -/
inductive CountedPlace where
  | placeholders
  | insertRow
  deriving DecidableEq

def CountedPlace.text : CountedPlace → String
  | placeholders => "placeholders"
  | insertRow => "INSERT row"

/-- The rule that a value's type breaks. -/
inductive TypeRule where
  | columns
  | sources
  | conditions
  | conditionArguments
  | flatCollections
  | singleValue (op : CompareOp)
  | records
  deriving DecidableEq

def TypeRule.text : TypeRule → String
  | columns => "columns must be SQL strings or renderable nodes"
  | sources => "sources must be table names or renderable nodes"
  | conditions => "conditions must be SQL strings or renderable nodes"
  | conditionArguments => "arguments are only accepted with a SQL string condition"
  | flatCollections => "nested collections are not supported"
  | singleValue op => s!"operator {op.sql} takes a single value"
  | records => "records must be mappings, dataclasses or pydantic models"

/-- Why a statement cannot be built or rendered. -/
inductive Error where
  | missingFrom (dialect : String)
  | missingTable (statement : TableStatement)
  | noAssignments (table : String)
  | missingMembers (kind : UnionKind)
  | missingAlias (place : SourcePlace)
  | missingValues (table : String)
  | missingConflictTarget (dialect : String)
  | rowsAndQuery
  | badCount (clause : CountClause) (shown : String)
  | alreadyAliased (aliasName : String)
  | missingColumns (columns : List String)
  | inlineParameter
  | argumentCount (expected got : Nat) (place : CountedPlace)
  | unsupportedType (typeName : String) (rule : Option TypeRule)
  | unsupportedFeature (feature : Feature) (dialect : String)
  | forbiddenCharacter (dialect : String) (c : Char)
  | nonFinite (shown : String)
  | dateOutOfRange
  | longNumber
  deriving DecidableEq

namespace Error

/-- The word that names the kind of an error. A date outside the calendar and a whole number that
is too long have none. -/
def code? : Error → Option String
  | missingFrom _ => some "missing_from"
  | missingTable _ => some "missing_table"
  | noAssignments _ => some "no_assignments"
  | missingMembers _ => some "missing_members"
  | missingAlias _ => some "missing_alias"
  | missingValues _ => some "missing_values"
  | missingConflictTarget _ => some "missing_conflict_target"
  | rowsAndQuery => some "structural_error"
  | badCount .. => some "argument_error"
  | alreadyAliased _ => some "argument_error"
  | missingColumns _ => some "argument_error"
  | inlineParameter => some "argument_error"
  | argumentCount .. => some "argument_count_mismatch"
  | unsupportedType .. => some "unsupported_type"
  | unsupportedFeature .. => some "unsupported_feature"
  | forbiddenCharacter .. => some "escape_error"
  | nonFinite _ => some "escape_error"
  | dateOutOfRange => none
  | longNumber => none

def message : Error → String
  | missingFrom dialect => s!"SELECT has no FROM source and dialect '{dialect}' requires one"
  | missingTable statement => s!"{statement.text} requires a table"
  | noAssignments table => s!"UPDATE of '{table}' has no assignments"
  | missingMembers kind => s!"{kind.sql} has no member queries"
  | missingAlias place => s!"Subquery used as {place.text} source requires an alias"
  | missingValues table => s!"INSERT into '{table}' has no rows or SELECT source"
  | missingConflictTarget dialect =>
    s!"Upsert on dialect '{dialect}' requires conflict target columns"
  | rowsAndQuery => "INSERT cannot combine VALUES rows with a SELECT source"
  | badCount clause shown => s!"{clause.text} must be a non-negative integer, got {shown}"
  | alreadyAliased aliasName => s!"Source is already aliased as '{aliasName}'"
  | missingColumns columns =>
    "Record has no value for columns: " ++ ", ".intercalate columns
  | inlineParameter => "Interpolating buffer cannot hold parameters"
  | argumentCount expected got place => s!"Expected {expected} values for {place.text}, got {got}"
  | unsupportedType typeName none => s!"Cannot render value of type '{typeName}'"
  | unsupportedType typeName (some rule) =>
    s!"Cannot render value of type '{typeName}': {rule.text}"
  | unsupportedFeature feature dialect => s!"Dialect '{dialect}' does not support {feature.text}"
  | forbiddenCharacter dialect c =>
    let shown := Text.quoted (String.ofList [c])
    s!"Dialect '{dialect}' cannot hold character {shown} in a string literal"
  | nonFinite shown => s!"Cannot render non-finite number {shown} as a SQL literal"
  | dateOutOfRange => "date value out of range"
  | longNumber =>
    s!"Exceeds the limit ({Digits.longest} digits) for integer string conversion; "
      ++ "use sys.set_int_max_str_digits() to increase the limit"

end Error

end SqlRender
