import SqlRender.Buffer.Writing
import SqlRender.Node.Comparison

namespace SqlRender

/-- A member of a union with an order or a bound of its own, and a union in a union, are kept
apart from their neighbours. -/
def Node.isGrouped : Node → Bool
  | select s => !s.orders.isEmpty || s.limit.isSome || s.offset.isSome
  | union .. => true
  | _ => false

/-- A comparison, with its operand where one follows. -/
def Writing.comparison (d : Dialect) (column : String) (op : CompareOp) (v : Value)
    (w : Writing Unit) : Writing Unit := do
  let opening ← Opening.ofComparison d column op v
  text opening.sql
  (if opening.hasOperand then w else pure ())

mutual

def Value.write (d : Dialect) : Value → Writing Unit
  | .node n => Writing.operand n.isQuery (n.write d)
  | .scalar s => Writing.value d (.scalar s)
  | .collection kind members => Writing.value d (.collection kind members)
  | .mapping entries => Writing.value d (.mapping entries)
  | .foreign name => Writing.value d (.foreign name)

def Value.writers (d : Dialect) : List Value → List (Writing Unit)
  | [] => []
  | v :: rest => v.write d :: Value.writers d rest

/-- Writes a node for a dialect. -/
def Node.write (d : Dialect) : Node → Writing Unit
  | .verbatim sql => Writing.text sql
  | .template sql args => Writing.template d sql (Value.writers d args)
  | .ident name => Writing.text (d.quote name)
  | .compare column op value => Writing.comparison d column op value (value.write d)
  | .combine op items => Writing.combination d op (Node.writers d items)
  | .aliased source aliasName =>
    Writing.source d .aliased source.isQuery aliasName (source.write d)
  | .select body => body.write d
  | .union kind members => do
    Writing.require (!members.isEmpty) (.missingMembers kind)
    Writing.join (" " ++ kind.sql ++ " ") (Node.memberWriters d 1 members)
  | .insert body => body.write d
  | .update body => body.write d
  | .delete body => body.write d

def Node.writers (d : Dialect) : List Node → List (Writing Unit)
  | [] => []
  | n :: rest => n.write d :: Node.writers d rest

def Node.memberWriters (d : Dialect) (position : Nat) : List Node → List (Writing Unit)
  | [] => []
  | n :: rest =>
    Writing.member d position n.isGrouped (n.write d) :: Node.memberWriters d (position + 1) rest

/-- Columns and groups. -/
def Node.operandWriters (d : Dialect) : List Node → List (Writing Unit)
  | [] => []
  | n :: rest => Writing.operand n.isQuery (n.write d) :: Node.operandWriters d rest

def Select.write (d : Dialect) : Select → Writing Unit
  | ⟨columns, isDistinct, source, sourceAlias, joins, conditions, groups, having, orders, limit,
      offset⟩ => do
    Writing.require (source.isSome || d.capabilities.sourcelessSelect) (.missingFrom d.name)
    Writing.require (offset.isNone || limit.isSome || d.capabilities.offsetWithoutLimit)
      (.unsupportedFeature .offsetWithoutLimit d.name)
    Writing.text (if isDistinct then "SELECT DISTINCT " else "SELECT ")
    (if columns.isEmpty then Writing.text "*"
      else Writing.join ", " (Node.operandWriters d columns))
    Select.writeSource d sourceAlias source
    Writing.sequence (Join.writers d joins)
    Writing.conditions "WHERE" (Node.writers d conditions)
    Writing.clause " GROUP BY " (Node.operandWriters d groups)
    Writing.conditions "HAVING" (Node.writers d having)
    Writing.clause " ORDER BY " (OrderItem.writers d orders)
    Writing.count " LIMIT " limit
    Writing.count " OFFSET " offset

def Select.writeSource (d : Dialect) (aliasName : String) : Option Node → Writing Unit
  | none => pure ()
  | some n => do
    Writing.text " FROM "
    Writing.source d .fromClause n.isQuery aliasName (n.write d)

def Join.write (d : Dialect) : Join → Writing Unit
  | ⟨kind, source, aliasName, on⟩ => do
    Writing.require (kind ≠ .full || d.capabilities.fullJoin)
      (.unsupportedFeature .fullJoin d.name)
    Writing.text (" " ++ kind.sql ++ " JOIN ")
    Writing.source d .join source.isQuery aliasName (source.write d)
    Writing.text " ON "
    on.write d

def Join.writers (d : Dialect) : List Join → List (Writing Unit)
  | [] => []
  | j :: rest => j.write d :: Join.writers d rest

def OrderItem.write (d : Dialect) : OrderItem → Writing Unit
  | ⟨item, direction⟩ => do
    Writing.operand item.isQuery (item.write d)
    match direction with
    | none => pure ()
    | some direction => Writing.text (" " ++ direction.sql)

def OrderItem.writers (d : Dialect) : List OrderItem → List (Writing Unit)
  | [] => []
  | o :: rest => o.write d :: OrderItem.writers d rest

def Insert.write (d : Dialect) : Insert → Writing Unit
  | ⟨table, columnNames, rows, query, conflict, returning, _⟩ => do
    Writing.require (table ≠ "") (.missingTable .insert)
    Writing.require (!rows.isEmpty || query.isSome) (.missingValues table)
    Writing.require (rows.isEmpty || query.isNone) .rowsAndQuery
    Writing.require (conflict.isNone || d.capabilities.upsert)
      (.unsupportedFeature .upsert d.name)
    Writing.requireReturning d returning
    Writing.text ("INSERT INTO " ++ d.quote table)
    Writing.names d columnNames
    Insert.writeQuery d query
    (if query.isSome then pure ()
      else do
        Writing.text " VALUES "
        Insert.writeRows d columnNames true rows)
    Insert.writeConflict d table conflict
    Writing.returning d returning

def Insert.writeQuery (d : Dialect) : Option Node → Writing Unit
  | none => pure ()
  | some query => do
    Writing.text " "
    query.write d

/-- A row is as wide as the column list, unless there is none. -/
def Insert.writeRows (d : Dialect) (columnNames : List String) (isFirst : Bool) :
    List (List Value) → Writing Unit
  | [] => pure ()
  | row :: rest => do
    Writing.require (columnNames.isEmpty || row.length = columnNames.length)
      (.argumentCount columnNames.length row.length .insertRow)
    (if isFirst then pure () else Writing.text ", ")
    Writing.parenthesized (Writing.join ", " (Value.writers d row))
    Insert.writeRows d columnNames false rest

def Insert.writeConflict (d : Dialect) (table : String) : Option OnConflict → Writing Unit
  | none => pure ()
  | some conflict => conflict.write d table

def OnConflict.write (d : Dialect) (table : String) : OnConflict → Writing Unit
  | ⟨target, actions, ignore⟩ =>
    match d.capabilities.upsertStyle with
    | some .onDuplicateKey => do
      Writing.require (!ignore) (.unsupportedFeature .upsertDoNothing d.name)
      Writing.require (!actions.isEmpty) (.noAssignments table)
      Writing.text " ON DUPLICATE KEY UPDATE "
      Writing.join ", " (ConflictAction.writers d actions)
    | _ =>
      if ignore then do
        Writing.text " ON CONFLICT"
        Writing.names d target
        Writing.text " DO NOTHING"
      else do
        Writing.require (!target.isEmpty) (.missingConflictTarget d.name)
        Writing.require (!actions.isEmpty) (.noAssignments table)
        Writing.text " ON CONFLICT"
        Writing.names d target
        Writing.text " DO UPDATE SET "
        Writing.join ", " (ConflictAction.writers d actions)

def ConflictAction.write (d : Dialect) : ConflictAction → Writing Unit
  | .proposed column => do
    Writing.text (d.quote column ++ " = ")
    let sql ← d.proposed (d.quote column)
    Writing.text sql
  | .set column value => do
    Writing.text (d.quote column ++ " = ")
    value.write d

def ConflictAction.writers (d : Dialect) : List ConflictAction → List (Writing Unit)
  | [] => []
  | a :: rest => a.write d :: ConflictAction.writers d rest

def Assignment.write (d : Dialect) : Assignment → Writing Unit
  | ⟨column, value⟩ => do
    Writing.text (d.quote column ++ " = ")
    value.write d

def Assignment.writers (d : Dialect) : List Assignment → List (Writing Unit)
  | [] => []
  | a :: rest => a.write d :: Assignment.writers d rest

def Update.write (d : Dialect) : Update → Writing Unit
  | ⟨table, assignments, conditions, returning, _⟩ => do
    Writing.require (table ≠ "") (.missingTable .update)
    Writing.require (!assignments.isEmpty) (.noAssignments table)
    Writing.requireReturning d returning
    Writing.text ("UPDATE " ++ d.quote table ++ " SET ")
    Writing.join ", " (Assignment.writers d assignments)
    Writing.conditions "WHERE" (Node.writers d conditions)
    Writing.returning d returning

def Delete.write (d : Dialect) : Delete → Writing Unit
  | ⟨table, conditions, returning⟩ => do
    Writing.require (table ≠ "") (.missingTable .delete)
    Writing.requireReturning d returning
    Writing.text ("DELETE FROM " ++ d.quote table)
    Writing.conditions "WHERE" (Node.writers d conditions)
    Writing.returning d returning

end

end SqlRender
