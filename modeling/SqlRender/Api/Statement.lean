import SqlRender.Api.Request
import SqlRender.Statement.Insert
import SqlRender.Statement.Update

namespace SqlRender.Api

mutual

def Condition.node : Condition → Node
  | .compare op column value => .compare column op value
  | .combine op conditions => .combine op (Condition.nodes conditions)

def Condition.nodes : List Condition → List Node
  | [] => []
  | c :: rest => c.node :: Condition.nodes rest

end

def Condition.nodeList (c : Option Condition) : List Node := (c.map Condition.node).toList

def JoinRequest.clause (r : JoinRequest) : Join :=
  ⟨r.kind, .ident r.table, r.aliasName.getD "", r.on.node⟩

def OrderRequest.item (r : OrderRequest) : OrderItem := ⟨.ident r.column, r.direction⟩

/-- An alias without a source is left out. -/
def SelectRequest.select (r : SelectRequest) : Select where
  columns := r.columns.map .ident
  isDistinct := r.distinct
  source := r.source.map .ident
  sourceAlias := if r.source.isSome then r.sourceAlias.getD "" else ""
  joins := r.joins.map JoinRequest.clause
  conditions := Condition.nodeList r.condition
  groups := r.groups.map .ident
  having := Condition.nodeList r.having
  orders := r.orders.map OrderRequest.item
  limit := r.limit
  offset := r.offset

/-- There is a conflict clause if any of its parts is given. -/
def InsertRequest.conflict (r : InsertRequest) : Option OnConflict :=
  if r.conflictTarget.isSome || !r.updated.isEmpty || r.doNothing then
    let start : OnConflict := { target := r.conflictTarget.getD [] }
    some (if r.doNothing then start.doNothing else start.addActions (r.updated.map .proposed))
  else none

def InsertRequest.insert (r : InsertRequest) : Insert where
  table := r.table
  columnNames := r.columns
  rows := r.rows
  conflict := r.conflict
  returning := r.returning

def UpdateRequest.update (r : UpdateRequest) : Update :=
  { Update.assign { table := r.table } r.assignments with
    conditions := Condition.nodeList r.condition
    returning := r.returning }

def DeleteRequest.delete (r : DeleteRequest) : Delete where
  table := r.table
  conditions := Condition.nodeList r.condition
  returning := r.returning

/-- The statement that a request describes. -/
def StatementRequest.node : StatementRequest → Node
  | .select r => .select r.select
  | .insert r => .insert r.insert
  | .update r => .update r.update
  | .delete r => .delete r.delete

end SqlRender.Api
