import SqlRender.Api.Statement
import SqlRender.Statement.Delete
import SqlRender.Statement.Select

namespace SqlRender.Api

/-- Columns are given by their names. -/
def named (names : List String) : List Value := names.map fun name ↦ .node (.ident name)

def JoinRequest.step (r : JoinRequest) : Select.Step :=
  .join r.kind (.scalar (.text r.table)) (.node r.on.node) [] (r.aliasName.getD "")

def OrderRequest.step (r : OrderRequest) : Select.Step :=
  .orderBy (.node (.ident r.column)) r.direction

/-- What is left out of a request makes no step. -/
def SelectRequest.steps (r : SelectRequest) : List Select.Step :=
  [.distinct r.distinct]
    ++ (r.source.map fun table ↦
      .source (.scalar (.text table)) (r.sourceAlias.getD "")).toList
    ++ r.joins.map JoinRequest.step
    ++ (r.condition.map fun c ↦ .filter (.node c.node) []).toList
    ++ (if r.groups.isEmpty then [] else [.groupBy (named r.groups)])
    ++ (r.having.map fun c ↦ .having (.node c.node) []).toList
    ++ r.orders.map OrderRequest.step
    ++ (r.limit.map fun n ↦ .limit (.scalar (.int n))).toList
    ++ (r.offset.map fun n ↦ .offset (.scalar (.int n))).toList

def SelectRequest.build (r : SelectRequest) : Except Error Select := do
  let start ← Select.ofColumns (named r.columns)
  start.applyAll r.steps

def InsertRequest.conflictSteps (r : InsertRequest) : List Insert.Step :=
  if r.conflictTarget.isSome || !r.updated.isEmpty || r.doNothing then
    [.onConflict (r.conflictTarget.getD []),
      if r.doNothing then .doNothing else .doUpdate r.updated]
  else []

def InsertRequest.steps (r : InsertRequest) : List Insert.Step :=
  [.columns r.columns] ++ r.rows.map .values ++ r.conflictSteps ++ [.returning r.returning]

def InsertRequest.build (r : InsertRequest) : Except Error Insert :=
  Insert.applyAll { table := r.table } r.steps

def UpdateRequest.steps (r : UpdateRequest) : List Update.Step :=
  [.setAll r.assignments]
    ++ (r.condition.map fun c ↦ .filter (.node c.node) []).toList
    ++ [.returning r.returning]

def UpdateRequest.build (r : UpdateRequest) : Except Error Update :=
  Update.applyAll { table := r.table } r.steps

def DeleteRequest.steps (r : DeleteRequest) : List Delete.Step :=
  (r.condition.map fun c ↦ .filter (.node c.node) []).toList ++ [.returning r.returning]

def DeleteRequest.build (r : DeleteRequest) : Except Error Delete :=
  Delete.applyAll { table := r.table } r.steps

/-- Builds the statement of a request step by step, as a program would. -/
def StatementRequest.build : StatementRequest → Except Error Node
  | .select r => r.build.map .select
  | .insert r => r.build.map .insert
  | .update r => r.build.map .update
  | .delete r => r.build.map .delete

end SqlRender.Api
