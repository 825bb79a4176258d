import SqlRender.Session.Connection

namespace SqlRender.Session

/-- How statements are rendered before they are sent, and the reader that their text is checked
with, if it is checked at all. -/
structure Config where
  dialect : Dialect
  inlining : Bool
  reader : Option Sql.Reader := none

/-- A row as pairs of column name and value. -/
abbrev Row := List (String × Value)

/-- A repeated name keeps its first place and takes the new value. -/
def Row.insert (name : String) (v : Value) : Row → Row
  | [] => [(name, v)]
  | (n, w) :: rest => if n = name then (n, v) :: rest else (n, w) :: Row.insert name v rest

/-- A row must be as wide as the list of names. -/
def Row.ofNames? (names : List String) (values : List Value) : Except Failure Row :=
  if values.length < names.length then .error (.rowWidth false)
  else if names.length < values.length then .error (.rowWidth true)
  else .ok ((names.zip values).foldl (fun row (n, v) ↦ row.insert n v) [])

def rowsOf (names : List String) : List (List Value) → Except Failure (List Row)
  | [] => .ok []
  | values :: rest => do
    let row ← Row.ofNames? names values
    let rows ← rowsOf names rest
    return row :: rows

/-- What can be done with a statement, alone or in a transaction. -/
inductive DataOp where
  | exec (n : Node)
  | load (n : Node)
  | loadOne (n : Node)
  | loadValue (n : Node)
  | render (n : Node)

inductive Result where
  | executed (rowCount : Int) (lastRowId : Option Value)
  | rows (rows : List Row)
  | row (row : Row)
  | value (v : Value)
  | rendered (r : Rendered)
  | began
  | nothing
  | isDone (done : Bool)
  | block (results : List Result)

variable {σ α : Type} (db : Database σ) (config : Config)

def warnings (r : Rendered) : Except Failure (List Warning) :=
  match config.reader with
  | none => .ok []
  | some reader =>
    match Sql.check reader r.sql config.dialect.name with
    | .ok problems => .ok (problems.map fun p ↦ ⟨config.dialect.name, p⟩)
    | .error text => .error (.reader text)

/-- The rendered statement with the findings on its text, which do not stop it. -/
def prepare (n : Node) : Except Failure (Rendered × List Warning) :=
  match n.render config.dialect config.inlining with
  | .error e => .error (.statement e)
  | .ok r => (warnings config r).map (r, ·)

def render (n : Node) : Run σ Rendered := do
  let (r, ws) ← Run.ofExcept (prepare config n)
  Run.warn ws
  return r

/-- Renders and executes, unless the transaction that the statement belongs to is done. -/
def execute (isDone : Bool) (n : Node) : Run σ Reply := do
  if isDone then Run.raise .transactionDone
  let r ← render config n
  Run.call db (.execute r.sql (if r.params.isEmpty then none else some r.params))

/-- A cursor is opened for the body and closed after it. -/
def withCursor (body : Run σ α) : Run σ α := do
  let _ ← Run.call db .cursor
  Run.ensure body (do let _ ← Run.call db .close)

def exec (isDone : Bool) (n : Node) : Run σ Result :=
  withCursor db do
    let reply ← execute db config isDone n
    return .executed reply.rowCount reply.lastRowId

def load (isDone : Bool) (n : Node) : Run σ (List Row) :=
  withCursor db do
    let reply ← execute db config isDone n
    let fetched ← Run.call db .fetchall
    Run.ofExcept (rowsOf reply.columns fetched.rows)

def loadOne (isDone : Bool) (n : Node) : Run σ Row := do
  match ← load db config isDone n with
  | [] => Run.raise .notFound
  | row :: _ => return row

def loadValue (isDone : Bool) (n : Node) : Run σ Value := do
  match ← loadOne db config isDone n with
  | [] => Run.raise .noColumns
  | (_, v) :: _ => return v

def runData (isDone : Bool) : DataOp → Run σ Result
  | .exec n => exec db config isDone n
  | .load n => do return .rows (← load db config isDone n)
  | .loadOne n => do return .row (← loadOne db config isDone n)
  | .loadValue n => do return .value (← loadValue db config isDone n)
  | .render n => do return .rendered (← render config n)

end SqlRender.Session
