import SqlRender.Session.Transaction

namespace SqlRender.Session

/-- What can be done with a session. -/
inductive Step (σ : Type) where
  | data (op : DataOp)
  | begin (name : String)
  | transaction (name : String) (op : TransactionOp)
  | block (name : String) (ops : List TransactionOp)
  /-- Something outside of the session changes the database. -/
  | outside (change : σ → σ)

/-- A session: its connection, and whether each transaction that it began is done, the last one
begun first. -/
structure State (σ : Type) where
  connection : Connection σ
  transactions : List (String × Bool) := []

namespace State

variable {σ : Type} (db : Database σ) (config : Config)

def setDone (name : String) (isDone : Bool) : List (String × Bool) → List (String × Bool)
  | [] => []
  | (n, done) :: rest =>
    if n = name then (n, isDone) :: rest else (n, done) :: setDone name isDone rest

/-- Outside of a transaction every executed statement is committed at once. -/
def runOwn (op : DataOp) : Run σ Result := do
  let result ← runData db config false op
  match op with
  | .exec _ => let _ ← Run.call db .commit
  | _ => pure ()
  return result

def runOn (name : String) (run : Bool → TransactionRun σ Result) (s : State σ) :
    Except Failure Result × State σ :=
  match s.transactions.lookup name with
  | none => (.error (.noTransaction name), s)
  | some isDone =>
    let ((result, isDone), connection) := run isDone s.connection
    (result, ⟨connection, setDone name isDone s.transactions⟩)

def step (s : State σ) : Step σ → Except Failure Result × State σ
  | .data op =>
    let (result, connection) := runOwn db config op s.connection
    (result, { s with connection })
  | .begin name =>
    if config.dialect.capabilities.transactions then
      (.ok .began, { s with transactions := (name, false) :: s.transactions })
    else
      (.error (.statement (.unsupportedFeature .transactions config.dialect.name)), s)
  | .transaction name op => s.runOn name fun isDone ↦ runTransaction db config isDone op
  | .block name ops => s.runOn name fun isDone ↦ runBlock db config isDone ops
  | .outside change =>
    (.ok .nothing, { s with connection.state := change s.connection.state })

end State

/-- A database that answers executes by the replies of a script, in order. -/
structure Script where
  /-- A reply, or the text of a failure. -/
  replies : List (Except String Reply) := []
  last : Reply := {}
  commitFailure : Option String := none
  rollbackFailure : Option String := none

namespace Script

def outcome (failure : Option String) : Except String Reply :=
  match failure with
  | none => .ok {}
  | some text => .error text

/-- After the last reply of the script every execute succeeds without rows. -/
def respond : Call → Script → Except String Reply × Script
  | .cursor, s => (.ok {}, { s with last := {} })
  | .execute .., s =>
    match s.replies with
    | [] => (.ok {}, { s with last := {} })
    | .error text :: rest => (.error text, { s with replies := rest })
    | .ok reply :: rest => (.ok reply, { s with replies := rest, last := reply })
  | .fetchall, s => (.ok s.last, s)
  | .close, s => (.ok {}, s)
  | .commit, s => (outcome s.commitFailure, s)
  | .rollback, s => (outcome s.rollbackFailure, s)

def database : Database Script := ⟨respond⟩

end Script

end SqlRender.Session
