import SqlRender.Session.Data

namespace SqlRender.Session

/-- What can be done with a transaction that was begun. -/
inductive TransactionOp where
  | data (op : DataOp)
  | commit
  | rollback
  | rollbackUnlessCommitted
  /-- A block around the transaction ends. -/
  | leave (isFailing : Bool)
  | isDone
  /-- The caller fails by itself. -/
  | raise (kind text : String)

/-- An operation that leaves the transaction done or open, also where it fails. -/
abbrev TransactionRun (σ α : Type) := Connection σ → (Except Failure α × Bool) × Connection σ

variable {σ : Type} (db : Database σ) (config : Config)

/-- Commits or rolls back: done only if the database says so. -/
def finish (isDone : Bool) (k : Call) : TransactionRun σ Result := fun c ↦
  if isDone then ((.error .transactionDone, true), c)
  else
    match Run.call db k c with
    | (.ok _, c) => ((.ok .nothing, true), c)
    | (.error e, c) => ((.error e, false), c)

/-- Nothing remains to be done where the transaction is done. -/
def finishUnlessDone (isDone : Bool) (k : Call) : TransactionRun σ Result := fun c ↦
  if isDone then ((.ok .nothing, true), c) else finish db isDone k c

/-- What a block leaves open it commits, or rolls back where it fails. -/
def leave (isDone isFailing : Bool) : TransactionRun σ Result :=
  finishUnlessDone db isDone (if isFailing then .rollback else .commit)

def runTransaction (isDone : Bool) : TransactionOp → TransactionRun σ Result
  | .data op, c =>
    let (result, c) := runData db config isDone op c
    ((result, isDone), c)
  | .commit, c => finish db isDone .commit c
  | .rollback, c => finish db isDone .rollback c
  | .rollbackUnlessCommitted, c => finishUnlessDone db isDone .rollback c
  | .leave isFailing, c => leave db isDone isFailing c
  | .isDone, c => ((.ok (.isDone isDone), isDone), c)
  | .raise kind text, c => ((.error (.caller kind text), isDone), c)

/-- The operations in order up to the first that fails. -/
def runAll (isDone : Bool) : List TransactionOp → TransactionRun σ (List Result)
  | [], c => ((.ok [], isDone), c)
  | op :: rest, c =>
    match runTransaction db config isDone op c with
    | ((.error e, isDone), c) => ((.error e, isDone), c)
    | ((.ok result, isDone), c) =>
      match runAll isDone rest c with
      | ((.error e, isDone), c) => ((.error e, isDone), c)
      | ((.ok results, isDone), c) => ((.ok (result :: results), isDone), c)

/-- A block ends its transaction: it commits after its operations and rolls back where one of them
fails. A failure at the end takes the place of the result. -/
def runBlock (isDone : Bool) (ops : List TransactionOp) : TransactionRun σ Result := fun c ↦
  match runAll db config isDone ops c with
  | ((.ok results, isDone), c) =>
    match leave db isDone false c with
    | ((.ok _, isDone), c) => ((.ok (.block results), isDone), c)
    | ((.error e, isDone), c) => ((.error e, isDone), c)
  | ((.error e, isDone), c) =>
    match leave db isDone true c with
    | ((.ok _, isDone), c) => ((.error e, isDone), c)
    | ((.error e', isDone), c) => ((.error e', isDone), c)

end SqlRender.Session
