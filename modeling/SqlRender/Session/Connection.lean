import SqlRender.Buffer
import SqlRender.Sql.Tools

namespace SqlRender.Session

/-- What is asked of a connection or of the cursor opened last. -/
inductive Call where
  | cursor
  /-- The parameters are left out where there are none. -/
  | execute (sql : String) (params : Option (List Value))
  | fetchall
  | close
  | commit
  | rollback

/-- What a call that succeeds gives back, as far as its kind gives anything. -/
structure Reply where
  columns : List String := []
  rows : List (List Value) := []
  rowCount : Int := -1
  lastRowId : Option Value := none

/-- A database whose state is a `σ`: the outcome of each call, a reply or the text of a failure. -/
structure Database (σ : Type) where
  respond : Call → σ → Except String Reply × σ

/-- A finding of a check of rendered text. -/
structure Warning where
  dialect : String
  problem : Sql.Problem

/-- A call that came back, with a reply or with a failure. -/
structure Event where
  call : Call
  isOk : Bool

/-- A database in use: its state, and all events and warnings so far. -/
structure Connection (σ : Type) where
  state : σ
  events : List Event := []
  warnings : List Warning := []

def Connection.calls {σ : Type} (c : Connection σ) : List Call := c.events.map Event.call

/-- Why an operation ends without a result. -/
inductive Failure where
  | statement (e : Error)
  /-- The reader of rendered text fails. -/
  | reader (text : String)
  | database (text : String)
  | rowWidth (isLonger : Bool)
  | noColumns
  | notFound
  | transactionDone
  | noTransaction (name : String)
  /-- An error of the caller's own. -/
  | caller (kind text : String)

def Failure.message : Failure → String
  | statement e => e.message
  | reader text => text
  | database text => text
  | rowWidth isLonger =>
    let relation := if isLonger then "longer" else "shorter"
    s!"zip() argument 2 is {relation} than argument 1"
  | noColumns => ""
  | notFound => "No rows returned"
  | transactionDone => "Transaction has already been committed or rolled back"
  | noTransaction name => s!"undefined: {name}"
  | caller _ text => text

/-- An operation on a connection, which goes on in the state that it leaves even where it fails. -/
def Run (σ α : Type) : Type := Connection σ → Except Failure α × Connection σ

namespace Run

variable {σ α β : Type}

def pure (a : α) : Run σ α := fun c ↦ (.ok a, c)

def raise (e : Failure) : Run σ α := fun c ↦ (.error e, c)

def bind (m : Run σ α) (f : α → Run σ β) : Run σ β := fun c ↦
  match m c with
  | (.ok a, c) => f a c
  | (.error e, c) => (.error e, c)

instance : Monad (Run σ) where
  pure := pure
  bind := bind

def ofExcept : Except Failure α → Run σ α
  | .ok a => pure a
  | .error e => raise e

/-- The cleanup runs whether the body fails or not, and its own failure is the one that counts. -/
def ensure (body : Run σ α) (cleanup : Run σ Unit) : Run σ α := fun c ↦
  let (result, c) := body c
  match cleanup c with
  | (.ok (), c) => (result, c)
  | (.error e, c) => (.error e, c)

def warn (ws : List Warning) : Run σ Unit := fun c ↦
  (.ok (), { c with warnings := c.warnings ++ ws })

/-- Every call is recorded, whatever comes of it. -/
def call (db : Database σ) (k : Call) : Run σ Reply := fun c ↦
  match db.respond k c.state with
  | (.ok reply, state) => (.ok reply, { c with state, events := c.events ++ [⟨k, true⟩] })
  | (.error text, state) =>
    (.error (.database text), { c with state, events := c.events ++ [⟨k, false⟩] })

end Run

end SqlRender.Session
