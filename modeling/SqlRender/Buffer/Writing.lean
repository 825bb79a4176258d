import SqlRender.Template
import SqlRender.Value.Literal

namespace SqlRender

/-- Rendered text and, unless values are inlined into it, the parameters of its placeholders. -/
structure Buffer where
  inlining : Bool
  sql : String := ""
  params : List Value := []

/-- Writing into a buffer, which keeps what was written before an error. -/
abbrev Writing := ExceptT Error (StateM Buffer)

namespace Writing

variable {α : Type}

/-- The result and the buffer that is left. -/
def into (w : Writing α) (b : Buffer) : Except Error α × Buffer := w.run.run b

def text (sql : String) : Writing Unit := modify fun b ↦ { b with sql := b.sql ++ sql }

/-- Adds a parameter and gives its position, counted from 1. -/
def param (v : Value) : Writing Nat := do
  let b ← get
  if b.inlining then throw .inlineParameter
  set { b with params := b.params ++ [v] }
  return b.params.length + 1

def placeholder (d : Dialect) (v : Value) : Writing Unit := do
  let position ← param v
  text (d.placeholder position)

def require (condition : Bool) (e : Error) : Writing Unit :=
  if condition then pure () else throw e

def parenthesized (w : Writing Unit) : Writing Unit := do
  text "("
  w
  text ")"

def sequence : List (Writing Unit) → Writing Unit
  | [] => pure ()
  | w :: rest => do
    w
    sequence rest

/-- One after the other with a text between each two. -/
def join (separator : String) : List (Writing Unit) → Writing Unit
  | [] => pure ()
  | [w] => w
  | w :: rest => do
    w
    text separator
    join separator rest

/-- The members of a collection in parentheses; an empty one stands for no value at all. -/
def boundMembers (d : Dialect) (members : List Value) : Writing Unit := do
  let scalars ← Value.scalarMembers members
  (if scalars.isEmpty then text "(NULL)"
    else parenthesized (join ", " (scalars.map fun s ↦ placeholder d (.scalar s))))

/-- A value that is no node, with a placeholder for each scalar in it. -/
def bound (d : Dialect) : Value → Writing Unit
  | .scalar s => placeholder d (.scalar s)
  | .collection _ members => boundMembers d members
  | .mapping entries => boundMembers d (entries.map Prod.fst)
  | v => throw (.unsupportedType v.typeName none)

/-- A value that is no node, with its literal or with placeholders as the buffer takes it. -/
def value (d : Dialect) (v : Value) : Writing Unit := do
  let b ← get
  if b.inlining then
    let sql ← v.literal d
    text sql
  else bound d v

/-- One argument for each marker of a template. -/
def template (d : Dialect) (sql : String) (args : List (Writing Unit)) : Writing Unit :=
  match Template.segments d.capabilities.backslashEscapes sql with
  | [] => pure ()
  | first :: rest => do
    require (rest.length = args.length) (.argumentCount rest.length args.length .placeholders)
    text first
    sequence (List.zipWith (fun arg segment ↦ do arg; text segment) args rest)

/-- Each item stands in parentheses; no item at all leaves the neutral truth value. -/
def combination (d : Dialect) (op : BoolOp) (items : List (Writing Unit)) : Writing Unit :=
  if items.isEmpty then text (d.boolLiteral (op = .and))
  else join (" " ++ op.sql ++ " ") (items.map parenthesized)

def conditions (keyword : String) (items : List (Writing Unit)) : Writing Unit :=
  if items.isEmpty then pure ()
  else do
    text (" " ++ keyword ++ " ")
    join " AND " (items.map parenthesized)

/-- A query inside an expression stands in parentheses. -/
def operand (isQuery : Bool) (w : Writing Unit) : Writing Unit :=
  if isQuery then parenthesized w else w

def aliased (d : Dialect) (aliasName : String) : Writing Unit :=
  if aliasName = "" then pure () else text (" AS " ++ d.quote aliasName)

/-- A query as a source needs an alias. -/
def source (d : Dialect) (place : SourcePlace) (isQuery : Bool) (aliasName : String)
    (w : Writing Unit) : Writing Unit := do
  require (!isQuery || aliasName ≠ "") (.missingAlias place)
  operand isQuery w
  aliased d aliasName

/-- The `position`-th member of a union, counted from 1: in parentheses, or read from a derived
table. -/
def member (d : Dialect) (position : Nat) (isGrouped : Bool) (w : Writing Unit) : Writing Unit :=
  if !isGrouped then w
  else if d.capabilities.parenthesizedCompound then parenthesized w
  else do
    text "SELECT * FROM "
    parenthesized w
    text (" AS " ++ d.quote ("_u" ++ toString position))

def requireReturning (d : Dialect) (columns : List String) : Writing Unit :=
  require (columns.isEmpty || d.capabilities.returning) (.unsupportedFeature .returning d.name)

def returning (d : Dialect) (columns : List String) : Writing Unit :=
  if columns.isEmpty then pure () else text (" RETURNING " ++ d.quoteAll columns)

/-- A list after its keyword, or nothing for an empty list. -/
def clause (keyword : String) (items : List (Writing Unit)) : Writing Unit :=
  if items.isEmpty then pure ()
  else do
    text keyword
    join ", " items

def count (keyword : String) : Option Nat → Writing Unit
  | none => pure ()
  | some n => do
    require (!Digits.isTooLong n) .longNumber
    text (keyword ++ toString n)

/-- Names in parentheses after a blank, or nothing for no names. -/
def names (d : Dialect) (columns : List String) : Writing Unit :=
  if columns.isEmpty then pure () else text (" (" ++ d.quoteAll columns ++ ")")

end Writing

end SqlRender
