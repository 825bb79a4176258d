import SqlRender.Node.Basic
import SqlRender.Schema.Coercion

namespace SqlRender

/-- A JSON value as a value of a statement. -/
def Value.ofJson : Json → Value
  | .null => .scalar .null
  | .bool b => .scalar (.bool b)
  | .int n => .scalar (.int n)
  | .float x => .scalar (.float x)
  | .text s => .scalar (.text s)
  | .array items => .collection .list (ofItems items)
  | .object members => .mapping (ofMembers members)
where
  ofItems : List Json → List Value
    | [] => []
    | j :: rest => ofJson j :: ofItems rest
  ofMembers : List (String × Json) → List (Value × Value)
    | [] => []
    | (name, j) :: rest => (.scalar (.text name), ofJson j) :: ofMembers rest

namespace Api

open Schema (Checked required defaulted nullable)

inductive Condition where
  | compare (op : CompareOp) (column : String) (value : Value)
  | combine (op : BoolOp) (conditions : List Condition)

structure JoinRequest where
  kind : JoinKind
  table : String
  aliasName : Option String
  on : Condition

structure OrderRequest where
  column : String
  direction : Option Direction

structure SelectRequest where
  columns : List String
  distinct : Bool
  source : Option String
  sourceAlias : Option String
  joins : List JoinRequest
  condition : Option Condition
  groups : List String
  having : Option Condition
  orders : List OrderRequest
  limit : Option Nat
  offset : Option Nat

structure InsertRequest where
  table : String
  columns : List String
  rows : List (List Value)
  conflictTarget : Option (List String)
  updated : List String
  doNothing : Bool
  returning : List String

structure UpdateRequest where
  table : String
  assignments : List (String × Value)
  condition : Option Condition
  returning : List String

structure DeleteRequest where
  table : String
  condition : Option Condition
  returning : List String

inductive StatementRequest where
  | select (r : SelectRequest)
  | insert (r : InsertRequest)
  | update (r : UpdateRequest)
  | delete (r : DeleteRequest)

structure RenderRequest where
  dialect : Option String
  interpolate : Option Bool
  validate : Option Bool
  pretty : Option Bool
  statement : StatementRequest

def compareWords : List (String × CompareOp) :=
  [("eq", .eq), ("neq", .neq), ("gt", .gt), ("gte", .gte), ("lt", .lt), ("lte", .lte),
   ("like", .like), ("not_like", .notLike)]

def boolWords : List (String × BoolOp) := [("and", .and), ("or", .or)]

def operatorWords : List (String × (CompareOp ⊕ BoolOp)) :=
  compareWords.map (fun (word, op) ↦ (word, .inl op))
    ++ boolWords.map (fun (word, op) ↦ (word, .inr op))

def joinWords : List (String × JoinKind) :=
  [("INNER", .inner), ("LEFT", .left), ("RIGHT", .right), ("FULL", .full)]

def directionWords : List (String × Direction) := [("asc", .ascending), ("desc", .descending)]

variable {α : Type}

/-- The members of an object. -/
def members : Json → Checked (List (String × Json))
  | .object ms => .ok ms
  | j => .fail .modelAttributesType j

/-- Reads an object by the word that one of its members tags it with; its problems are those of
the case under that tag. -/
def tagged (tag : String) (ms : List (String × Json))
    (case? : String → Option (Checked α)) : Checked α :=
  match ms.lookup tag with
  | none => .fail .unionTagNotFound (.object ms)
  | some (.text word) =>
    match case? word with
    | some result => result.under (.name word)
    | none => .fail .unionTagInvalid (.object ms)
  | some _ => .fail .unionTagInvalid (.object ms)

def texts : Json → Checked (List String) := Schema.list Schema.text

def anyValue (j : Json) : Checked Value := .ok (Value.ofJson j)

def Condition.ofComparison (op : CompareOp) (ms : List (String × Json)) : Checked Condition :=
  Condition.compare op
    <$> required ms "column" Schema.text
    <*> defaulted ms "value" (.scalar .null) anyValue

/-- Conditions are nested no deeper than this. -/
def deepestCondition : Nat := 254

mutual

/-- A condition is tagged by its operator. Conditions may be nested in it to the depth of `room`,
this one counted. -/
def Condition.read (room : Nat) : Json → Checked Condition
  | .object ms =>
    tagged "op" ms fun word ↦
      (operatorWords.lookup word).map fun operator ↦
        match room, operator with
        | 0, _ => .fail .recursionDepthExceeded (.object ms)
        | _ + 1, .inl op => Condition.ofComparison op ms
        | room + 1, .inr op => Condition.combine op <$> Condition.nested room ms
  | j => .fail .modelAttributesType j

/-- The conditions among the members of an object, none if they are left out. -/
def Condition.nested (room : Nat) : List (String × Json) → Checked (List Condition)
  | [] => .ok []
  | (name, j) :: rest =>
    if name = "conditions" then (Condition.list room j).under (.name name)
    else Condition.nested room rest

def Condition.list (room : Nat) : Json → Checked (List Condition)
  | .array items => Condition.items room 0 items
  | j => .fail .listType j

def Condition.items (room index : Nat) : List Json → Checked (List Condition)
  | [] => .ok []
  | j :: rest =>
    List.cons
      <$> (Condition.read room j).under (.index index)
      <*> Condition.items room (index + 1) rest

end

def Condition.ofJson (j : Json) : Checked Condition := Condition.read deepestCondition j

def JoinRequest.ofJson (j : Json) : Checked JoinRequest :=
  (members j).andThen fun ms ↦
    JoinRequest.mk
      <$> defaulted ms "type" .inner (Schema.word .enum joinWords)
      <*> required ms "table" Schema.text
      <*> defaulted ms "alias" none (nullable Schema.text)
      <*> required ms "on" Condition.ofJson

def OrderRequest.ofJson (j : Json) : Checked OrderRequest :=
  (members j).andThen fun ms ↦
    OrderRequest.mk
      <$> required ms "column" Schema.text
      <*> defaulted ms "direction" none (nullable (Schema.word .literalError directionWords))

/-- The source has two names, of which the first one that is given counts. -/
def sourceName (ms : List (String × Json)) : String :=
  if (ms.lookup "from").isSome then "from" else "from_"

def SelectRequest.ofMembers (ms : List (String × Json)) : Checked SelectRequest :=
  SelectRequest.mk
    <$> defaulted ms "columns" ["*"] texts
    <*> defaulted ms "distinct" false Schema.bool
    <*> defaulted ms (sourceName ms) none (nullable Schema.text)
    <*> defaulted ms "from_alias" none (nullable Schema.text)
    <*> defaulted ms "joins" [] (Schema.list JoinRequest.ofJson)
    <*> defaulted ms "where" none (nullable Condition.ofJson)
    <*> defaulted ms "group_by" [] texts
    <*> defaulted ms "having" none (nullable Condition.ofJson)
    <*> defaulted ms "order_by" [] (Schema.list OrderRequest.ofJson)
    <*> defaulted ms "limit" none (nullable Schema.count)
    <*> defaulted ms "offset" none (nullable Schema.count)

def InsertRequest.ofMembers (ms : List (String × Json)) : Checked InsertRequest :=
  InsertRequest.mk
    <$> required ms "table" Schema.text
    <*> defaulted ms "columns" [] texts
    <*> defaulted ms "values" [] (Schema.list (Schema.list anyValue))
    <*> defaulted ms "on_conflict" none (nullable texts)
    <*> defaulted ms "do_update" [] texts
    <*> defaulted ms "do_nothing" false Schema.bool
    <*> defaulted ms "returning" [] texts

def valuesByName : Json → Checked (List (String × Value))
  | .object ms => .ok (ms.map fun (name, j) ↦ (name, Value.ofJson j))
  | j => .fail .dictType j

def UpdateRequest.ofMembers (ms : List (String × Json)) : Checked UpdateRequest :=
  UpdateRequest.mk
    <$> required ms "table" Schema.text
    <*> defaulted ms "set" [] valuesByName
    <*> defaulted ms "where" none (nullable Condition.ofJson)
    <*> defaulted ms "returning" [] texts

def DeleteRequest.ofMembers (ms : List (String × Json)) : Checked DeleteRequest :=
  DeleteRequest.mk
    <$> required ms "table" Schema.text
    <*> defaulted ms "where" none (nullable Condition.ofJson)
    <*> defaulted ms "returning" [] texts

/-- A statement is tagged by its kind. -/
def StatementRequest.ofJson (j : Json) : Checked StatementRequest :=
  (members j).andThen fun ms ↦
    tagged "kind" ms fun
      | "select" => some (.select <$> SelectRequest.ofMembers ms)
      | "insert" => some (.insert <$> InsertRequest.ofMembers ms)
      | "update" => some (.update <$> UpdateRequest.ofMembers ms)
      | "delete" => some (.delete <$> DeleteRequest.ofMembers ms)
      | _ => none

def RenderRequest.ofJson (j : Json) : Checked RenderRequest :=
  (members j).andThen fun ms ↦
    RenderRequest.mk
      <$> defaulted ms "dialect" none (nullable Schema.text)
      <*> defaulted ms "interpolate" none (nullable Schema.bool)
      <*> defaulted ms "validate_sql" none (nullable Schema.bool)
      <*> defaulted ms "pretty" none (nullable Schema.bool)
      <*> required ms "statement" StatementRequest.ofJson

end Api

end SqlRender
