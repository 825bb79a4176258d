import SqlRender.Proofs.Node.Child

namespace SqlRender

/-- Every text is replaced by the empty one. -/
def Scalar.masked : Scalar → Scalar
  | text _ => text ""
  | s => s

mutual

/-- The texts in a value are masked, also those of the nodes in it. -/
def Value.masked : Value → Value
  | .scalar s => .scalar s.masked
  | .collection kind members => .collection kind (Value.maskedList members)
  | .mapping entries => .mapping (Value.maskedEntries entries)
  | .foreign name => .foreign name
  | .node n => .node n.masked

def Value.maskedList : List Value → List Value
  | [] => []
  | v :: rest => v.masked :: Value.maskedList rest

def Value.maskedEntries : List (Value × Value) → List (Value × Value)
  | [] => []
  | (key, value) :: rest => (key.masked, value.masked) :: Value.maskedEntries rest

/-- Only the values that are bound are masked; names and raw texts stay. -/
def Node.masked : Node → Node
  | .verbatim sql => .verbatim sql
  | .template sql args => .template sql (Value.maskedList args)
  | .ident name => .ident name
  | .compare column op value => .compare column op value.masked
  | .combine op items => .combine op (Node.maskedList items)
  | .aliased source aliasName => .aliased source.masked aliasName
  | .select body => .select body.masked
  | .union kind members => .union kind (Node.maskedList members)
  | .insert body => .insert body.masked
  | .update body => .update body.masked
  | .delete body => .delete body.masked

def Node.maskedList : List Node → List Node
  | [] => []
  | n :: rest => n.masked :: Node.maskedList rest

def Node.maskedOption : Option Node → Option Node
  | none => none
  | some n => some n.masked

def Select.masked : Select → Select
  | ⟨columns, isDistinct, source, sourceAlias, joins, conditions, groups, having, orders, limit,
      offset⟩ =>
    ⟨Node.maskedList columns, isDistinct, Node.maskedOption source, sourceAlias,
      Join.maskedList joins, Node.maskedList conditions, Node.maskedList groups,
      Node.maskedList having, OrderItem.maskedList orders, limit, offset⟩

def Join.masked : Join → Join
  | ⟨kind, source, aliasName, on⟩ => ⟨kind, source.masked, aliasName, on.masked⟩

def Join.maskedList : List Join → List Join
  | [] => []
  | j :: rest => j.masked :: Join.maskedList rest

def OrderItem.masked : OrderItem → OrderItem
  | ⟨item, direction⟩ => ⟨item.masked, direction⟩

def OrderItem.maskedList : List OrderItem → List OrderItem
  | [] => []
  | o :: rest => o.masked :: OrderItem.maskedList rest

def Insert.masked : Insert → Insert
  | ⟨table, columnNames, rows, query, conflict, returning, mapper⟩ =>
    ⟨table, columnNames, Insert.maskedRows rows, Node.maskedOption query,
      Insert.maskedConflict conflict, returning, mapper⟩

def Insert.maskedRows : List (List Value) → List (List Value)
  | [] => []
  | row :: rest => Value.maskedList row :: Insert.maskedRows rest

def Insert.maskedConflict : Option OnConflict → Option OnConflict
  | none => none
  | some conflict => some conflict.masked

def OnConflict.masked : OnConflict → OnConflict
  | ⟨target, actions, ignore⟩ => ⟨target, ConflictAction.maskedList actions, ignore⟩

def ConflictAction.masked : ConflictAction → ConflictAction
  | .proposed column => .proposed column
  | .set column value => .set column value.masked

def ConflictAction.maskedList : List ConflictAction → List ConflictAction
  | [] => []
  | a :: rest => a.masked :: ConflictAction.maskedList rest

def Assignment.masked : Assignment → Assignment
  | ⟨column, value⟩ => ⟨column, value.masked⟩

def Assignment.maskedList : List Assignment → List Assignment
  | [] => []
  | a :: rest => a.masked :: Assignment.maskedList rest

def Update.masked : Update → Update
  | ⟨table, assignments, conditions, returning, mapper⟩ =>
    ⟨table, Assignment.maskedList assignments, Node.maskedList conditions, returning, mapper⟩

def Delete.masked : Delete → Delete
  | ⟨table, conditions, returning⟩ => ⟨table, Node.maskedList conditions, returning⟩

end

namespace Value

theorem maskedList_eq_map (vs : List Value) : maskedList vs = vs.map masked := by
  induction vs with
  | nil => rw [maskedList, List.map_nil]
  | cons v rest ih => rw [maskedList, ih, List.map_cons]

theorem length_maskedList (vs : List Value) : (maskedList vs).length = vs.length := by
  rw [maskedList_eq_map, List.length_map]

theorem map_fst_maskedEntries (entries : List (Value × Value)) :
    (maskedEntries entries).map Prod.fst = maskedList (entries.map Prod.fst) := by
  induction entries with
  | nil => rw [maskedEntries, List.map_nil, maskedList]
  | cons e rest ih =>
    obtain ⟨key, value⟩ := e
    rw [maskedEntries, List.map_cons, ih, List.map_cons, maskedList]

end Value

theorem Node.isQuery_masked (n : Node) : n.masked.isQuery = n.isQuery := by
  cases n <;> rw [Node.masked] <;> rfl

theorem Node.typeName_masked (n : Node) : n.masked.typeName = n.typeName := by
  cases n <;> rw [Node.masked] <;> rfl

theorem Value.isCollection_masked (v : Value) : v.masked.isCollection = v.isCollection := by
  cases v <;> rw [Value.masked] <;> rfl

theorem Scalar.typeName_masked (s : Scalar) : s.masked.typeName = s.typeName := by
  cases s <;> rfl

theorem Value.typeName_masked (v : Value) : v.masked.typeName = v.typeName := by
  cases v with
  | scalar s =>
    rw [masked]
    exact s.typeName_masked
  | node n =>
    rw [masked]
    exact n.typeName_masked
  | foreign name => rw [masked]
  | _ =>
    rw [masked]
    rfl

theorem Node.isEmpty_maskedList (ns : List Node) : (maskedList ns).isEmpty = ns.isEmpty := by
  cases ns with
  | nil => rw [maskedList]
  | cons =>
    rw [maskedList]
    rfl

theorem Node.isSome_maskedOption (n : Option Node) : (maskedOption n).isSome = n.isSome := by
  cases n with
  | none => rw [maskedOption]
  | some =>
    rw [maskedOption]
    rfl

theorem Node.isNone_maskedOption (n : Option Node) : (maskedOption n).isNone = n.isNone := by
  cases n with
  | none => rw [maskedOption]
  | some =>
    rw [maskedOption]
    rfl

theorem Insert.isEmpty_maskedRows (rows : List (List Value)) :
    (maskedRows rows).isEmpty = rows.isEmpty := by
  cases rows with
  | nil => rw [maskedRows]
  | cons =>
    rw [maskedRows]
    rfl

theorem Insert.isNone_maskedConflict (c : Option OnConflict) :
    (maskedConflict c).isNone = c.isNone := by
  cases c with
  | none => rw [maskedConflict]
  | some =>
    rw [maskedConflict]
    rfl

theorem ConflictAction.isEmpty_maskedList (as : List ConflictAction) :
    (maskedList as).isEmpty = as.isEmpty := by
  cases as with
  | nil => rw [maskedList]
  | cons =>
    rw [maskedList]
    rfl

theorem Assignment.isEmpty_maskedList (as : List Assignment) :
    (maskedList as).isEmpty = as.isEmpty := by
  cases as with
  | nil => rw [maskedList]
  | cons =>
    rw [maskedList]
    rfl

end SqlRender
